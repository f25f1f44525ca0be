import Crewon.Domain.RunEvent

/-!
# Receipts of tool executions

A receipt follows one call of a tool from its preparation to its end. It is dispatched before the
tool runs; when nobody knows how the tool ended, its outcome is unknown until it is resolved. Every
transition checks the receipt it starts from, and the time it happens at.
-/

namespace Crewon.Domain

open Crewon.Js Crewon.Checked

/-- What a tool may do. -/
inductive ToolExecutionEffect where
  | readOnly
  | mutation
deriving DecidableEq

/-- What can be done about a call whose outcome is unknown. -/
inductive ToolExecutionRecovery where
  | replaySafe
  | reconcilable
deriving DecidableEq

/-- Where a tool runs. -/
inductive ToolTargetKind where
  | control
  | device
  | docker
  | remote
deriving DecidableEq

/-- Whether every call needs an approval of its own. -/
inductive ToolApprovalRequirement where
  | none
  | perAction
deriving DecidableEq

/-- The tool of an intent, with the digest of its input. -/
structure ToolActionTool where
  kind : ToolKind
  name : JsString
  inputDigest : JsString
deriving DecidableEq

/-- Where a tool is to run. -/
structure ToolExecutionTarget where
  kind : ToolTargetKind
  bindingId : JsString
deriving DecidableEq

/-- The limits of a tool. -/
structure ToolActionLimits where
  timeoutMs : Int
  maxOutputBytes : Int
  maxArtifactBytes : Int
deriving DecidableEq

/-- What a call of a tool is meant to do. -/
structure ToolActionIntentState where
  schemaVersion : JsString
  runId : JsString
  segmentId : JsString
  callId : JsString
  tool : ToolActionTool
  effect : ToolExecutionEffect
  recovery : ToolExecutionRecovery
  policySnapshotId : JsString
  workspaceBindingId : Option JsString
  resourceBindingId : Option JsString
  credentialBindingId : Option JsString
  executionTarget : ToolExecutionTarget
  capability : JsString
  approvalRequirement : ToolApprovalRequirement
  limits : ToolActionLimits
deriving DecidableEq

/-- Where a receipt stands. -/
inductive ToolExecutionReceiptStatus where
  | prepared
  | dispatched
  | unknownOutcome
  | completed
  | canceled
deriving DecidableEq

/-- What a tool returned. -/
structure ToolExecutionResult where
  output : JsString
  outputDigest : JsString
  isError : Bool
  artifactRef : Option JsString
  workspaceChanges : Option WorkspaceChangeSummary
deriving DecidableEq

/-- The call of a receipt. -/
structure ToolExecutionCall where
  segmentId : JsString
  callId : JsString
  kind : ToolKind
  name : JsString
  inputDigest : JsString
deriving DecidableEq

/-- The state of a receipt. -/
structure ToolExecutionReceiptState where
  schemaVersion : JsString
  receiptId : JsString
  tenantId : JsString
  runId : JsString
  stepId : JsString
  attemptId : JsString
  workItemId : JsString
  executionId : JsString
  idempotencyKey : JsString
  actionDigest : JsString
  actionIntent : Option ToolActionIntentState
  call : ToolExecutionCall
  effect : ToolExecutionEffect
  recovery : ToolExecutionRecovery
  status : ToolExecutionReceiptStatus
  revision : Int
  providerReceiptId : Option JsString
  result : Option ToolExecutionResult
  preparedAt : JsString
  dispatchedAt : Option JsString
  updatedAt : JsString
  resolvedAt : Option JsString
deriving DecidableEq

/-- A rejection of a receipt. -/
def toolExecutionReceiptError (code : String) : Failure := ⟨.toolExecutionReceipt, code⟩

/-- The name of a status. -/
def ToolExecutionReceiptStatus.name : ToolExecutionReceiptStatus → String
  | .prepared => "prepared"
  | .dispatched => "dispatched"
  | .unknownOutcome => "unknownOutcome"
  | .completed => "completed"
  | .canceled => "canceled"

/-- Reject a text that is blank or longer than the bound in units. -/
def requireBoundedLength (value : JsString) (maxLength : Nat) (code : String) : Checked Unit :=
  rejectIf (value.isBlank = true ∨ maxLength < value.length) (toolExecutionReceiptError code)

/-- Reject a text that is present, and blank or longer than the bound in units. -/
def requireNullableBoundedLength (value : Option JsString) (maxLength : Nat) (code : String) :
    Checked Unit :=
  whenPresent value fun text => requireBoundedLength text maxLength code

/-- Reject a text that is not a digest. -/
def requireReceiptDigest (value : JsString) (code : String) : Checked Unit :=
  rejectIf (isDigest value = false) (toolExecutionReceiptError code)

/-- The pattern `^[A-Za-z0-9][A-Za-z0-9._:-]{0,511}$`. -/
def isBoundedOpaqueId (text : JsString) : Bool := isOpaqueId text && text.length ≤ 512

/-- Reject a text that is not an opaque id. -/
def requireReceiptOpaqueId (value : JsString) (code : String) : Checked Unit :=
  rejectIf (isBoundedOpaqueId value = false) (toolExecutionReceiptError code)

/-- Reject a time that is no timestamp or before another one. -/
def requireOrderedTimestamp (value earliest : JsString) (code : String) : Checked Unit := do
  requireTimestamp value (toolExecutionReceiptError code)
  rejectIf (isEarlier value earliest = true) (toolExecutionReceiptError code)

/-- The pattern `^[A-Za-z0-9_.:-]{1,128}$`. -/
def isToolName (text : JsString) : Bool :=
  1 ≤ text.length && text.length ≤ 128 && text.units.all fun point =>
    isAlphanumeric point || point == unit '_' || point == unit '.' || point == unit ':' ||
      point == unit '-'

/-- The pattern `^[a-z][a-z0-9]*(?:[._:-][a-z0-9]+){0,15}$`: up to 16 words between separators. -/
def isCapability (text : JsString) : Bool :=
  let words := text.units.splitOnP fun point =>
    point == unit '.' || point == unit '_' || point == unit ':' || point == unit '-'
  text.units.head?.any isLowerLetter && words.length ≤ 16 &&
    words.all fun word => !word.isEmpty && word.all fun point =>
      isLowerLetter point || isDigit point

/-- A number from one to a bound. -/
def isPositiveIntegerAtMost (value maximum : Int) : Bool :=
  isSafeInteger value && 1 ≤ value && value ≤ maximum

/-- The checks of an intent against the receipt it belongs to. -/
def validateActionIntent (intent : ToolActionIntentState) (receipt : ToolExecutionReceiptState) :
    Checked Unit := do
  rejectIf (intent.schemaVersion ≠ js "crewon.action-intent.v0" ∨
      intent.runId ≠ receipt.runId ∨ intent.segmentId ≠ receipt.call.segmentId ∨
      intent.callId ≠ receipt.call.callId ∨ intent.tool.kind ≠ receipt.call.kind ∨
      intent.tool.name ≠ receipt.call.name ∨
      intent.tool.inputDigest ≠ receipt.call.inputDigest ∨ intent.effect ≠ receipt.effect ∨
      intent.recovery ≠ receipt.recovery)
    (toolExecutionReceiptError "tool_action_intent_mismatch")
  requireBoundedLength intent.policySnapshotId 512 "tool_action_policy_snapshot_invalid"
  forEach [intent.workspaceBindingId, intent.resourceBindingId, intent.credentialBindingId]
    fun binding => whenPresent binding fun value =>
      requireReceiptOpaqueId value "tool_action_binding_invalid"
  requireReceiptOpaqueId intent.executionTarget.bindingId "tool_action_target_invalid"
  rejectIf (isCapability intent.capability = false ∨ 128 < intent.capability.length)
    (toolExecutionReceiptError "tool_action_capability_invalid")
  rejectIf (isPositiveIntegerAtMost intent.limits.timeoutMs 86400000 = false ∨
      isPositiveIntegerAtMost intent.limits.maxOutputBytes 1048576 = false ∨
      isPositiveIntegerAtMost intent.limits.maxArtifactBytes 1073741824 = false)
    (toolExecutionReceiptError "tool_action_limits_invalid")

/-- The checks of a result. -/
def validateResult (result : ToolExecutionResult) : Checked Unit := do
  rejectIf (result.output.fitsBytes (256 * 1024) = false)
    (toolExecutionReceiptError "tool_result_invalid")
  requireReceiptDigest result.outputDigest "tool_output_digest_invalid"
  requireNullableBoundedLength result.artifactRef 512 "tool_artifact_ref_invalid"
  whenPresent result.workspaceChanges fun changes =>
    (validateWorkspaceChangeSummary changes).mapError fun _ =>
      toolExecutionReceiptError "tool_workspace_changes_invalid"

/-- The tool was dispatched whenever a receipt has this status. -/
def ToolExecutionReceiptStatus.dispatchRequired (status : ToolExecutionReceiptStatus) : Bool :=
  status = .dispatched || status = .unknownOutcome || status = .completed

/-- A receipt that ended. -/
def ToolExecutionReceiptStatus.resolved (status : ToolExecutionReceiptStatus) : Bool :=
  status = .completed || status = .canceled

/-- The times and the result of a receipt agree with its status. -/
def validateStateShape (receipt : ToolExecutionReceiptState) : Checked Unit := do
  rejectIf ((receipt.status = .prepared ∧ receipt.dispatchedAt ≠ none) ∨
      (receipt.status.dispatchRequired = true ∧ receipt.dispatchedAt = none) ∨
      receipt.status.resolved ≠ receipt.resolvedAt.isSome ∨
      decide (receipt.status = .completed) ≠ receipt.result.isSome)
    (toolExecutionReceiptError "tool_receipt_state_invalid")
  whenPresent receipt.dispatchedAt fun dispatchedAt =>
    requireOrderedTimestamp dispatchedAt receipt.preparedAt "tool_receipt_dispatched_at_invalid"
  whenPresent receipt.resolvedAt fun resolvedAt =>
    requireOrderedTimestamp resolvedAt (receipt.dispatchedAt.getD receipt.preparedAt)
      "tool_receipt_resolved_at_invalid"
  rejectIf (isEarlier receipt.updatedAt receipt.preparedAt = true)
    (toolExecutionReceiptError "tool_receipt_updated_at_invalid")
  whenPresent receipt.result validateResult

/-- The checks of a receipt. -/
def validateToolExecutionReceipt (receipt : ToolExecutionReceiptState) : Checked Unit := do
  rejectIf (receipt.schemaVersion ≠ js "crewon.tool-execution-receipt.v0")
    (toolExecutionReceiptError "tool_receipt_schema_invalid")
  forEach [receipt.receiptId, receipt.tenantId, receipt.runId, receipt.stepId, receipt.attemptId,
      receipt.workItemId, receipt.executionId, receipt.idempotencyKey, receipt.call.segmentId,
      receipt.call.callId]
    fun value => requireBoundedLength value 512 "tool_receipt_identity_invalid"
  requireReceiptDigest receipt.actionDigest "tool_action_digest_invalid"
  whenPresent receipt.actionIntent fun intent => validateActionIntent intent receipt
  requireReceiptDigest receipt.call.inputDigest "tool_input_digest_invalid"
  rejectIf (isToolName receipt.call.name = false)
    (toolExecutionReceiptError "tool_call_identity_invalid")
  rejectIf (receipt.effect = .mutation ∧ receipt.recovery ≠ .reconcilable)
    (toolExecutionReceiptError "tool_mutation_not_reconcilable")
  rejectIf (isPositiveInteger receipt.revision = false)
    (toolExecutionReceiptError "tool_receipt_state_invalid")
  requireTimestamp receipt.preparedAt (toolExecutionReceiptError "tool_receipt_prepared_at_invalid")
  requireTimestamp receipt.updatedAt (toolExecutionReceiptError "tool_receipt_updated_at_invalid")
  requireNullableBoundedLength receipt.providerReceiptId 512 "tool_provider_receipt_id_invalid"
  validateStateShape receipt

/-- What a receipt is prepared from. -/
structure PrepareToolExecutionReceiptInput where
  receiptId : JsString
  tenantId : JsString
  runId : JsString
  stepId : JsString
  attemptId : JsString
  workItemId : JsString
  executionId : JsString
  idempotencyKey : JsString
  actionDigest : JsString
  actionIntent : ToolActionIntentState
  call : ToolExecutionCall
  effect : ToolExecutionEffect
  recovery : ToolExecutionRecovery
  preparedAt : JsString
deriving DecidableEq

/-- Prepare a receipt. -/
def prepareToolExecutionReceipt (input : PrepareToolExecutionReceiptInput) :
    Checked ToolExecutionReceiptState := do
  let receipt : ToolExecutionReceiptState := {
    schemaVersion := js "crewon.tool-execution-receipt.v0"
    receiptId := input.receiptId
    tenantId := input.tenantId
    runId := input.runId
    stepId := input.stepId
    attemptId := input.attemptId
    workItemId := input.workItemId
    executionId := input.executionId
    idempotencyKey := input.idempotencyKey
    actionDigest := input.actionDigest
    actionIntent := some input.actionIntent
    call := input.call
    effect := input.effect
    recovery := input.recovery
    status := .prepared
    revision := 1
    providerReceiptId := none
    result := none
    preparedAt := input.preparedAt
    dispatchedAt := none
    updatedAt := input.preparedAt
    resolvedAt := none }
  validateToolExecutionReceipt receipt
  return receipt

/-- A transition starts from one of these statuses. -/
def requireReceiptStatus (receipt : ToolExecutionReceiptState)
    (allowed : List ToolExecutionReceiptStatus) : Checked Unit :=
  rejectIf (receipt.status ∉ allowed)
    (toolExecutionReceiptError ("tool_receipt_invalid_transition:" ++ receipt.status.name))

/-- The tool is about to run. -/
def dispatchToolExecutionReceipt (receipt : ToolExecutionReceiptState) (dispatchedAt : JsString) :
    Checked ToolExecutionReceiptState := do
  validateToolExecutionReceipt receipt
  requireReceiptStatus receipt [.prepared]
  requireOrderedTimestamp dispatchedAt receipt.updatedAt "tool_receipt_dispatched_at_invalid"
  return { receipt with
    status := .dispatched
    revision := receipt.revision + 1
    dispatchedAt := some dispatchedAt
    updatedAt := dispatchedAt }

/-- Nobody knows how the tool ended. -/
def markToolExecutionUnknownOutcome (receipt : ToolExecutionReceiptState)
    (observedAt : JsString) (providerReceiptId : Option JsString) :
    Checked ToolExecutionReceiptState := do
  validateToolExecutionReceipt receipt
  requireReceiptStatus receipt [.dispatched]
  requireOrderedTimestamp observedAt receipt.updatedAt "tool_receipt_observed_at_invalid"
  requireNullableBoundedLength providerReceiptId 512 "tool_provider_receipt_id_invalid"
  return { receipt with
    status := .unknownOutcome
    revision := receipt.revision + 1
    providerReceiptId := providerReceiptId
    updatedAt := observedAt }

/-- How a receipt ends. -/
inductive ToolExecutionResolution where
  | completed (resolvedAt providerReceiptId : JsString) (result : ToolExecutionResult)
  | canceled (resolvedAt : JsString) (providerReceiptId : Option JsString)
deriving DecidableEq

/-- The status that a receipt ends in. -/
def ToolExecutionResolution.status : ToolExecutionResolution → ToolExecutionReceiptStatus
  | .completed .. => .completed
  | .canceled .. => .canceled

/-- When a receipt ends. -/
def ToolExecutionResolution.resolvedAt : ToolExecutionResolution → JsString
  | .completed resolvedAt _ _ => resolvedAt
  | .canceled resolvedAt _ => resolvedAt

/-- The receipt of the provider that a receipt ends with. -/
def ToolExecutionResolution.providerReceiptId : ToolExecutionResolution → Option JsString
  | .completed _ providerReceiptId _ => some providerReceiptId
  | .canceled _ providerReceiptId => providerReceiptId

/-- The result that a receipt ends with. -/
def ToolExecutionResolution.result : ToolExecutionResolution → Option ToolExecutionResult
  | .completed _ _ result => some result
  | .canceled .. => none

/-- A receipt is completed with a result, after it was dispatched. -/
def validateResolution (receipt : ToolExecutionReceiptState) :
    ToolExecutionResolution → Checked Unit
  | .completed _ _ result => do
    rejectIf (receipt.status = .prepared) (toolExecutionReceiptError "tool_receipt_not_dispatched")
    validateResult result
  | .canceled .. => .ok ()

/-- End a receipt. -/
def resolveToolExecutionReceipt (receipt : ToolExecutionReceiptState)
    (resolution : ToolExecutionResolution) : Checked ToolExecutionReceiptState := do
  validateToolExecutionReceipt receipt
  requireReceiptStatus receipt [.prepared, .dispatched, .unknownOutcome]
  requireOrderedTimestamp resolution.resolvedAt receipt.updatedAt
    "tool_receipt_resolved_at_invalid"
  requireNullableBoundedLength resolution.providerReceiptId 512 "tool_provider_receipt_id_invalid"
  validateResolution receipt resolution
  let next : ToolExecutionReceiptState := { receipt with
    status := resolution.status
    revision := receipt.revision + 1
    providerReceiptId := resolution.providerReceiptId
    result := resolution.result
    updatedAt := resolution.resolvedAt
    resolvedAt := some resolution.resolvedAt }
  validateToolExecutionReceipt next
  return next

end Crewon.Domain
