import Crewon.Application.WorkflowExecutionPlanning
import Mathlib.Data.List.Infix

/-!
# The workflow execution service

Every operation of the service looks for its own receipt first. Without one it loads the state,
computes the next one and swaps it in while the revision it loaded is current, and starts over when
it is not. Any number of calls take these steps interleaved.
-/

namespace Crewon.Application

open Crewon.Js Crewon.Checked Crewon.Domain Crewon.Store Crewon.Lib

/-- How a claimed node ended. -/
inductive WorkflowNodeOutcome where
  | completed (resultDigest : JsString)
  | failed (failureCode : JsString)
  | canceled
  | unknown
deriving DecidableEq

/-- The status of a node that ended this way. -/
def WorkflowNodeOutcome.status : WorkflowNodeOutcome → WorkflowNodeStatus
  | .completed _ => .completed
  | .failed _ => .failed
  | .canceled => .canceled
  | .unknown => .unknown

/-- The result of a node that ended this way. -/
def WorkflowNodeOutcome.resultDigest : WorkflowNodeOutcome → Option JsString
  | .completed resultDigest => some resultDigest
  | _ => none

/-- The failure of a node that ended this way. -/
def WorkflowNodeOutcome.failureCode : WorkflowNodeOutcome → Option JsString
  | .failed failureCode => some failureCode
  | _ => none

/-- The outcome as it is written. -/
def WorkflowNodeOutcome.json : WorkflowNodeOutcome → JsonValue
  | .completed resultDigest =>
    .object [("status", .string (js "completed")), ("resultDigest", .string resultDigest)]
  | .failed failureCode =>
    .object [("status", .string (js "failed")), ("failureCode", .string failureCode)]
  | .canceled => .object [("status", .string (js "canceled"))]
  | .unknown => .object [("status", .string (js "unknown"))]

/-- What a call asks for. -/
inductive WorkflowOperation where
  | claimReady (leaseDurationMs : Int)
  | settleNode (nodeId claimId : JsString) (outcome : WorkflowNodeOutcome)
  | requestCancel
deriving DecidableEq

/-- A call of the service. -/
structure WorkflowCall where
  binding : FrozenWorkflowVersionBinding
  operationId : JsString
  operation : WorkflowOperation
deriving DecidableEq

/-- The run that the calls are about, its workflow and the digester of the service. -/
structure WorkflowRun where
  tenantId : JsString
  runId : JsString
  workflow : CompiledWorkflowVersion
  sha256 : JsString → JsString

/-- What a call reads off its dependencies in one turn. -/
structure CallEnvironment where
  now : JsString
  /-- The ids that are drawn, one after the other. -/
  nextId : Nat → JsString

/-- What a call returns. -/
inductive WorkflowOutcome where
  | claims (claims : List WorkflowNodeClaim)
  | state (state : WorkflowExecutionState)
deriving DecidableEq

/-- A conflict of the service. -/
def applicationConflict (code : String) : Failure := ⟨.applicationConflict, code⟩

/-- An error of the store as one of the service. -/
def storeCallError (failure : Failure) : Failure :=
  if failure.kind = .store then
    if "conflict".toList <:+: failure.code.toList then ⟨.applicationConflict, failure.code⟩
    else ⟨.applicationInternal, failure.code⟩
  else ⟨.applicationInternal, "workflow_execution_store_failed"⟩

mutual

/-- Every text in a value is well formed. -/
def wellFormedJson : JsonValue → Bool
  | .string value => !value.hasLoneSurrogate
  | .array items => wellFormedItems items
  | .object fields => wellFormedFields fields
  | _ => true

/-- Every text in the items is well formed. -/
def wellFormedItems : List JsonValue → Bool
  | [] => true
  | item :: rest => wellFormedJson item && wellFormedItems rest

/-- Every text in the fields is well formed. -/
def wellFormedFields : List (String × JsonValue) → Bool
  | [] => true
  | field :: rest => wellFormedJson field.2 && wellFormedFields rest

end

mutual

/-- The value with the fields of every record in the order of their names. -/
def stabilize : JsonValue → JsonValue
  | .array items => .array (stabilizeItems items)
  | .object fields => .object ((stabilizeFields fields).insertionSort fun left right =>
      (js right.1).before (js left.1) = false)
  | value => value

/-- The items with sorted fields. -/
def stabilizeItems : List JsonValue → List JsonValue
  | [] => []
  | item :: rest => stabilize item :: stabilizeItems rest

/-- The fields with sorted fields inside them. -/
def stabilizeFields : List (String × JsonValue) → List (String × JsonValue)
  | [] => []
  | (name, value) :: rest => (name, stabilize value) :: stabilizeFields rest

end

/-- The text of a value with sorted fields; a text that is not well formed is rejected. -/
def canonicalJson (value : JsonValue) : Checked JsString :=
  if wellFormedJson value then .ok ⟨(stabilize value).write⟩
  else .error ⟨.applicationValidation, "command_non_json_value"⟩

/-- A binding as it is written. -/
def bindingJson (binding : FrozenWorkflowVersionBinding) : JsonValue :=
  .object [
    ("workflowId", .string binding.workflowId),
    ("workflowVersionId", .string binding.workflowVersionId),
    ("contentDigest", .string binding.contentDigest)]

/-- The fingerprint of an operation that was computed from a revision. That of a settlement does
not depend on the revision. -/
def operationFingerprint (run : WorkflowRun) (call : WorkflowCall) (expectedRevision : Int) :
    Checked JsString :=
  match call.operation with
  | .claimReady leaseDurationMs =>
    canonicalJson (.object [
      ("kind", .string (js "workflow.claim.v1")),
      ("tenantId", .string run.tenantId),
      ("runId", .string run.runId),
      ("binding", bindingJson call.binding),
      ("expectedRevision", .number expectedRevision),
      ("leaseDurationMs", .number leaseDurationMs)])
  | .settleNode nodeId claimId outcome =>
    canonicalJson (.object [
      ("kind", .string (js "workflow.settle.v1")),
      ("tenantId", .string run.tenantId),
      ("runId", .string run.runId),
      ("binding", bindingJson call.binding),
      ("nodeId", .string nodeId),
      ("claimId", .string claimId),
      ("outcome", outcome.json)])
  | .requestCancel =>
    canonicalJson (.object [
      ("kind", .string (js "workflow.cancel.v1")),
      ("tenantId", .string run.tenantId),
      ("runId", .string run.runId),
      ("binding", bindingJson call.binding),
      ("expectedRevision", .number expectedRevision)])

/-- The state is that of the workflow and the binding. -/
def assertBinding (run : WorkflowRun) (binding : FrozenWorkflowVersionBinding)
    (state : WorkflowExecutionState) : Checked Unit :=
  rejectIf (state.workflowId ≠ binding.workflowId ∨
      state.workflowVersionId ≠ run.workflow.workflowVersionId ∨
      state.contentDigest ≠ run.workflow.contentDigest ∨
      state.nodes.length ≠ run.workflow.nodes.length ∨
      ((state.nodes.zipIdx).all fun pair =>
        run.workflow.executionOrder[pair.2]? = some pair.1.nodeId) = false)
    (applicationConflict "workflow_execution_binding_mismatch")

/-- A lease lasts at least a millisecond and at most a day. -/
def requirePositiveDuration (value : Int) : Checked Unit :=
  rejectIf (isSafeInteger value = false ∨ value < 1 ∨ 24 * 60 * 60 * 1000 < value)
    ⟨.applicationValidation, "workflow_lease_duration_invalid"⟩

/-- The claim that the state of a node records. -/
def claimFromState (workflow : CompiledWorkflowVersion) (state : WorkflowExecutionNodeState) :
    Checked WorkflowNodeClaim :=
  match findNode workflow.nodes state.nodeId, state.claimId, state.inputDigest with
  | some node, some claimId, some inputDigest =>
    .ok ⟨node, claimId, state.claimEpoch, state.gateRequestId, inputDigest⟩
  | _, _, _ => .error ⟨.applicationInternal, "workflow_claim_state_corrupt"⟩

/-- The claims that some nodes record. -/
def claimsFromNodes (workflow : CompiledWorkflowVersion) :
    List WorkflowExecutionNodeState → Checked (List WorkflowNodeClaim)
  | [] => .ok []
  | state :: rest => do
    let claim ← claimFromState workflow state
    let others ← claimsFromNodes workflow rest
    return claim :: others

/-- The node is held by the claim operation. -/
def heldByOperation (operationId : JsString) (node : WorkflowExecutionNodeState) : Bool :=
  (node.status = .running || node.status = .waitingHuman) && node.claimId ≠ none &&
    node.claimOperationId = some operationId

/-- The claims that an operation made, from the state it left. -/
def claimsFromReceipt (workflow : CompiledWorkflowVersion) (state : WorkflowExecutionState)
    (operationId : JsString) : Checked (List WorkflowNodeClaim) :=
  claimsFromNodes workflow (state.nodes.filter (heldByOperation operationId))

/-- The digest of what a node is given: the results of the nodes it depends on. -/
def nodeInputDigest (run : WorkflowRun) (node : WorkflowNodeDefinition)
    (recovered : List WorkflowExecutionNodeState) : JsString :=
  run.sha256 ⟨(JsonValue.object [
    ("nodeId", .string node.nodeId),
    ("contentDigest", .string run.workflow.contentDigest),
    ("dependencies", .array (node.dependsOn.map fun dependency => .object [
      ("nodeId", .string dependency),
      ("resultDigest", .ofOption .string
        ((nodeState recovered dependency).bind (·.resultDigest)))]))]).write⟩

/-- A call returns at once, or proposes a next state. -/
inductive WorkflowPlan where
  | done (outcome : WorkflowOutcome)
  | swap (next : WorkflowExecutionState) (claims : List WorkflowNodeClaim)
deriving DecidableEq

/-- The instant a lease expires. -/
def leaseExpiryText (now : JsString) (leaseDurationMs : Int) : Checked JsString :=
  match (isoParse now).bind fun instant => toIsoString (instant + leaseDurationMs) with
  | some expiresAt => .ok expiresAt
  | none => .error ⟨.range, "Invalid time value"⟩

/-- What the claims of an operation are planned from. -/
def claimInput (run : WorkflowRun) (environment : CallEnvironment)
    (operationId expiresAt : JsString) : ClaimInput where
  now := environment.now
  expiresAt := expiresAt
  operationId := operationId
  maximumClaims := run.workflow.nodes.length
  lostClaimIds := []
  delegatedClaimIds := []
  nextId := environment.nextId
  inputDigest := nodeInputDigest run

/-- Claim the nodes that are ready. -/
def planClaimReady (run : WorkflowRun) (environment : CallEnvironment) (operationId : JsString)
    (leaseDurationMs : Int) (current : WorkflowExecutionState) : Checked WorkflowPlan :=
  if current.cancelRequested = true ∨ current.status ≠ .running then .ok (.done (.claims []))
  else do
    let expiresAt ← leaseExpiryText environment.now leaseDurationMs
    let planned := planWorkflowNodeClaims current run.workflow
      (claimInput run environment operationId expiresAt)
    match planned.1 with
    | none => return .done (.claims [])
    | some next => return .swap next planned.2

/-- The node after it ended. -/
def settledNode (outcome : WorkflowNodeOutcome) (node : WorkflowExecutionNodeState) :
    WorkflowExecutionNodeState :=
  { node with
    status := outcome.status
    leaseExpiresAt := none
    resultDigest := outcome.resultDigest
    failureCode := outcome.failureCode }

/-- The node has ended. -/
def isTerminalNode (status : WorkflowNodeStatus) : Bool :=
  status = .completed || status = .failed || status = .canceled

/-- The node that a settlement names, if it has the claim. -/
def settlementTarget (nodeId claimId : JsString) (current : WorkflowExecutionState) :
    Checked WorkflowExecutionNodeState :=
  match nodeState current.nodes nodeId with
  | none => .error (applicationConflict "workflow_node_claim_stale")
  | some target =>
    if target.claimId = some claimId then .ok target
    else .error (applicationConflict "workflow_node_claim_stale")

/-- Settle a claimed node. -/
def planSettleNode (environment : CallEnvironment) (nodeId claimId : JsString)
    (outcome : WorkflowNodeOutcome) (current : WorkflowExecutionState) : Checked WorkflowPlan := do
  let target ← settlementTarget nodeId claimId current
  rejectIf (isTerminalNode target.status = true)
    (applicationConflict "workflow_node_terminal_settlement_conflict")
  rejectIf (target.status ≠ .waitingHuman ∧ target.status ≠ .running ∧ target.status ≠ .unknown)
    (applicationConflict "workflow_node_not_settleable")
  let nodes := current.nodes.map fun node =>
    if node.nodeId = nodeId then settledNode outcome node else node
  return .swap (projectWorkflowExecution current nodes environment.now) []

/-- The node after a cancellation: one that does not run is canceled. -/
def canceledNode (node : WorkflowExecutionNodeState) : WorkflowExecutionNodeState :=
  if node.status = .pending ∨ node.status = .waitingHuman then
    { node with status := .canceled, leaseExpiresAt := none }
  else node

/-- Cancel a workflow. -/
def planRequestCancel (environment : CallEnvironment) (current : WorkflowExecutionState) :
    WorkflowPlan :=
  if current.cancelRequested = true ∧ current.status = .canceled then .done (.state current)
  else
    let nodes := current.nodes.map canceledNode
    .swap { projectWorkflowExecution current nodes environment.now with
      cancelRequested := true
      status :=
        if nodes.any fun node => node.status = .running || node.status = .unknown then .running
        else .canceled } []

/-- What a call proposes in a state. -/
def planCall (run : WorkflowRun) (environment : CallEnvironment) (call : WorkflowCall)
    (current : WorkflowExecutionState) : Checked WorkflowPlan :=
  match call.operation with
  | .claimReady leaseDurationMs =>
    planClaimReady run environment call.operationId leaseDurationMs current
  | .settleNode nodeId claimId outcome => planSettleNode environment nodeId claimId outcome current
  | .requestCancel => .ok (planRequestCancel environment current)

end Crewon.Application
