import Crewon.Domain.ToolExecutionReceipt

/-!
# Approvals of tool calls

A call that needs an approval waits for a decision, which has to come before the approval expires.
Without one the approval is ended: it expires, or another one supersedes it.
-/

namespace Crewon.Domain

open Crewon.Js Crewon.Checked

/-- Where an approval stands. -/
inductive ToolApprovalStatus where
  | required
  | approved
  | rejected
  | expired
  | superseded
deriving DecidableEq

/-- What a decision can be. -/
inductive ToolApprovalOutcome where
  | approved
  | rejected
deriving DecidableEq

/-- The status that a decision leads to. -/
def ToolApprovalOutcome.status : ToolApprovalOutcome → ToolApprovalStatus
  | .approved => .approved
  | .rejected => .rejected

/-- The ways in which an approval ends without a decision. -/
inductive ToolApprovalTermination where
  | expired
  | superseded
deriving DecidableEq

/-- The status of an approval that ended without a decision. -/
def ToolApprovalTermination.status : ToolApprovalTermination → ToolApprovalStatus
  | .expired => .expired
  | .superseded => .superseded

/-- A decision. -/
structure ToolApprovalDecision where
  outcome : ToolApprovalOutcome
  actorId : JsString
  comment : Option JsString
  decidedAt : JsString
deriving DecidableEq

/-- What an approval is for. -/
structure ToolApprovalIdentity where
  approvalId : JsString
  tenantId : JsString
  spaceId : JsString
  runId : JsString
  receiptId : JsString
  workItemId : JsString
  actionDigest : JsString
  policySnapshotId : JsString
  requestedByActorId : JsString
deriving DecidableEq

/-- The state of an approval. -/
structure ToolApprovalState extends ToolApprovalIdentity where
  schemaVersion : JsString
  status : ToolApprovalStatus
  revision : Int
  requiredAt : JsString
  expiresAt : Option JsString
  decision : Option ToolApprovalDecision
  terminalReasonCode : Option JsString
  updatedAt : JsString
deriving DecidableEq

/-- A rejection of an approval. -/
def toolApprovalError (code : String) : Failure := ⟨.toolApproval, code⟩

/-- Reject a text that is not an opaque id. -/
def requireApprovalOpaqueId (value : JsString) (code : String) : Checked Unit :=
  rejectIf (isBoundedOpaqueId value = false) (toolApprovalError code)

/-- Reject a comment that is blank or too long. -/
def requireComment (value : Option JsString) : Checked Unit :=
  whenPresent value fun text =>
    requireBoundedNonEmpty text 2048 (toolApprovalError "approval_comment_invalid")

/-- The checks of what an approval is for. -/
def validateIdentity (input : ToolApprovalIdentity) : Checked Unit := do
  requireApprovalOpaqueId input.approvalId "approval_id_invalid"
  requireApprovalOpaqueId input.tenantId "approval_tenant_id_invalid"
  requireApprovalOpaqueId input.spaceId "approval_space_id_invalid"
  requireApprovalOpaqueId input.runId "approval_run_id_invalid"
  requireApprovalOpaqueId input.receiptId "approval_receipt_id_invalid"
  requireApprovalOpaqueId input.workItemId "approval_work_item_id_invalid"
  requireApprovalOpaqueId input.policySnapshotId "approval_policy_snapshot_invalid"
  requireApprovalOpaqueId input.requestedByActorId "approval_request_actor_invalid"
  rejectIf (isDigest input.actionDigest = false)
    (toolApprovalError "approval_action_digest_invalid")

section Times

-- the host's reading of a date text in any format
variable (parse : JsString → Option Int)

/-- Reject a text that names no instant or does not end in `Z`. -/
def requireApprovalTimestamp (value : JsString) (code : String) : Checked Unit :=
  rejectIf (value.units.getLast? ≠ some (unit 'Z') ∨ parse value = none) (toolApprovalError code)

/-- Both texts name instants and the first one is before the second one. -/
def isBefore (left right : JsString) : Bool :=
  match parse left, parse right with
  | some first, some second => first < second
  | _, _ => false

/-- Both texts name instants and the first one is not after the second one. -/
def isNotAfter (left right : JsString) : Bool :=
  match parse left, parse right with
  | some first, some second => first ≤ second
  | _, _ => false

/-- Ask for an approval. -/
def createToolApproval (identity : ToolApprovalIdentity) (requiredAt : JsString)
    (expiresAt : Option JsString) : Checked ToolApprovalState := do
  validateIdentity identity
  requireApprovalTimestamp parse requiredAt "approval_required_at_invalid"
  whenPresent expiresAt fun expiry => do
    requireApprovalTimestamp parse expiry "approval_expires_at_invalid"
    rejectIf (isNotAfter parse expiry requiredAt = true)
      (toolApprovalError "approval_expiry_invalid")
  return { identity with
    schemaVersion := js "crewon.tool-approval.v0"
    status := .required
    revision := 1
    requiredAt := requiredAt
    expiresAt := expiresAt
    decision := none
    terminalReasonCode := none
    updatedAt := requiredAt }

/-- The decision of an approval agrees with its status. -/
def validateDecision (state : ToolApprovalState) (decision : ToolApprovalDecision) :
    Checked Unit := do
  rejectIf (state.revision ≠ 2 ∨ decision.outcome.status ≠ state.status ∨
      state.terminalReasonCode ≠ none ∨ state.updatedAt ≠ decision.decidedAt)
    (toolApprovalError "approval_state_invalid")
  requireApprovalOpaqueId decision.actorId "approval_actor_id_invalid"
  requireComment decision.comment
  requireApprovalTimestamp parse decision.decidedAt "approval_decided_at_invalid"

/-- What an approval records of its end agrees with its status. -/
def validateOutcome (state : ToolApprovalState) : Checked Unit :=
  match state.status with
  | .required =>
    rejectIf (state.revision ≠ 1 ∨ state.decision ≠ none ∨ state.terminalReasonCode ≠ none ∨
        state.updatedAt ≠ state.requiredAt)
      (toolApprovalError "approval_state_invalid")
  | .approved | .rejected =>
    match state.decision with
    | none => .error (toolApprovalError "approval_state_invalid")
    | some decision => validateDecision parse state decision
  | .expired | .superseded =>
    match state.terminalReasonCode with
    | none => .error (toolApprovalError "approval_state_invalid")
    | some reasonCode => do
      rejectIf (state.revision ≠ 2 ∨ state.decision ≠ none)
        (toolApprovalError "approval_state_invalid")
      requireApprovalOpaqueId reasonCode "approval_terminal_reason_invalid"

/-- The checks of an approval. -/
def validateToolApprovalState (state : ToolApprovalState) : Checked Unit := do
  rejectIf (state.schemaVersion ≠ js "crewon.tool-approval.v0" ∨
      isPositiveInteger state.revision = false)
    (toolApprovalError "approval_state_invalid")
  validateIdentity state.toToolApprovalIdentity
  requireApprovalTimestamp parse state.requiredAt "approval_required_at_invalid"
  requireApprovalTimestamp parse state.updatedAt "approval_updated_at_invalid"
  whenPresent state.expiresAt fun expiry =>
    requireApprovalTimestamp parse expiry "approval_expires_at_invalid"
  validateOutcome parse state

/-- Decide an approval before it expires. -/
def decideToolApproval (state : ToolApprovalState) (expectedRevision : Int)
    (decision : ToolApprovalDecision) : Checked ToolApprovalState := do
  validateToolApprovalState parse state
  rejectIf (state.status ≠ .required) (toolApprovalError "approval_already_terminal")
  rejectIf (expectedRevision ≠ state.revision) (toolApprovalError "approval_revision_conflict")
  requireApprovalOpaqueId decision.actorId "approval_actor_id_invalid"
  requireComment decision.comment
  requireApprovalTimestamp parse decision.decidedAt "approval_decided_at_invalid"
  rejectIf (isBefore parse decision.decidedAt state.requiredAt = true)
    (toolApprovalError "approval_decision_time_invalid")
  whenPresent state.expiresAt fun expiry =>
    rejectIf (isNotAfter parse expiry decision.decidedAt = true)
      (toolApprovalError "approval_expired")
  return { state with
    status := decision.outcome.status
    revision := state.revision + 1
    decision := some decision
    updatedAt := decision.decidedAt }

/-- End an approval without a decision. -/
def terminateToolApproval (state : ToolApprovalState) (status : ToolApprovalTermination)
    (expectedRevision : Int) (reasonCode occurredAt : JsString) : Checked ToolApprovalState := do
  validateToolApprovalState parse state
  rejectIf (state.status ≠ .required) (toolApprovalError "approval_already_terminal")
  rejectIf (expectedRevision ≠ state.revision) (toolApprovalError "approval_revision_conflict")
  requireApprovalOpaqueId reasonCode "approval_terminal_reason_invalid"
  requireApprovalTimestamp parse occurredAt "approval_terminal_at_invalid"
  rejectIf (isBefore parse occurredAt state.requiredAt = true)
    (toolApprovalError "approval_terminal_time_invalid")
  return { state with
    status := status.status
    revision := state.revision + 1
    terminalReasonCode := some reasonCode
    updatedAt := occurredAt }

end Times

end Crewon.Domain
