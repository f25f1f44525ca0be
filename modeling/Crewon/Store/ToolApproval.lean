import Crewon.Domain.ToolApproval
import Crewon.Js.StableJson
import Crewon.Store.CancellationWake

/-!
# Approvals in the store

An approval enters the store once, required. A decision, its expiry, the cancellation of its run
or another approval that replaces it ends it, each together with the commit of an event of the run.
-/

namespace Crewon.Store

open Crewon.Js Crewon.Checked Crewon.Domain Crewon.Lib

/-- Rejections of an approval become rejections of the store with the same code. -/
def normalizeToolApprovalError (failure : Failure) : Failure :=
  if failure.kind = .toolApproval then runStoreError failure.code else failure

/-- A request to decide an approval. -/
structure DecideToolApprovalInput where
  tenantId : JsString
  approvalId : JsString
  expectedRevision : Int
  decision : ToolApprovalDecision
  commit : CommitRunInput

/-- A request to end an approval. -/
structure ExpireToolApprovalInput where
  tenantId : JsString
  approvalId : JsString
  lease : WorkItemLeaseInput
  expectedRevision : Int
  occurredAt : JsString
  commit : CommitRunInput

/-- A request to replace an approval. -/
structure ReplaceToolApprovalInput where
  tenantId : JsString
  approvalId : JsString
  expectedRevision : Int
  actionDigest : JsString
  lease : WorkItemLeaseInput
  replacement : ToolApprovalState
  occurredAt : JsString
  commit : CommitRunInput

/-- The commit that asks for an approval records that. -/
def requiresApproval (approval : ToolApprovalState) (event : RunLifecycleEvent) : Bool :=
  match event.data with
  | .runApprovalRequired data =>
    data.approvalId = approval.approvalId ∧ data.actionDigest = approval.actionDigest
  | _ => false

/-- The run is resumed for a reason. -/
def resumesFor (reasonCode : JsString) (event : RunLifecycleEvent) : Bool :=
  match event.data with
  | .runResumed reason => reason = reasonCode
  | _ => false

/-- The reason to resume a run whose approval ended. -/
def approvalReason : ToolApprovalStatus → JsString
  | .required => js "tool_approval_required"
  | .approved => js "tool_approval_approved"
  | .rejected => js "tool_approval_rejected"
  | .expired => js "tool_approval_expired"
  | .superseded => js "tool_approval_superseded"

/-- The commit that belongs to an approval has one event, which the approval decides. -/
def validateApprovalRunCommit (approval : ToolApprovalState) (commit : CommitRunInput)
    (recorded : RunLifecycleEvent → Bool) : Checked Unit :=
  let mismatch := runStoreError "tool_approval_run_commit_mismatch"
  match commit.events with
  | [event] => rejectIf (commit.tenantId ≠ approval.tenantId ∨ event.runId ≠ approval.runId ∨
      commit.workItems ≠ [] ∨ recorded event = false) mismatch
  | _ => .error mismatch

/-- The checks of a replacement. -/
def validateToolApprovalReplacement (current : ToolApprovalState)
    (input : ReplaceToolApprovalInput) : Checked Unit :=
  rejectIf (current.status ≠ .required ∨ current.actionDigest ≠ input.actionDigest ∨
      current.tenantId ≠ input.replacement.tenantId ∨
      current.spaceId ≠ input.replacement.spaceId ∨ current.runId ≠ input.replacement.runId ∨
      current.workItemId ≠ input.replacement.workItemId ∨
      current.actionDigest = input.replacement.actionDigest ∨
      current.approvalId = input.replacement.approvalId)
    (runStoreError "tool_approval_replacement_mismatch")

/-- The commit of a replacement resumes the run and asks for the new approval. -/
def validateToolApprovalReplacementCommit (current replacement : ToolApprovalState)
    (commit : CommitRunInput) : Checked Unit :=
  let mismatch := runStoreError "tool_approval_run_commit_mismatch"
  match commit.events with
  | [resumed, required] => rejectIf (commit.tenantId ≠ current.tenantId ∨
      commit.workItems ≠ [] ∨ resumesFor (approvalReason .superseded) resumed = false ∨
      resumed.runId ≠ current.runId ∨ required.runId ≠ current.runId ∨
      requiresApproval replacement required = false) mismatch
  | _ => .error mismatch

/-- The checks of a replacement that was made before. -/
def validateToolApprovalReplacementReplay (current existing : ToolApprovalState)
    (input : ReplaceToolApprovalInput) : Checked Unit :=
  rejectIf (current.status ≠ .superseded ∨
      current.terminalReasonCode ≠ some (js "action_replaced") ∨
      current.actionDigest ≠ input.actionDigest ∨ existing.status ≠ .required ∨
      existing ≠ input.replacement)
    (runStoreError "tool_approval_replacement_replay_mismatch")

/-- The tables of the store that hold approvals. -/
structure ToolApprovalStore where
  toolApprovals : OrderedMap JsString ToolApprovalState
  toolApprovalActions : OrderedMap JsString JsString

/-- The store without any approval. -/
def ToolApprovalStore.empty : ToolApprovalStore := ⟨.empty, .empty⟩

/-- The key of the action of an approval. -/
def toolApprovalActionKey (approval : ToolApprovalState) : JsString :=
  stableJson (.array [.string approval.tenantId, .string approval.runId,
    .string approval.actionDigest])

/-- Store an approval. -/
def ToolApprovalStore.setApproval (approval : ToolApprovalState) (store : ToolApprovalStore) :
    ToolApprovalStore :=
  { store with toolApprovals := store.toolApprovals.set approval.approvalId approval }

/-- Store the action of an approval. -/
def ToolApprovalStore.setAction (approval : ToolApprovalState) (store : ToolApprovalStore) :
    ToolApprovalStore :=
  { store with
    toolApprovalActions :=
      store.toolApprovalActions.set (toolApprovalActionKey approval) approval.approvalId }

/-- The approval of a tenant with an id. -/
def ToolApprovalStore.load (store : ToolApprovalStore) (tenantId approvalId : JsString) :
    Option ToolApprovalState :=
  (store.toolApprovals.find approvalId).filter (·.tenantId = tenantId)

/-- The approval that a request is about. -/
def requiredApproval (store : ToolApprovalStore) (tenantId approvalId : JsString) :
    Checked ToolApprovalState :=
  match store.load tenantId approvalId with
  | none => .error (runStoreError "tool_approval_not_found")
  | some approval => .ok approval

/-- What an operation on approvals returns. -/
inductive ToolApprovalReply where
  /-- An approval is asked for. -/
  | required
  /-- An approval ended. -/
  | ended (approval : ToolApprovalState)
  /-- An earlier replacement is answered again. -/
  | replayed
deriving DecidableEq

/-- A program over the approvals. -/
abbrev ToolApprovalProgram := Program Failure ToolApprovalStore ToolApprovalReply

section Operations

-- the host's reading of a date text in any format; what the other tables of the store say of a
-- request (the lease, the receipt, the work item and the commit of the run); and what the queue
-- says of the new delay of the work item, which comes after the writes
variable (parse : JsString → Option Int) (admission requeued : Checked Unit)

/-- The checks of an approval that is asked for. -/
def validateRequiredApproval (approval : ToolApprovalState) : Checked Unit := do
  (validateToolApprovalState parse approval).mapError normalizeToolApprovalError
  rejectIf (approval.status ≠ .required) (runStoreError "tool_approval_not_required")

/-- An approval has a new id and is the first one for its action. -/
def validateNewApproval (store : ToolApprovalStore) (approval : ToolApprovalState) :
    Checked Unit :=
  rejectIf ((store.toolApprovals.find approval.approvalId).isSome = true ∨
      (store.toolApprovalActions.find (toolApprovalActionKey approval)).isSome = true)
    (runStoreError "tool_approval_conflict")

/-- Ask for an approval. -/
def requireToolApproval (approval : ToolApprovalState) (commit : CommitRunInput) :
    ToolApprovalProgram := do
  Program.check (validateRequiredApproval parse approval)
  let store ← Program.read id
  Program.check (validateNewApproval store approval)
  Program.check (validateApprovalRunCommit approval commit (requiresApproval approval))
  Program.check admission
  Program.update (ToolApprovalStore.setApproval approval)
  Program.update (ToolApprovalStore.setAction approval)
  Program.check requeued
  return .required

/-- End an approval in the way that is computed from it. -/
def endToolApproval (tenantId approvalId : JsString) (commit : CommitRunInput)
    (change : ToolApprovalState → Checked ToolApprovalState) : ToolApprovalProgram := do
  let store ← Program.read id
  let current ← Program.check (requiredApproval store tenantId approvalId)
  let approval ← Program.check ((change current).mapError normalizeToolApprovalError)
  Program.check (validateApprovalRunCommit approval commit
    (resumesFor (approvalReason approval.status)))
  Program.check admission
  Program.update (ToolApprovalStore.setApproval approval)
  return .ended approval

/-- Decide an approval. -/
def commitToolApprovalDecision (input : DecideToolApprovalInput) : ToolApprovalProgram :=
  endToolApproval admission input.tenantId input.approvalId input.commit fun current =>
    decideToolApproval parse current input.expectedRevision input.decision

/-- Expire an approval. The instant is the one of the request. -/
def expireToolApproval (input : ExpireToolApprovalInput) : ToolApprovalProgram :=
  endToolApproval admission input.tenantId input.approvalId input.commit fun current =>
    terminateToolApproval parse current .expired input.expectedRevision
      (js "decision_deadline_reached") input.occurredAt

/-- Supersede an approval whose run is being canceled. -/
def supersedeToolApproval (input : ExpireToolApprovalInput) : ToolApprovalProgram :=
  endToolApproval admission input.tenantId input.approvalId input.commit fun current =>
    terminateToolApproval parse current .superseded input.expectedRevision
      (js "run_cancel_requested") input.occurredAt

/-- Answer a replacement that was made before. -/
def replayToolApprovalReplacement (store : ToolApprovalStore) (current : ToolApprovalState)
    (existingId : JsString) (input : ReplaceToolApprovalInput) : ToolApprovalProgram :=
  match store.toolApprovals.find existingId with
  | none => Program.abort (runStoreError "tool_approval_not_found")
  | some existing => do
    Program.check (validateToolApprovalReplacementReplay current existing input)
    Program.check admission
    return .replayed

/-- Replace an approval by one for another action. -/
def replaceToolApproval (input : ReplaceToolApprovalInput) : ToolApprovalProgram := do
  Program.check (validateRequiredApproval parse input.replacement)
  let store ← Program.read id
  let current ← Program.check (requiredApproval store input.tenantId input.approvalId)
  match store.toolApprovalActions.find (toolApprovalActionKey input.replacement) with
  | some existingId => replayToolApprovalReplacement admission store current existingId input
  | none => do
    Program.check (validateToolApprovalReplacement current input)
    Program.check (validateNewApproval store input.replacement)
    let superseded ← Program.check ((terminateToolApproval parse current .superseded
      input.expectedRevision (js "action_replaced") input.occurredAt).mapError
        normalizeToolApprovalError)
    Program.check (validateToolApprovalReplacementCommit superseded input.replacement input.commit)
    Program.check admission
    Program.update (ToolApprovalStore.setApproval superseded)
    Program.update (ToolApprovalStore.setApproval input.replacement)
    Program.update (ToolApprovalStore.setAction input.replacement)
    Program.check requeued
    return .ended superseded

end Operations

/-- An operation on approvals, with what the rest of the store says of it. -/
inductive ToolApprovalOperation where
  | require (admission requeued : Checked Unit) (approval : ToolApprovalState)
      (commit : CommitRunInput)
  | decide (admission : Checked Unit) (input : DecideToolApprovalInput)
  | expire (admission : Checked Unit) (input : ExpireToolApprovalInput)
  | supersede (admission : Checked Unit) (input : ExpireToolApprovalInput)
  | replace (admission requeued : Checked Unit) (input : ReplaceToolApprovalInput)

/-- Perform an operation on approvals. -/
def performToolApproval (parse : JsString → Option Int) :
    ToolApprovalOperation → ToolApprovalProgram
  | .require admission requeued approval commit =>
    requireToolApproval parse admission requeued approval commit
  | .decide admission input => commitToolApprovalDecision parse admission input
  | .expire admission input => expireToolApproval parse admission input
  | .supersede admission input => supersedeToolApproval parse admission input
  | .replace admission requeued input => replaceToolApproval parse admission requeued input

end Crewon.Store
