import Crewon.Store.ToolApproval

/-!
# The execution of a run and its approvals

The worker that holds the work item of a run asks for the expiry of the approval that the run waits
for. The service answers nothing before the approval is due, and hands the request to the store
from then on.
-/

namespace Crewon.Application

open Crewon.Js Crewon.Checked Crewon.Domain Crewon.Lib Crewon.Store

/-- The approval is the one that the run waits for. -/
def isCurrentApproval (state : RunState) (workItemId : JsString) (approval : ToolApprovalState) :
    Bool :=
  state.status = .waitingApproval &&
    state.waitingApproval = some ⟨approval.approvalId, approval.actionDigest⟩ &&
    approval.tenantId = state.tenantId && approval.runId = state.runId &&
    approval.workItemId = workItemId && approval.status = .required

/-- The event that resumes a run whose approval expired. -/
def approvalExpiredEvent (state : RunState) (eventId occurredAt : JsString) :
    RunLifecycleEvent where
  schemaVersion := js "crewon.run-event.v0"
  runId := state.runId
  eventId := eventId
  sequence := state.lastSequence + 1
  occurredAt := occurredAt
  data := .runResumed (js "tool_approval_expired")

/-- The request to expire an approval, when it is due at the instant of the clock. -/
def requestToolApprovalExpiry (parse : JsString → Option Int) (state : RunState)
    (lease : WorkItemLeaseInput) (approval : ToolApprovalState) (eventId occurredAt : JsString) :
    Checked (Option ExpireToolApprovalInput) := do
  rejectIf (isCurrentApproval state lease.workItemId approval = false)
    ⟨.applicationConflict, "tool_approval_not_current"⟩
  return approval.expiresAt.bind fun expiresAt =>
    if isBefore parse occurredAt expiresAt = true then none
    else some {
      tenantId := state.tenantId
      approvalId := approval.approvalId
      lease := lease
      expectedRevision := approval.revision
      occurredAt := occurredAt
      commit := {
        tenantId := state.tenantId
        expectedRevision := state.revision
        events := [approvalExpiredEvent state eventId occurredAt]
        workItems := [] } }

/-- The store with the approvals that workers have loaded from it. -/
structure ApprovalSystem where
  store : ToolApprovalStore
  loaded : List ToolApprovalState

/-- The system without any approval. -/
def ApprovalSystem.empty : ApprovalSystem := ⟨.empty, []⟩

/-- A program over the store and what is loaded from it. -/
abbrev ApprovalSystemProgram := Program Failure ApprovalSystem (Option ToolApprovalReply)

/-- Ask the store. -/
def askStore (program : ToolApprovalProgram) : ApprovalSystemProgram := do
  let reply ← Program.focus ApprovalSystem.store (fun store system => { system with store := store })
    program
  return some reply

/-- Load an approval. -/
def loadToolApproval (tenantId approvalId : JsString) : ApprovalSystemProgram := do
  Program.update fun system => { system with
    loaded := system.loaded ++ (system.store.load tenantId approvalId).toList }
  return none

/-- Expire an approval that was loaded, when it is due. -/
def expireLoadedApproval (parse : JsString → Option Int) (admission : Checked Unit)
    (state : RunState) (lease : WorkItemLeaseInput) (index : Nat) (eventId occurredAt : JsString) :
    ApprovalSystemProgram := do
  let system ← Program.read id
  match system.loaded[index]? with
  | none => return none
  | some approval => do
    let request ← Program.check
      (requestToolApprovalExpiry parse state lease approval eventId occurredAt)
    match request with
    | none => return none
    | some input => askStore (expireToolApproval parse admission input)

/-- A step of the system. -/
inductive ApprovalSystemOperation where
  /-- Any request to the store but the one to expire an approval. -/
  | request (operation : ToolApprovalOperation)
      (other : ∀ admission input, operation ≠ .expire admission input)
  /-- A worker loads an approval. -/
  | load (tenantId approvalId : JsString)
  /-- A worker asks the service to expire an approval that was loaded. -/
  | expire (admission : Checked Unit) (state : RunState) (lease : WorkItemLeaseInput)
      (index : Nat) (eventId occurredAt : JsString)

/-- Perform a step of the system. -/
def performApprovalSystem (parse : JsString → Option Int) :
    ApprovalSystemOperation → ApprovalSystemProgram
  | .request operation _ => askStore (performToolApproval parse operation)
  | .load tenantId approvalId => loadToolApproval tenantId approvalId
  | .expire admission state lease index eventId occurredAt =>
    expireLoadedApproval parse admission state lease index eventId occurredAt

end Crewon.Application
