import Crewon.Domain.RunLifecycle
import Crewon.Domain.ToolExecutionReceipt
import Crewon.Store.Queue

/-!
# The wake of a canceled run in the store

A run that waits for the outcome of a tool keeps its work item in the queue with a delay. A commit
that requests its cancellation makes the item available at once, and leaves a mark on it for the
worker that may hold it under a lease.
-/

namespace Crewon.Store

open Crewon.Js Crewon.Checked Crewon.Domain Crewon.Lib

/-- An item of the queue of work. -/
structure WorkItem where
  workItemId : JsString
  tenantId : JsString
  runId : JsString
  createdAt : JsString
deriving DecidableEq

/-- The receipt that a canceled run waits for. -/
def canceledReconciliationReceipt (state : RunState) (events : List RunLifecycleEvent) :
    Option JsString :=
  let requested := events.any fun event =>
    match event.data with
    | .runCancelRequested .. => true
    | _ => false
  if state.status = .reconciling ∧ requested = true then state.reconciliationReceiptId else none

/-- The tables of the store that the wake of a canceled run uses. -/
structure CancellationStore where
  runs : OrderedMap JsString RunState
  toolExecutionReceipts : OrderedMap JsString ToolExecutionReceiptState
  workItems : Queue WorkItem

/-- The store without any run. -/
def CancellationStore.empty : CancellationStore := ⟨.empty, .empty, .empty⟩

/-- What a commit says of its run. -/
structure CommitRunInput where
  tenantId : JsString
  expectedRevision : Int
  events : List RunLifecycleEvent
  workItems : List WorkItem

/-- The checks of the items that a commit adds to the queue. -/
def validateWorkItems (runId tenantId : JsString) (workItemIdExists : JsString → Bool) :
    List JsString → List WorkItem → Checked Unit
  | _, [] => .ok ()
  | seen, workItem :: rest => do
    requireNonEmpty workItem.workItemId (runStoreError "work_item_id_invalid")
    requireNonEmpty workItem.createdAt (runStoreError "work_item_created_at_invalid")
    rejectIf (workItem.runId ≠ runId) (runStoreError "work_item_run_id_mismatch")
    rejectIf (workItem.tenantId ≠ tenantId) (runStoreError "work_item_tenant_id_mismatch")
    rejectIf (workItem.workItemId ∈ seen ∨ workItemIdExists workItem.workItemId = true)
      (runStoreError "work_item_conflict")
    validateWorkItems runId tenantId workItemIdExists (workItem.workItemId :: seen) rest

/-- The unsettled item of the run whose receipt it waits for. -/
def cancellationWork (store : CancellationStore) (next : RunState)
    (events : List RunLifecycleEvent) : Option (JsString × QueueRecord WorkItem) := do
  let receiptId ← canceledReconciliationReceipt next events
  let receipt ← store.toolExecutionReceipts.find receiptId
  guard (receipt.tenantId = next.tenantId ∧ receipt.runId = next.runId)
  let record ← store.workItems.find receipt.workItemId
  guard (record.item.tenantId = next.tenantId ∧ record.item.runId = next.runId ∧
    record.status ≠ .settled)
  return (receipt.workItemId, record)

/-- The record of an item that is made available at once. -/
def wokenRecord (record : QueueRecord WorkItem) (now : Int) : QueueRecord WorkItem :=
  { record with
    availableAtMs := min record.availableAtMs now
    cancellationWakeRequested := true }

/-- Wake the item of a canceled run. -/
def CancellationStore.wake (woken : Option (JsString × QueueRecord WorkItem))
    (store : CancellationStore) : CancellationStore :=
  { store with workItems := store.workItems.setAll woken.toList }

section Commits

-- the host's reading of a date text in any format
variable (parse : JsString → Option Int)

/-- The records of the items that a commit adds to the queue. -/
def workItemRecords : List WorkItem → Checked (List (JsString × QueueRecord WorkItem))
  | [] => .ok []
  | workItem :: rest => do
    let record ← queueRecord parse workItem workItem.createdAt
    let records ← workItemRecords rest
    return (workItem.workItemId, record) :: records

/-- Commit events of a run. All checks come before the first write. What the other tables say of
the commit (its thread, its history, its messages, an earlier commit with its key) is given. It
returns the item that it woke, with the instant. -/
def commitRun (admission : Checked Unit) (input : CommitRunInput) (reading : Int) :
    Program Failure CancellationStore (Option (JsString × Int)) := do
  let store ← Program.read id
  match input.events with
  | [] => Program.abort (runStoreError "events_empty")
  | first :: _ => do
    let runId := first.runId
    let current := store.runs.find runId
    Program.check do
      requireNonEmpty input.tenantId (runStoreError "tenant_id_invalid")
      rejectIf (isNonNegativeInteger input.expectedRevision = false)
        (runStoreError "expected_revision_invalid")
      requireNonEmpty runId (runStoreError "run_id_invalid")
      admission
      whenPresent current fun state =>
        rejectIf (state.tenantId ≠ input.tenantId) (runStoreError "tenant_id_mismatch")
      rejectIf (input.expectedRevision ≠ (current.map (·.revision)).getD 0)
        (runStoreError "revision_conflict")
      forEach input.events fun event =>
        rejectIf (event.runId ≠ runId) (runStoreError "run_id_mismatch")
    let reduced ← Program.check (Replay.replayFrom reduceRunLifecycleEvent current input.events)
    match reduced with
    | none => Program.abort (runStoreError "events_empty")
    | some next => do
      Program.check (validateWorkItems runId input.tenantId
        (fun workItemId => (store.workItems.find workItemId).isSome) [] input.workItems)
      let woken ← Program.check (mapPresent (cancellationWork store next input.events)
        fun work => do
          let now ← readLeaseClock reading
          return (work.1, wokenRecord work.2 now, now))
      let records ← Program.check (workItemRecords parse input.workItems)
      Program.update fun store => { store with
        runs := store.runs.set runId next
        workItems := store.workItems.setAll records }
      Program.update (CancellationStore.wake (woken.map fun work => (work.1, work.2.1)))
      return woken.map fun work => (work.1, work.2.2)

end Commits

end Crewon.Store
