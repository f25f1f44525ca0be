import Crewon.Domain.ToolExecutionReceipt
import Crewon.Js.StableJson
import Crewon.Store.Queue

/-!
# Tool executions in the store

The store keeps the receipts of tool executions by their ids. A receipt enters once, prepared, and
moves by transitions that name the revision they were asked for. A transition is part of its own
operation or of the commit of what the tool did to its run.
-/

namespace Crewon.Store

open Crewon.Js Crewon.Checked Crewon.Domain Crewon.Lib

/-- A change of a receipt. -/
inductive ToolExecutionTransition where
  | dispatch (occurredAt : JsString)
  | unknownOutcome (occurredAt : JsString) (providerReceiptId : Option JsString)
  | complete (occurredAt providerReceiptId : JsString) (result : ToolExecutionResult)
  | cancel (occurredAt : JsString) (providerReceiptId : Option JsString)
deriving DecidableEq

/-- A request to change a receipt. -/
structure TransitionToolExecutionInput where
  tenantId : JsString
  runId : JsString
  receiptId : JsString
  lease : WorkItemLeaseInput
  expectedRevision : Int
  transition : ToolExecutionTransition
deriving DecidableEq

/-- Rejections of a receipt become rejections of the store with the same code. -/
def normalizeToolExecutionReceiptError (failure : Failure) : Failure :=
  if failure.kind = .toolExecutionReceipt then runStoreError failure.code else failure

/-- The receipt after a change. -/
def transitionReceipt (current : ToolExecutionReceiptState) :
    ToolExecutionTransition → Checked ToolExecutionReceiptState
  | .dispatch occurredAt => dispatchToolExecutionReceipt current occurredAt
  | .unknownOutcome occurredAt providerReceiptId =>
    markToolExecutionUnknownOutcome current occurredAt providerReceiptId
  | .complete occurredAt providerReceiptId result =>
    resolveToolExecutionReceipt current (.completed occurredAt providerReceiptId result)
  | .cancel occurredAt providerReceiptId =>
    resolveToolExecutionReceipt current (.canceled occurredAt providerReceiptId)

/-- Change a receipt at the revision that was asked for. -/
def applyToolExecutionTransition (current : ToolExecutionReceiptState)
    (input : TransitionToolExecutionInput) : Checked ToolExecutionReceiptState := do
  rejectIf (current.tenantId ≠ input.tenantId ∨ current.runId ≠ input.runId ∨
      current.receiptId ≠ input.receiptId ∨ current.workItemId ≠ input.lease.workItemId)
    (runStoreError "tool_receipt_not_found")
  rejectIf (current.revision ≠ input.expectedRevision)
    (runStoreError "tool_receipt_revision_conflict")
  (transitionReceipt current input.transition).mapError normalizeToolExecutionReceiptError

/-- What the commit of a completion says of the receipt. -/
structure CompletedReceipt where
  tenantId : JsString
  runId : JsString
  receiptId : JsString
  expectedRevision : Int
  resolvedAt : JsString
  providerReceiptId : JsString
  result : ToolExecutionResult
deriving DecidableEq

/-- What the commit of an unknown outcome says of the receipt. -/
structure UnknownOutcomeReceipt where
  tenantId : JsString
  runId : JsString
  receiptId : JsString
  expectedRevision : Int
  observedAt : JsString
  providerReceiptId : Option JsString
deriving DecidableEq

/-- The outcome of a dispatched receipt becomes unknown; one whose outcome is unknown stays. -/
def applyToolExecutionUnknownOutcome (current : ToolExecutionReceiptState)
    (receipt : UnknownOutcomeReceipt) (lease : WorkItemLeaseInput) :
    Checked ToolExecutionReceiptState :=
  if current.status = .dispatched then
    applyToolExecutionTransition current ⟨receipt.tenantId, receipt.runId, receipt.receiptId, lease,
      receipt.expectedRevision, .unknownOutcome receipt.observedAt receipt.providerReceiptId⟩
  else do
    rejectIf (current.tenantId ≠ receipt.tenantId ∨ current.runId ≠ receipt.runId ∨
        current.receiptId ≠ receipt.receiptId ∨ current.workItemId ≠ lease.workItemId ∨
        current.revision ≠ receipt.expectedRevision ∨ current.status ≠ .unknownOutcome ∨
        (receipt.providerReceiptId ≠ none ∧
          current.providerReceiptId ≠ receipt.providerReceiptId))
      (runStoreError "tool_receipt_unknown_outcome_conflict")
    return current

/-- The checks of a prepared receipt. -/
def validatePrepareToolExecutionInput (receipt : ToolExecutionReceiptState)
    (lease : QueueLeaseInput) : Checked Unit := do
  (validateToolExecutionReceipt receipt).mapError normalizeToolExecutionReceiptError
  validateQueueLease lease receipt.workItemId "tool_receipt_work_item_mismatch"
  rejectIf (receipt.status ≠ .prepared ∨ receipt.revision ≠ 1)
    (runStoreError "tool_receipt_not_prepared")

/-- The checks of a request to change a receipt. -/
def validateTransitionToolExecutionInput (input : TransitionToolExecutionInput) :
    Checked Unit := do
  requireNonEmpty input.tenantId (runStoreError "tenant_id_invalid")
  requireNonEmpty input.runId (runStoreError "run_id_invalid")
  requireNonEmpty input.receiptId (runStoreError "tool_receipt_id_invalid")
  validateQueueLease input.lease.lease input.lease.workItemId "work_item_id_invalid"
  rejectIf (isPositiveInteger input.expectedRevision = false)
    (runStoreError "tool_receipt_revision_invalid")

/-- The tables of the store that hold receipts. -/
structure ToolExecutionStore where
  toolExecutionReceipts : OrderedMap JsString ToolExecutionReceiptState
  toolExecutionActions : OrderedMap JsString JsString
  toolExecutionIdempotency : OrderedMap JsString JsString

/-- The store without any receipt. -/
def ToolExecutionStore.empty : ToolExecutionStore := ⟨.empty, .empty, .empty⟩

/-- The key of the action of a receipt. -/
def toolExecutionActionKey (receipt : ToolExecutionReceiptState) : JsString :=
  stableJson (.array [.string receipt.tenantId, .string receipt.runId,
    .string receipt.actionDigest])

/-- The key of the idempotency of a receipt. -/
def toolExecutionIdempotencyKey (receipt : ToolExecutionReceiptState) : JsString :=
  stableJson (.array [.string receipt.tenantId, .string receipt.idempotencyKey])

/-- The receipt with an id. -/
def requiredReceipt (store : ToolExecutionStore) (receiptId : JsString) :
    Checked ToolExecutionReceiptState :=
  match store.toolExecutionReceipts.find receiptId with
  | none => .error (runStoreError "tool_receipt_not_found")
  | some receipt => .ok receipt

/-- Store a receipt. -/
def ToolExecutionStore.setReceipt (receipt : ToolExecutionReceiptState)
    (store : ToolExecutionStore) : ToolExecutionStore :=
  { store with
    toolExecutionReceipts := store.toolExecutionReceipts.set receipt.receiptId receipt }

/-- A program over the receipts. -/
abbrev ToolExecutionProgram (α : Type) := Program Failure ToolExecutionStore α

section Admission

-- what the other tables of the store say of the request: the lease on the work item, the step and
-- the attempt of the receipt, and for commits whatever the run, the goal and the history are
-- checked for
variable (admission : Checked Unit)

/-- Take in a prepared receipt. -/
def prepareToolExecution (receipt : ToolExecutionReceiptState) (lease : QueueLeaseInput) :
    ToolExecutionProgram Unit := do
  Program.check (validatePrepareToolExecutionInput receipt lease)
  Program.check admission
  let store ← Program.read id
  let actionKey := toolExecutionActionKey receipt
  let idempotencyKey := toolExecutionIdempotencyKey receipt
  Program.check do
    rejectIf ((store.toolExecutionReceipts.find receipt.receiptId).isSome = true)
      (runStoreError "tool_receipt_id_conflict")
    rejectIf ((store.toolExecutionActions.find actionKey).isSome = true)
      (runStoreError "tool_action_digest_conflict")
    rejectIf ((store.toolExecutionIdempotency.find idempotencyKey).isSome = true)
      (runStoreError "tool_idempotency_conflict")
  Program.update (ToolExecutionStore.setReceipt receipt)
  Program.update fun store => { store with
    toolExecutionActions := store.toolExecutionActions.set actionKey receipt.receiptId
    toolExecutionIdempotency :=
      store.toolExecutionIdempotency.set idempotencyKey receipt.receiptId }

/-- Change a receipt on its own. -/
def transitionToolExecution (input : TransitionToolExecutionInput) :
    ToolExecutionProgram Unit := do
  Program.check (validateTransitionToolExecutionInput input)
  Program.check admission
  let store ← Program.read id
  let current ← Program.check (requiredReceipt store input.receiptId)
  let next ← Program.check (applyToolExecutionTransition current input)
  Program.update (ToolExecutionStore.setReceipt next)

/-- Complete a receipt together with the commit of its run. A commit that the store has taken in
before is answered from its receipt and changes nothing. -/
def commitToolExecutionCompletion (receipt : CompletedReceipt) (lease : WorkItemLeaseInput)
    (replayed : Bool) : ToolExecutionProgram Unit := do
  let store ← Program.read id
  let current ← Program.check (requiredReceipt store receipt.receiptId)
  if replayed then Program.check admission
  else do
    let next ← Program.check (applyToolExecutionTransition current
      ⟨receipt.tenantId, receipt.runId, receipt.receiptId, lease, receipt.expectedRevision,
        .complete receipt.resolvedAt receipt.providerReceiptId receipt.result⟩)
    Program.check admission
    Program.update (ToolExecutionStore.setReceipt next)

/-- Record an unknown outcome together with the commit of its run. -/
def commitToolExecutionUnknownOutcome (receipt : UnknownOutcomeReceipt)
    (lease : WorkItemLeaseInput) : ToolExecutionProgram Unit := do
  let store ← Program.read id
  let current ← Program.check (requiredReceipt store receipt.receiptId)
  let next ← Program.check (applyToolExecutionUnknownOutcome current receipt lease)
  Program.check admission
  Program.update (ToolExecutionStore.setReceipt next)

end Admission

/-- An operation on receipts, with what the rest of the store says of it. -/
inductive ToolExecutionOperation where
  | prepare (admission : Checked Unit) (receipt : ToolExecutionReceiptState)
      (lease : QueueLeaseInput)
  | transition (admission : Checked Unit) (input : TransitionToolExecutionInput)
  | complete (admission : Checked Unit) (receipt : CompletedReceipt) (lease : WorkItemLeaseInput)
      (replayed : Bool)
  | unknownOutcome (admission : Checked Unit) (receipt : UnknownOutcomeReceipt)
      (lease : WorkItemLeaseInput)

/-- Perform an operation on receipts. -/
def performToolExecution : ToolExecutionOperation → ToolExecutionProgram Unit
  | .prepare admission receipt lease => prepareToolExecution admission receipt lease
  | .transition admission input => transitionToolExecution admission input
  | .complete admission receipt lease replayed =>
    commitToolExecutionCompletion admission receipt lease replayed
  | .unknownOutcome admission receipt lease =>
    commitToolExecutionUnknownOutcome admission receipt lease

end Crewon.Store
