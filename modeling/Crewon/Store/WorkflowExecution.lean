import Crewon.Js.DateText
import Crewon.Store.Queue

/-!
# The workflow execution store

The store keeps the execution state of a workflow run and a receipt for every operation that changed
it. A change names the revision it was computed from; the store checks the new state on its own and
against the current one, and writes it only while that revision is current.
-/

namespace Crewon.Store

open Crewon.Js Crewon.Checked Crewon.Domain Crewon.Lib

/-- The kind of a node. -/
inductive WorkflowExecutionNodeKind where
  | agent
  | humanGate
  | verification
deriving DecidableEq

/-- The status of a node. -/
inductive WorkflowNodeStatus where
  | pending
  | running
  | waitingHuman
  | completed
  | failed
  | canceled
  | unknown
deriving DecidableEq

/-- The state of a node. -/
structure WorkflowExecutionNodeState where
  nodeId : JsString
  kind : WorkflowExecutionNodeKind
  agentVersionId : Option JsString
  status : WorkflowNodeStatus
  claimId : Option JsString
  claimOperationId : Option JsString
  claimEpoch : Int
  leaseExpiresAt : Option JsString
  gateRequestId : Option JsString
  inputDigest : Option JsString
  resultDigest : Option JsString
  failureCode : Option JsString
deriving DecidableEq

/-- The status of a workflow. -/
inductive WorkflowStatus where
  | running
  | waitingHuman
  | completed
  | failed
  | canceled
deriving DecidableEq

/-- The execution state of a workflow run. -/
structure WorkflowExecutionState where
  schemaVersion : JsString
  tenantId : JsString
  runId : JsString
  workflowId : JsString
  workflowVersionId : JsString
  contentDigest : JsString
  revision : Int
  status : WorkflowStatus
  cancelRequested : Bool
  nodes : List WorkflowExecutionNodeState
  updatedAt : JsString
deriving DecidableEq

/-- An id of the wire grammar, of at most 512 bytes. -/
def boundedId (value : JsString) : Bool := value.fitsBytes 512 && isOpaqueId value

/-- The schema version every state names. -/
def workflowExecutionSchema : JsString := js "crewon.workflow-execution.v0"

/-- A rejection of a state. -/
def workflowStateInvalid : Failure := runStoreError "workflow_execution_state_invalid"

/-- The node is claimed and has not ended. -/
def WorkflowExecutionNodeState.isActive (node : WorkflowExecutionNodeState) : Bool :=
  node.status = .running || node.status = .waitingHuman || node.status = .unknown

/-- The checks every node passes. -/
def validateNode (value : WorkflowExecutionNodeState) : Checked Unit := do
  rejectIf (boundedId value.nodeId = false ∨ value.agentVersionId.all boundedId = false ∨
      (¬ (value.kind = .humanGate ↔ value.agentVersionId = none)) ∨
      isSafeInteger value.claimEpoch = false ∨ value.claimEpoch < 0 ∨
      value.claimId.all boundedId = false ∨ value.claimOperationId.all boundedId = false ∨
      value.gateRequestId.all boundedId = false ∨ value.inputDigest.all isDigest = false ∨
      value.leaseExpiresAt.all canonicalUtc = false ∨ value.resultDigest.all isDigest = false ∨
      value.failureCode.all boundedId = false)
    workflowStateInvalid
  rejectIf ((value.status = .pending ∧ (value.claimId ≠ none ∨ value.claimOperationId ≠ none ∨
        value.claimEpoch ≠ 0 ∨ value.inputDigest ≠ none)) ∨
      (value.isActive = true ∧ (value.claimId = none ∨ value.claimOperationId = none ∨
        value.claimEpoch < 1 ∨ value.inputDigest = none)) ∨
      (¬ (value.status = .running ↔ value.leaseExpiresAt ≠ none)) ∨
      (value.status = .waitingHuman ∧ value.gateRequestId = none) ∨
      (value.kind ≠ .humanGate ∧ value.gateRequestId ≠ none) ∨
      (¬ (value.status = .completed ↔ value.resultDigest ≠ none)) ∨
      (¬ (value.status = .failed ↔ value.failureCode ≠ none)) ∨
      ((value.status = .canceled ∨ value.status = .unknown) ∧
        (value.resultDigest ≠ none ∨ value.failureCode ≠ none)))
    workflowStateInvalid

/-- The status that the nodes and a requested cancellation stand for. -/
def projectedStatus (cancelRequested : Bool) (nodes : List WorkflowExecutionNodeState) :
    WorkflowStatus :=
  let active := nodes.any fun node => node.status = .running || node.status = .unknown
  if cancelRequested && !active then .canceled
  else if nodes.any fun node => node.status = .failed then .failed
  else if nodes.all fun node => node.status = .completed then .completed
  else if (nodes.any fun node => node.status = .waitingHuman) && !active then .waitingHuman
  else .running

/-- The checks every state passes. -/
def validateState (state : WorkflowExecutionState) : Checked Unit := do
  rejectIf (state.schemaVersion ≠ workflowExecutionSchema ∨ boundedId state.tenantId = false ∨
      boundedId state.runId = false ∨ boundedId state.workflowId = false ∨
      boundedId state.workflowVersionId = false ∨ isDigest state.contentDigest = false ∨
      isSafeInteger state.revision = false ∨ state.revision < 1 ∨
      canonicalUtc state.updatedAt = false ∨ state.nodes.length < 1 ∨ 64 < state.nodes.length ∨
      ¬ (state.nodes.map (·.nodeId)).Nodup)
    workflowStateInvalid
  forEach state.nodes validateNode
  rejectIf (state.status ≠ projectedStatus state.cancelRequested state.nodes) workflowStateInvalid

/-- What a node may become. A node that is written the same is the same node. -/
def validNodeTransition (current next : WorkflowExecutionNodeState) : Bool :=
  if current = next then true
  else
    match current.status with
    | .pending =>
      next.status = .running || next.status = .waitingHuman || next.status = .canceled
    | .running | .waitingHuman | .unknown =>
      next.status = .completed || next.status = .failed || next.status = .canceled ||
        next.status = .unknown
    | .completed | .failed | .canceled => false

/-- The identity of a node is that of its successor. -/
def sameNode (current next : WorkflowExecutionNodeState) : Bool :=
  current.nodeId = next.nodeId && current.kind = next.kind &&
    current.agentVersionId = next.agentVersionId

/-- The instant of the first text is earlier than that of the second. -/
def parsesEarlier (first second : JsString) : Bool :=
  match isoParse first, isoParse second with
  | some start, some stop => start < stop
  | _, _ => false

/-- The checks of a new state against the current one. -/
def assertTransition (current next : WorkflowExecutionState) : Checked Unit := do
  rejectIf (current.tenantId ≠ next.tenantId ∨ current.runId ≠ next.runId ∨
      current.workflowId ≠ next.workflowId ∨ current.workflowVersionId ≠ next.workflowVersionId ∨
      current.contentDigest ≠ next.contentDigest ∨
      parsesEarlier next.updatedAt current.updatedAt = true ∨
      (current.cancelRequested = true ∧ next.cancelRequested = false) ∨
      current.nodes.length ≠ next.nodes.length ∨
      ((current.nodes.zip next.nodes).all fun pair => sameNode pair.1 pair.2) = false)
    (runStoreError "workflow_execution_authority_mismatch")
  forEach (current.nodes.zip next.nodes) fun pair =>
    rejectIf (validNodeTransition pair.1 pair.2 = false)
      (runStoreError "workflow_execution_transition_invalid")

/-- The checks of the key of a run. -/
def validateLocator (tenantId runId : JsString) : Checked Unit :=
  rejectIf (boundedId tenantId = false ∨ boundedId runId = false)
    (runStoreError "workflow_execution_locator_invalid")

/-- The checks of the key of a receipt. -/
def validateReceiptLocator (tenantId runId operationId : JsString) : Checked Unit := do
  validateLocator tenantId runId
  rejectIf (boundedId operationId = false)
    (runStoreError "workflow_execution_receipt_locator_invalid")

/-- A change of a state, with the receipt to be kept for it. -/
structure WorkflowExecutionSwap where
  tenantId : JsString
  runId : JsString
  expectedRevision : Int
  next : WorkflowExecutionState
  operationId : JsString
  fingerprint : JsString
deriving DecidableEq

/-- The checks of a change. -/
def validateCas (input : WorkflowExecutionSwap) : Checked Unit := do
  validateLocator input.tenantId input.runId
  validateState input.next
  rejectIf (isSafeInteger input.expectedRevision = false ∨ input.expectedRevision < 1 ∨
      input.next.revision ≠ input.expectedRevision + 1 ∨ boundedId input.operationId = false ∨
      input.fingerprint.fitsBytes 4096 = false)
    (runStoreError "workflow_execution_cas_invalid")

/-- What is kept of an operation that changed the state. -/
structure WorkflowExecutionReceipt where
  fingerprint : JsString
  state : WorkflowExecutionState
deriving DecidableEq

/-- What the store keeps of one run. -/
structure WorkflowExecutionRow where
  /-- The state, once it was created. -/
  state : Option WorkflowExecutionState
  /-- The receipts by the id of their operation. -/
  receipts : OrderedMap JsString WorkflowExecutionReceipt
deriving DecidableEq

/-- What became of a change. -/
inductive WorkflowSwapDisposition where
  | committed
  | replayed
  | conflict
deriving DecidableEq

/-- A stored state, checked when it is read. -/
def decodeState (state : WorkflowExecutionState) : Checked WorkflowExecutionState := do
  validateState state
  return state

/-- Read the state of a run. -/
def loadWorkflowExecution (tenantId runId : JsString) :
    Program Failure WorkflowExecutionRow (Option WorkflowExecutionState) := do
  .check (validateLocator tenantId runId)
  let stored ← .read (·.state)
  .check (mapPresent stored decodeState)

/-- Read the receipt of an operation. -/
def loadWorkflowExecutionReceipt (tenantId runId operationId : JsString) :
    Program Failure WorkflowExecutionRow (Option WorkflowExecutionReceipt) := do
  .check (validateReceiptLocator tenantId runId operationId)
  let receipt ← .read (·.receipts.find operationId)
  .check (mapPresent receipt fun found => do
    let state ← decodeState found.state
    return { found with state := state })

/-- The row after a change. -/
def swappedRow (input : WorkflowExecutionSwap) (row : WorkflowExecutionRow) :
    WorkflowExecutionRow where
  state := some input.next
  receipts := row.receipts.set input.operationId ⟨input.fingerprint, input.next⟩

/-- Change the state of a run while the expected revision is current. -/
def compareAndSwapWorkflowExecution (input : WorkflowExecutionSwap) :
    Program Failure WorkflowExecutionRow (WorkflowSwapDisposition × WorkflowExecutionState) := do
  .check (validateCas input)
  let replay ← .read (·.receipts.find input.operationId)
  match replay with
  | some receipt => do
    .check (rejectIf (receipt.fingerprint ≠ input.fingerprint)
      (runStoreError "workflow_execution_idempotency_conflict"))
    let state ← .check (decodeState receipt.state)
    return (.replayed, state)
  | none => do
    let stored ← .read (·.state)
    match stored with
    | none => .abort (runStoreError "workflow_execution_not_found")
    | some stored => do
      let current ← .check (decodeState stored)
      if current.revision ≠ input.expectedRevision then return (.conflict, current)
      else do
        .check (assertTransition current input.next)
        .update (swappedRow input)
        return (.committed, input.next)

end Crewon.Store
