import Crewon.Application.WorkflowExecutionService

/-!
# Calls of the workflow execution service

A call takes one turn at the store after the other: it looks for its receipt, loads the state and
plans on it, and swaps the plan in. Between two turns of a call the calls of other workers take
theirs.
-/

namespace Crewon.Application

open Crewon.Js Crewon.Checked Crewon.Domain Crewon.Store Crewon.Lib

/-- How often a call plans before it gives up. -/
def maxCasRetries : Nat := 8

/-- How far a call has come. -/
inductive CallPhase where
  /-- It looks for its receipt next. -/
  | begun
  /-- It loads the state and plans next. -/
  | searching (retry : Nat)
  /-- It swaps in what it planned from a state next. -/
  | planned (retry : Nat) (current next : WorkflowExecutionState)
      (claims : List WorkflowNodeClaim) (fingerprint : JsString)
  /-- It returned or failed. -/
  | finished (result : Checked WorkflowOutcome)
deriving DecidableEq

/-- What a call checks before it turns to the store. -/
def checkCall (run : WorkflowRun) (call : WorkflowCall) : Checked Unit :=
  match call.operation with
  | .claimReady leaseDurationMs => requirePositiveDuration leaseDurationMs
  | .settleNode _ _ _ => do
    -- the fingerprint of a settlement is computed first and does not depend on a revision
    let _ ← operationFingerprint run call 0
    return ()
  | .requestCancel => .ok ()

/-- What a call returns whose receipt is found. -/
def replayOutcome (run : WorkflowRun) (call : WorkflowCall) (receipt : WorkflowExecutionReceipt) :
    Checked WorkflowOutcome := do
  let fingerprint ← operationFingerprint run call (receipt.state.revision - 1)
  rejectIf (receipt.fingerprint ≠ fingerprint)
    (applicationConflict "workflow_execution_idempotency_conflict")
  assertBinding run call.binding receipt.state
  match call.operation with
  | .claimReady _ => (claimsFromReceipt run.workflow receipt.state call.operationId).map .claims
  | _ => .ok (.state receipt.state)

/-- Look for the receipt of a call. -/
def findReceipt (run : WorkflowRun) (call : WorkflowCall) (row : WorkflowExecutionRow) :
    Checked (Option WorkflowExecutionReceipt) := do
  checkCall run call
  ((loadWorkflowExecutionReceipt run.tenantId run.runId call.operationId).run row).1.mapError
    storeCallError

/-- The first turn of a call. -/
def lookUpCall (run : WorkflowRun) (call : WorkflowCall) (row : WorkflowExecutionRow) : CallPhase :=
  match findReceipt run call row with
  | .error failure => .finished (.error failure)
  | .ok none => .searching 0
  | .ok (some receipt) => .finished (replayOutcome run call receipt)

/-- Load the state of the run. -/
def loadState (run : WorkflowRun) (binding : FrozenWorkflowVersionBinding)
    (row : WorkflowExecutionRow) : Checked WorkflowExecutionState := do
  let stored ←
    ((loadWorkflowExecution run.tenantId run.runId).run row).1.mapError storeCallError
  match stored with
  | none => .error ⟨.applicationNotFound, "workflow_execution_not_found"⟩
  | some state => do
    assertBinding run binding state
    return state

/-- Load the state and plan on it. -/
def planTurn (run : WorkflowRun) (environment : CallEnvironment) (call : WorkflowCall)
    (retry : Nat) (row : WorkflowExecutionRow) : Checked CallPhase := do
  let current ← loadState run call.binding row
  let plan ← planCall run environment call current
  match plan with
  | .done outcome => return .finished (.ok outcome)
  | .swap next claims => do
    let fingerprint ← operationFingerprint run call current.revision
    return .planned retry current next claims fingerprint

/-- The turn of a call that loads the state. -/
def searchCall (run : WorkflowRun) (environment : CallEnvironment) (call : WorkflowCall)
    (retry : Nat) (row : WorkflowExecutionRow) : CallPhase :=
  match planTurn run environment call retry row with
  | .ok phase => phase
  | .error failure => .finished (.error failure)

/-- The change that a call asks the store for. -/
def swapOf (run : WorkflowRun) (call : WorkflowCall) (current next : WorkflowExecutionState)
    (fingerprint : JsString) : WorkflowExecutionSwap where
  tenantId := run.tenantId
  runId := run.runId
  expectedRevision := current.revision
  next := next
  operationId := call.operationId
  fingerprint := fingerprint

/-- What a call returns once its change is in the store. A claim returns what it planned. -/
def swapOutcome (call : WorkflowCall) (claims : List WorkflowNodeClaim)
    (state : WorkflowExecutionState) : WorkflowOutcome :=
  match call.operation with
  | .claimReady _ => .claims claims
  | _ => .state state

/-- The turn of a call that swaps in what it planned. -/
def swapCall (run : WorkflowRun) (call : WorkflowCall) (retry : Nat)
    (current next : WorkflowExecutionState) (claims : List WorkflowNodeClaim)
    (fingerprint : JsString) (row : WorkflowExecutionRow) : CallPhase × WorkflowExecutionRow :=
  match (compareAndSwapWorkflowExecution (swapOf run call current next fingerprint)).run row with
  | (.error failure, after) => (.finished (.error (storeCallError failure)), after)
  | (.ok (.conflict, _), after) =>
    if retry + 1 < maxCasRetries then (.searching (retry + 1), after)
    else (.finished (.error (applicationConflict "workflow_execution_cas_exhausted")), after)
  | (.ok (_, state), after) => (.finished (.ok (swapOutcome call claims state)), after)

/-- One turn of a call at the store. -/
def advanceCall (run : WorkflowRun) (environment : CallEnvironment) (call : WorkflowCall)
    (phase : CallPhase) (row : WorkflowExecutionRow) : CallPhase × WorkflowExecutionRow :=
  match phase with
  | .begun => (lookUpCall run call row, row)
  | .searching retry => (searchCall run environment call retry row, row)
  | .planned retry current next claims fingerprint =>
    swapCall run call retry current next claims fingerprint row
  | .finished result => (.finished result, row)

/-- The store of a run, and the calls that any number of workers made. -/
structure WorkflowSystem where
  row : WorkflowExecutionRow
  calls : List (WorkflowCall × CallPhase)

/-- What happens next: a worker makes a call, or a call takes its turn. -/
inductive WorkflowEvent where
  | begin (call : WorkflowCall)
  | advance (index : Nat) (environment : CallEnvironment)

/-- The system after an event. -/
def WorkflowSystem.step (run : WorkflowRun) (system : WorkflowSystem) :
    WorkflowEvent → WorkflowSystem
  | .begin call => { system with calls := system.calls ++ [(call, .begun)] }
  | .advance index environment =>
    match system.calls[index]? with
    | none => system
    | some (call, phase) =>
      let turn := advanceCall run environment call phase system.row
      { row := turn.2, calls := system.calls.set index (call, turn.1) }

end Crewon.Application
