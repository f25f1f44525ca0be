import Crewon.Domain.ExecutionLifecycle
import Crewon.Store.Queue

/-!
# The execution authority of the in-memory store

The authority keeps the steps and the attempts of all runs in two maps and admits every change
of theirs: the start of an attempt, its end, its provider checkpoint and the control state of
its provider.
-/

namespace Crewon.Store

open Crewon.Js Crewon.Checked Crewon.Domain Crewon.Lib

/-- The steps and the attempts by their ids. -/
structure ExecutionAuthority (χ : Type) where
  steps : OrderedMap JsString RunStepState
  attempts : OrderedMap JsString (RunAttemptState χ)

/-- Which attempt is meant. -/
structure RunAttemptLocator where
  tenantId : JsString
  runId : JsString
  stepId : JsString
  attemptId : JsString

/-- The end of an attempt as the store receives it. -/
structure RunAttemptTerminalMutation where
  stepId : JsString
  attemptId : JsString
  outcome : RunAttemptOutcome
  finishedAt : JsString
  checkpointDigest : Option JsString
  providerTurnState : Option JsString

/-- The input of the lifecycle for the end of an attempt. -/
def terminalInput (mutation : RunAttemptTerminalMutation) : FinishRunAttemptInput :=
  ⟨mutation.outcome, mutation.finishedAt, mutation.checkpointDigest⟩

/-- Lifecycle rejections become store rejections with the same code. -/
def normalizeExecutionLifecycleError (failure : Failure) : Failure :=
  if failure.kind = .executionLifecycle then runStoreError failure.code else failure

variable {χ : Type}

/-- A program over the authority. -/
abbrev AuthorityProgram (χ β : Type) := Program Failure (ExecutionAuthority χ) β

/-- Store a step. -/
def ExecutionAuthority.setStep (authority : ExecutionAuthority χ) (step : RunStepState) :
    ExecutionAuthority χ :=
  { authority with steps := authority.steps.set step.stepId step }

/-- Store an attempt. -/
def ExecutionAuthority.setAttempt (authority : ExecutionAuthority χ)
    (attempt : RunAttemptState χ) : ExecutionAuthority χ :=
  { authority with attempts := authority.attempts.set attempt.attemptId attempt }

/-- The authority of a fresh process. -/
def ExecutionAuthority.empty : ExecutionAuthority χ := ⟨.empty, .empty⟩

section
variable {authority : ExecutionAuthority χ} {step : RunStepState} {attempt : RunAttemptState χ}
  {id : JsString}

@[simp] theorem ExecutionAuthority.setStep_attempts :
    (authority.setStep step).attempts = authority.attempts := rfl

@[simp] theorem ExecutionAuthority.setAttempt_steps :
    (authority.setAttempt attempt).steps = authority.steps := rfl

@[simp] theorem ExecutionAuthority.setStep_find : (authority.setStep step).steps.find id =
    if id = step.stepId then some step else authority.steps.find id :=
  OrderedMap.find_set

@[simp] theorem ExecutionAuthority.setAttempt_find : (authority.setAttempt attempt).attempts.find id =
    if id = attempt.attemptId then some attempt else authority.attempts.find id :=
  OrderedMap.find_set

@[simp] theorem ExecutionAuthority.empty_steps :
    (empty : ExecutionAuthority χ).steps.find id = none := rfl

@[simp] theorem ExecutionAuthority.empty_attempts :
    (empty : ExecutionAuthority χ).attempts.find id = none := rfl

end

/-- The current attempt of a step. -/
def ExecutionAuthority.currentAttempt (authority : ExecutionAuthority χ)
    (step : Option RunStepState) : Option (RunAttemptState χ) :=
  (step.bind (·.currentAttemptId)).bind authority.attempts.find

/-- The step and the attempt of a mutation, when both belong to the run and to each other. -/
def ExecutionAuthority.locate (authority : ExecutionAuthority χ) (tenantId runId : JsString)
    (mutation : RunAttemptTerminalMutation) : Checked (RunStepState × RunAttemptState χ) :=
  match authority.steps.find mutation.stepId, authority.attempts.find mutation.attemptId with
  | some step, some attempt =>
    if step.tenantId ≠ tenantId ∨ step.runId ≠ runId ∨ attempt.tenantId ≠ tenantId ∨
        attempt.runId ≠ runId ∨ attempt.stepId ≠ step.stepId
    then .error (runStoreError "run_attempt_not_found")
    else .ok (step, attempt)
  | _, _ => .error (runStoreError "run_attempt_not_found")

/-- The running attempt of a locator. -/
def ExecutionAuthority.runningAttempt (authority : ExecutionAuthority χ)
    (locator : RunAttemptLocator) : Checked (RunAttemptState χ) :=
  match authority.attempts.find locator.attemptId with
  | some attempt =>
    if attempt.tenantId ≠ locator.tenantId ∨ attempt.runId ≠ locator.runId ∨
        attempt.stepId ≠ locator.stepId ∨ attempt.status ≠ .running
    then .error (runStoreError "run_attempt_not_running")
    else .ok attempt
  | none => .error (runStoreError "run_attempt_not_running")

-- the host's reading of a date text and its writing of a checkpoint as JSON
variable (parse : JsString → Option Int) (stringify : χ → JsString)

/-- Start an attempt. -/
def begin (input : StartRunAttemptInput) : AuthorityProgram χ (StartedRunAttempt χ) := do
  let authority ← Program.read id
  Program.check (rejectIf ((authority.attempts.find input.attemptId).isSome = true)
    (runStoreError "attempt_id_conflict"))
  let currentStep := authority.steps.find input.stepId
  let currentAttempt := authority.currentAttempt currentStep
  Program.check (rejectIf (currentStep.isSome = true ∧ currentAttempt.isNone = true)
    (runStoreError "stored_run_attempt_invalid"))
  let started ← Program.check ((startRunAttempt parse currentStep currentAttempt input).mapError
    normalizeExecutionLifecycleError)
  Program.update fun authority =>
    started.abandonedAttempt.elim authority authority.setAttempt
  Program.update (·.setStep started.step)
  Program.update (·.setAttempt started.attempt)
  pure started

/-- Compute the end of an attempt. -/
def finish (authority : ExecutionAuthority χ) (tenantId runId workItemId : JsString)
    (leaseEpoch : Int) (mutation : RunAttemptTerminalMutation) :
    Checked (RunStepState × RunAttemptState χ) := do
  let (step, attempt) ← authority.locate tenantId runId mutation
  rejectIf (attempt.leaseEpoch ≠ leaseEpoch ∨ attempt.workItemId ≠ workItemId)
    (runStoreError "stale_attempt_epoch")
  (finishRunAttempt parse step
    { attempt with
      providerTurnState := mutation.providerTurnState.or attempt.providerTurnState }
    (terminalInput mutation)).mapError normalizeExecutionLifecycleError

/-- Compute the end of an attempt together with its provider checkpoint. -/
def finishWithCheckpoint (authority : ExecutionAuthority χ)
    (tenantId runId workItemId : JsString) (leaseEpoch : Int)
    (mutation : RunAttemptTerminalMutation) (checkpoint : Option χ) :
    Checked (RunStepState × RunAttemptState χ) := do
  let (step, attempt) ← authority.locate tenantId runId mutation
  rejectIf (attempt.leaseEpoch ≠ leaseEpoch ∨ attempt.workItemId ≠ workItemId ∨
      (attempt.providerCheckpoint.isSome = true ∧
        (attempt.checkpointDigest ≠ mutation.checkpointDigest ∨
          attempt.providerCheckpoint.map stringify ≠ checkpoint.map stringify)))
    (runStoreError "attempt_provider_checkpoint_conflict")
  (finishRunAttempt parse step
    { attempt with
      providerTurnState := mutation.providerTurnState.or attempt.providerTurnState
      providerCheckpoint := checkpoint
      checkpointDigest := mutation.checkpointDigest
      updatedAt := mutation.finishedAt }
    (terminalInput mutation)).mapError normalizeExecutionLifecycleError

/-- Store the end of an attempt. -/
def apply (result : RunStepState × RunAttemptState χ) : AuthorityProgram χ Unit := do
  Program.update (·.setStep result.1)
  Program.update (·.setAttempt result.2)

/-- Finish an attempt, as the store does in every operation that ends one. -/
def finishAttempt (tenantId runId workItemId : JsString) (leaseEpoch : Int)
    (mutation : RunAttemptTerminalMutation) :
    AuthorityProgram χ (RunStepState × RunAttemptState χ) := do
  let authority ← Program.read id
  let result ← Program.check
    (finish parse authority tenantId runId workItemId leaseEpoch mutation)
  apply result
  pure result

/-- Finish an attempt together with its provider checkpoint. -/
def finishAttemptWithCheckpoint (tenantId runId workItemId : JsString) (leaseEpoch : Int)
    (mutation : RunAttemptTerminalMutation) (checkpoint : Option χ) :
    AuthorityProgram χ (RunStepState × RunAttemptState χ) := do
  let authority ← Program.read id
  let result ← Program.check (finishWithCheckpoint parse stringify authority tenantId runId
    workItemId leaseEpoch mutation checkpoint)
  apply result
  pure result

/-- Record the provider checkpoint of a running attempt, once. -/
def checkpoint (locator : RunAttemptLocator) (workItemId : JsString) (leaseEpoch : Int)
    (value : Option χ) (checkpointDigest checkpointedAt : JsString) :
    AuthorityProgram χ (RunAttemptState χ) := do
  let authority ← Program.read id
  let attempt ← Program.check (authority.runningAttempt locator)
  Program.check (rejectIf (attempt.workItemId ≠ workItemId ∨ attempt.leaseEpoch ≠ leaseEpoch)
    (runStoreError "stale_attempt_epoch"))
  Program.check (rejectIf (attempt.providerCheckpoint.isSome = true)
    (runStoreError "attempt_provider_checkpoint_conflict"))
  let next := { attempt with
    providerCheckpoint := value
    checkpointDigest := some checkpointDigest
    updatedAt := checkpointedAt }
  Program.update (·.setAttempt next)
  pure next

/-- Record the control state of the provider of a running attempt, once. -/
def recordProviderTurnState (locator : RunAttemptLocator) (workItemId : JsString)
    (leaseEpoch : Int) (providerTurnState observedAt : JsString) :
    AuthorityProgram χ (RunAttemptState χ) := do
  Program.check (rejectIf (providerTurnStateValid (some providerTurnState) = false)
    (runStoreError "attempt_provider_turn_state_invalid"))
  let authority ← Program.read id
  let attempt ← Program.check (authority.runningAttempt locator)
  Program.check (rejectIf (attempt.workItemId ≠ workItemId ∨ attempt.leaseEpoch ≠ leaseEpoch)
    (runStoreError "stale_attempt_epoch"))
  Program.check (rejectIf (attempt.providerTurnState.any (· ≠ providerTurnState) = true)
    (runStoreError "attempt_provider_turn_state_conflict"))
  if attempt.providerTurnState = some providerTurnState then
    pure attempt
  else do
    let next := { attempt with
      providerTurnState := some providerTurnState
      updatedAt := observedAt }
    Program.update (·.setAttempt next)
    pure next

end Crewon.Store
