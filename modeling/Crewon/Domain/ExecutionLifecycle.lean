import Crewon.Domain.RunEvent

/-!
# Steps and attempts of a run

A step is one unit of work of a run; an attempt is one execution of it under the lease of a
work item. Starting an attempt abandons the one that was still running; finishing one ends the
step unless the failure may be retried.
-/

namespace Crewon.Domain

open Crewon.Js Crewon.Checked

/-- What a step does. -/
inductive RunStepKind where
  | model
  | tool
  | agent
  | workflowNode
  | gate
  | verification
deriving DecidableEq

/-- Where a step stands. -/
inductive RunStepStatus where
  | pending
  | ready
  | running
  | waitingApproval
  | completed
  | failed
  | skipped
  | canceled
deriving DecidableEq

/-- Where an attempt stands. -/
inductive RunAttemptStatus where
  | running
  | completed
  | failed
  | canceled
  | abandoned
deriving DecidableEq

/-- The state of a step. -/
structure RunStepState where
  schemaVersion : JsString
  stepId : JsString
  tenantId : JsString
  runId : JsString
  kind : RunStepKind
  status : RunStepStatus
  revision : Int
  currentAttemptId : Option JsString
  attemptCount : Int
  createdAt : JsString
  updatedAt : JsString
  terminalAt : Option JsString
deriving DecidableEq

/-- The state of an attempt, with the checkpoint of its provider as the adapter encodes it. -/
structure RunAttemptState (χ : Type) where
  schemaVersion : JsString
  attemptId : JsString
  tenantId : JsString
  runId : JsString
  stepId : JsString
  workItemId : JsString
  attemptNumber : Int
  retryOfAttemptId : Option JsString
  leaseEpoch : Int
  status : RunAttemptStatus
  checkpointDigest : Option JsString
  providerCheckpoint : Option χ
  providerTurnState : Option JsString
  failure : Option RunFailure
  startedAt : JsString
  updatedAt : JsString
  terminalAt : Option JsString

/-- A rejection of the execution lifecycle. -/
def executionLifecycleError (code : String) : Failure := ⟨.executionLifecycle, code⟩

/-- A unit that the opaque control state of a provider may contain. -/
def isTurnStateUnit (point : UInt16) : Bool :=
  (0x20 ≤ point && point ≤ 0x2B) || (0x2D ≤ point && point ≤ 0x7E)

/-- The opaque control state of a provider is absent or a short printable text. -/
def providerTurnStateValid (value : Option JsString) : Bool :=
  value.all fun text =>
    0 < text.length && text.length ≤ 4096 && text.units.all isTurnStateUnit

/-- What an attempt is started with. -/
structure StartRunAttemptInput where
  tenantId : JsString
  runId : JsString
  stepId : JsString
  kind : RunStepKind
  attemptId : JsString
  workItemId : JsString
  leaseEpoch : Int
  startedAt : JsString

/-- How an attempt ends. -/
inductive RunAttemptOutcome where
  | completed
  | canceled
  | failed (failure : RunFailure)
deriving DecidableEq

/-- The status of an attempt that ended so. -/
def RunAttemptOutcome.attemptStatus : RunAttemptOutcome → RunAttemptStatus
  | .completed => .completed
  | .canceled => .canceled
  | .failed _ => .failed

/-- The status of a step whose attempt ended so. -/
def RunAttemptOutcome.stepStatus : RunAttemptOutcome → RunStepStatus
  | .completed => .completed
  | .canceled => .canceled
  | .failed failure => if failure.retryable then .ready else .failed

/-- The failure of an attempt that ended so. -/
def RunAttemptOutcome.failure : RunAttemptOutcome → Option RunFailure
  | .failed failure => some failure
  | _ => none

/-- What an attempt is finished with. -/
structure FinishRunAttemptInput where
  outcome : RunAttemptOutcome
  finishedAt : JsString
  checkpointDigest : Option JsString

-- the host's reading of a date text in any format, and the checkpoints of the adapters
variable (parse : JsString → Option Int) {χ : Type}

/-- A date text the host can read and that ends in `Z`. -/
def requireExecutionTimestamp (value : JsString) (code : String) : Checked Unit :=
  rejectIf (value.units.getLast? ≠ some (unit 'Z') ∨ parse value = none)
    (executionLifecycleError code)

/-- The checks of the input of a start. -/
def validateStartInput (input : StartRunAttemptInput) : Checked Unit := do
  forEach [input.tenantId, input.runId, input.stepId, input.attemptId, input.workItemId]
    fun value => requireNonEmpty value (executionLifecycleError "attempt_identity_invalid")
  requirePositiveInteger input.leaseEpoch (executionLifecycleError "attempt_lease_epoch_invalid")
  requireExecutionTimestamp parse input.startedAt "attempt_started_at_invalid"

/-- The current step and attempt admit another attempt. -/
def validateCurrent (step : RunStepState) (attempt : RunAttemptState χ)
    (input : StartRunAttemptInput) : Checked Unit := do
  rejectIf (step.tenantId ≠ input.tenantId ∨ step.runId ≠ input.runId ∨
      step.stepId ≠ input.stepId ∨ step.kind ≠ input.kind ∨
      step.currentAttemptId ≠ some attempt.attemptId ∨
      step.attemptCount ≠ attempt.attemptNumber)
    (executionLifecycleError "step_attempt_identity_mismatch")
  rejectIf (step.status ≠ .running ∧ step.status ≠ .ready)
    (executionLifecycleError "step_terminal")
  rejectIf ((attempt.status ≠ .running ∧ attempt.status ≠ .failed) ∨
      input.leaseEpoch ≤ attempt.leaseEpoch)
    (executionLifecycleError "attempt_epoch_not_advanced")

/-- The attempt that was running when another one started. -/
def abandonedBy (startedAt : JsString) (attempt : RunAttemptState χ) : RunAttemptState χ :=
  { attempt with
    status := .abandoned
    updatedAt := startedAt
    terminalAt := some startedAt }

/-- The step while the attempt of this number runs. -/
def startedStep (current : Option RunStepState) (input : StartRunAttemptInput) : RunStepState where
  schemaVersion := js "crewon.run-step.v0"
  stepId := input.stepId
  tenantId := input.tenantId
  runId := input.runId
  kind := input.kind
  status := .running
  revision := (current.map (·.revision)).getD 0 + 1
  currentAttemptId := some input.attemptId
  attemptCount := (current.map (·.attemptCount)).getD 0 + 1
  createdAt := (current.map (·.createdAt)).getD input.startedAt
  updatedAt := input.startedAt
  terminalAt := none

/-- The attempt that starts. -/
def startedAttempt (current : Option RunStepState) (previous : Option (RunAttemptState χ))
    (input : StartRunAttemptInput) : RunAttemptState χ where
  schemaVersion := js "crewon.run-attempt.v0"
  attemptId := input.attemptId
  tenantId := input.tenantId
  runId := input.runId
  stepId := input.stepId
  workItemId := input.workItemId
  attemptNumber := (current.map (·.attemptCount)).getD 0 + 1
  retryOfAttemptId := previous.map (·.attemptId)
  leaseEpoch := input.leaseEpoch
  status := .running
  checkpointDigest := none
  providerCheckpoint := none
  providerTurnState := none
  failure := none
  startedAt := input.startedAt
  updatedAt := input.startedAt
  terminalAt := none

/-- What a start changes. -/
structure StartedRunAttempt (χ : Type) where
  step : RunStepState
  attempt : RunAttemptState χ
  abandonedAttempt : Option (RunAttemptState χ)

/-- Start an attempt of a step. -/
def startRunAttempt (currentStep : Option RunStepState)
    (currentAttempt : Option (RunAttemptState χ)) (input : StartRunAttemptInput) :
    Checked (StartedRunAttempt χ) := do
  validateStartInput parse input
  match currentStep, currentAttempt with
  | none, none => .ok ()
  | none, some _ => .error (executionLifecycleError "attempt_without_step")
  | some _, none => .error (executionLifecycleError "step_attempt_identity_mismatch")
  | some step, some attempt => validateCurrent step attempt input
  return {
    step := startedStep currentStep input
    attempt := startedAttempt currentStep currentAttempt input
    abandonedAttempt :=
      (currentAttempt.filter (·.status = .running)).map (abandonedBy input.startedAt) }

/-- Finish the current attempt of a step. -/
def finishRunAttempt (step : RunStepState) (attempt : RunAttemptState χ)
    (input : FinishRunAttemptInput) : Checked (RunStepState × RunAttemptState χ) := do
  rejectIf (providerTurnStateValid attempt.providerTurnState = false)
    (executionLifecycleError "attempt_provider_turn_state_invalid")
  rejectIf (step.status ≠ .running ∨ attempt.status ≠ .running ∨
      step.currentAttemptId ≠ some attempt.attemptId ∨ step.stepId ≠ attempt.stepId ∨
      step.runId ≠ attempt.runId ∨ step.tenantId ≠ attempt.tenantId)
    (executionLifecycleError "attempt_not_current")
  requireExecutionTimestamp parse input.finishedAt "attempt_finished_at_invalid"
  rejectIf (input.checkpointDigest.all isDigest = false)
    (executionLifecycleError "attempt_checkpoint_digest_invalid")
  whenPresent input.outcome.failure fun failure =>
    requireNonEmpty failure.code (executionLifecycleError "attempt_failure_invalid")
  return (
    { step with
      status := input.outcome.stepStatus
      revision := step.revision + 1
      updatedAt := input.finishedAt
      terminalAt := if input.outcome.stepStatus = .ready then none else some input.finishedAt },
    { attempt with
      status := input.outcome.attemptStatus
      checkpointDigest := input.checkpointDigest
      failure := input.outcome.failure
      updatedAt := input.finishedAt
      terminalAt := some input.finishedAt })

end Crewon.Domain
