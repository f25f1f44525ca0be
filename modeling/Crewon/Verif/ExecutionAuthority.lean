import Crewon.Lib.Trace
import Crewon.Store.ExecutionAuthority
import Mathlib.Data.Option.Basic

/-!
# The attempts of a step form one chain

Every operation that succeeds either starts an attempt, which becomes the last one of its step,
or rewrites an attempt without touching its place in the chain. From the empty authority this
keeps the chain of every step whole, whoever asks for what in which order.
-/

namespace Crewon.Verif.ExecutionAuthority

open Crewon.Js Crewon.Checked Crewon.Domain Crewon.Lib Crewon.Store

/-- What can be asked of the authority. -/
inductive AuthorityOperation (χ : Type) where
  | beginAttempt (input : StartRunAttemptInput)
  | finishAttempt (tenantId runId workItemId : JsString) (leaseEpoch : Int)
      (mutation : RunAttemptTerminalMutation)
  | finishAttemptWithCheckpoint (tenantId runId workItemId : JsString) (leaseEpoch : Int)
      (mutation : RunAttemptTerminalMutation) (checkpoint : Option χ)
  | checkpoint (locator : RunAttemptLocator) (workItemId : JsString) (leaseEpoch : Int)
      (value : Option χ) (checkpointDigest checkpointedAt : JsString)
  | recordProviderTurnState (locator : RunAttemptLocator) (workItemId : JsString)
      (leaseEpoch : Int) (providerTurnState observedAt : JsString)

variable {χ : Type}

/-- The step an operation starts an attempt of. -/
def AuthorityOperation.starts : AuthorityOperation χ → Option JsString
  | .beginAttempt input => some input.stepId
  | _ => none

/-- Perform an operation. -/
def perform (parse : JsString → Option Int) (stringify : χ → JsString) :
    AuthorityOperation χ → AuthorityProgram χ Unit
  | .beginAttempt input => do
    let _ ← begin parse input
    pure ()
  | .finishAttempt tenantId runId workItemId leaseEpoch mutation => do
    let _ ← finishAttempt parse tenantId runId workItemId leaseEpoch mutation
    pure ()
  | .finishAttemptWithCheckpoint tenantId runId workItemId leaseEpoch mutation value => do
    let _ ← finishAttemptWithCheckpoint parse stringify tenantId runId workItemId leaseEpoch
      mutation value
    pure ()
  | .checkpoint locator workItemId leaseEpoch value checkpointDigest checkpointedAt => do
    let _ ← checkpoint locator workItemId leaseEpoch value checkpointDigest checkpointedAt
    pure ()
  | .recordProviderTurnState locator workItemId leaseEpoch providerTurnState observedAt => do
    let _ ← recordProviderTurnState locator workItemId leaseEpoch providerTurnState observedAt
    pure ()

/-- A step that has ended. -/
def Ended (status : RunStepStatus) : Prop :=
  status = .completed ∨ status = .failed ∨ status = .canceled ∨ status = .skipped

/-- The attempts of every step form one chain. -/
structure Coherent (authority : ExecutionAuthority χ) : Prop where
  /-- A step is stored under its own id. -/
  stepIds : ∀ {id step}, authority.steps.find id = some step → step.stepId = id
  /-- An attempt is stored under its own id. -/
  attemptIds : ∀ {id attempt}, authority.attempts.find id = some attempt → attempt.attemptId = id
  /-- An attempt belongs to a stored step, and its number is one of the step's. -/
  owned : ∀ {id attempt}, authority.attempts.find id = some attempt →
    ∃ step, authority.steps.find attempt.stepId = some step ∧
      1 ≤ attempt.attemptNumber ∧ attempt.attemptNumber ≤ step.attemptCount
  /-- A running attempt is the current one of its step. -/
  running : ∀ {id attempt step}, authority.attempts.find id = some attempt →
    authority.steps.find attempt.stepId = some step → attempt.status = .running →
      step.currentAttemptId = some id
  /-- The current attempt of a step is its last one. -/
  current : ∀ {id step}, authority.steps.find id = some step →
    ∃ attemptId attempt, step.currentAttemptId = some attemptId ∧
      authority.attempts.find attemptId = some attempt ∧ attempt.stepId = id ∧
        attempt.attemptNumber = step.attemptCount
  /-- Every number up to the count of the step is the number of one of its attempts. -/
  gapless : ∀ {id step} (number : Int), authority.steps.find id = some step → 1 ≤ number →
    number ≤ step.attemptCount → ∃ attemptId attempt,
      authority.attempts.find attemptId = some attempt ∧ attempt.stepId = id ∧
        attempt.attemptNumber = number
  /-- A number of a step is the number of one attempt only. -/
  unique : ∀ {firstId secondId first second}, authority.attempts.find firstId = some first →
    authority.attempts.find secondId = some second → first.stepId = second.stepId →
      first.attemptNumber = second.attemptNumber → firstId = secondId
  /-- The first attempt retries none. -/
  origin : ∀ {id attempt}, authority.attempts.find id = some attempt →
    attempt.attemptNumber = 1 → attempt.retryOfAttemptId = none
  /-- Every later attempt names the attempt before it. -/
  chain : ∀ {id attempt}, authority.attempts.find id = some attempt →
    1 < attempt.attemptNumber → ∃ previousId previous,
      attempt.retryOfAttemptId = some previousId ∧
        authority.attempts.find previousId = some previous ∧
          previous.stepId = attempt.stepId ∧
            previous.attemptNumber + 1 = attempt.attemptNumber
  /-- Lease epochs increase along the chain. -/
  epochs : ∀ {firstId secondId first second}, authority.attempts.find firstId = some first →
    authority.attempts.find secondId = some second → first.stepId = second.stepId →
      first.attemptNumber < second.attemptNumber → first.leaseEpoch < second.leaseEpoch

/-- An attempt is rewritten without leaving its place in the chain or coming back to life. -/
structure Continues (before after : RunAttemptState χ) : Prop where
  attemptId : after.attemptId = before.attemptId
  stepId : after.stepId = before.stepId
  attemptNumber : after.attemptNumber = before.attemptNumber
  retryOfAttemptId : after.retryOfAttemptId = before.retryOfAttemptId
  leaseEpoch : after.leaseEpoch = before.leaseEpoch
  running : after.status = .running → before.status = .running

/-- A step is rewritten without another attempt. -/
structure SameChain (before after : RunStepState) : Prop where
  stepId : after.stepId = before.stepId
  attemptCount : after.attemptCount = before.attemptCount
  currentAttemptId : after.currentAttemptId = before.currentAttemptId

/-- Nothing is added, and nothing leaves its place. -/
structure Carries (before after : ExecutionAuthority χ) : Prop where
  steps : ∀ id, Option.Rel SameChain (before.steps.find id) (after.steps.find id)
  attempts : ∀ id, Option.Rel Continues (before.attempts.find id) (after.attempts.find id)

theorem Continues.refl (attempt : RunAttemptState χ) : Continues attempt attempt :=
  ⟨rfl, rfl, rfl, rfl, rfl, id⟩

theorem SameChain.refl (step : RunStepState) : SameChain step step := ⟨rfl, rfl, rfl⟩

/-- What is found after comes from what was found before. -/
theorem exists_before {α : Type} {related : α → α → Prop} {before : Option α} {after : α}
    (carried : Option.Rel related before (some after)) :
    ∃ value, before = some value ∧ related value after := by
  cases carried with
  | some holds => exact ⟨_, rfl, holds⟩

/-- What was absent before is absent after. -/
theorem absent_after {α : Type} {related : α → α → Prop} {after : Option α}
    (carried : Option.Rel related none after) : after = none := by
  cases carried
  rfl

/-- What was found before is found after. -/
theorem exists_after {α : Type} {related : α → α → Prop} {before : α} {after : Option α}
    (carried : Option.Rel related (some before) after) :
    ∃ value, after = some value ∧ related before value := by
  cases carried with
  | some holds => exact ⟨_, rfl, holds⟩

variable {before after : ExecutionAuthority χ}

theorem Carries.step_before (carried : Carries before after) {id : JsString} {step : RunStepState}
    (found : after.steps.find id = some step) :
    ∃ old, before.steps.find id = some old ∧ SameChain old step :=
  exists_before (found ▸ carried.steps id)

theorem Carries.step_after (carried : Carries before after) {id : JsString} {step : RunStepState}
    (found : before.steps.find id = some step) :
    ∃ new, after.steps.find id = some new ∧ SameChain step new :=
  exists_after (found ▸ carried.steps id)

theorem Carries.attempt_before (carried : Carries before after) {id : JsString}
    {attempt : RunAttemptState χ} (found : after.attempts.find id = some attempt) :
    ∃ old, before.attempts.find id = some old ∧ Continues old attempt :=
  exists_before (found ▸ carried.attempts id)

theorem Carries.attempt_after (carried : Carries before after) {id : JsString}
    {attempt : RunAttemptState χ} (found : before.attempts.find id = some attempt) :
    ∃ new, after.attempts.find id = some new ∧ Continues attempt new :=
  exists_after (found ▸ carried.attempts id)

/-- Rewriting steps and attempts in place keeps the chains. -/
theorem Coherent.carries (coherent : Coherent before) (carried : Carries before after) :
    Coherent after where
  stepIds found := by
    obtain ⟨old, wasFound, same⟩ := carried.step_before found
    rw [same.stepId]
    exact coherent.stepIds wasFound
  attemptIds found := by
    obtain ⟨old, wasFound, same⟩ := carried.attempt_before found
    rw [same.attemptId]
    exact coherent.attemptIds wasFound
  owned found := by
    obtain ⟨old, wasFound, same⟩ := carried.attempt_before found
    obtain ⟨step, foundStep, positive, bounded⟩ := coherent.owned wasFound
    obtain ⟨next, foundNext, sameStep⟩ := carried.step_after foundStep
    refine ⟨next, same.stepId ▸ foundNext, ?_, ?_⟩
    · rw [same.attemptNumber]
      exact positive
    · rw [same.attemptNumber, sameStep.attemptCount]
      exact bounded
  running found foundStep alive := by
    obtain ⟨old, wasFound, same⟩ := carried.attempt_before found
    obtain ⟨step, wasStep, sameStep⟩ := carried.step_before foundStep
    rw [same.stepId] at wasStep
    rw [sameStep.currentAttemptId]
    exact coherent.running wasFound wasStep (same.running alive)
  current found := by
    obtain ⟨old, wasFound, same⟩ := carried.step_before found
    obtain ⟨attemptId, attempt, names, foundAttempt, belongs, last⟩ := coherent.current wasFound
    obtain ⟨next, foundNext, continued⟩ := carried.attempt_after foundAttempt
    refine ⟨attemptId, next, same.currentAttemptId.trans names, foundNext,
      continued.stepId.trans belongs, ?_⟩
    rw [continued.attemptNumber, same.attemptCount, last]
  gapless number found positive bounded := by
    obtain ⟨old, wasFound, same⟩ := carried.step_before found
    rw [same.attemptCount] at bounded
    obtain ⟨attemptId, attempt, foundAttempt, belongs, numbered⟩ :=
      coherent.gapless number wasFound positive bounded
    obtain ⟨next, foundNext, continued⟩ := carried.attempt_after foundAttempt
    exact ⟨attemptId, next, foundNext, continued.stepId.trans belongs,
      continued.attemptNumber.trans numbered⟩
  unique foundFirst foundSecond together numbered := by
    obtain ⟨first, wasFirst, sameFirst⟩ := carried.attempt_before foundFirst
    obtain ⟨second, wasSecond, sameSecond⟩ := carried.attempt_before foundSecond
    rw [sameFirst.stepId, sameSecond.stepId] at together
    rw [sameFirst.attemptNumber, sameSecond.attemptNumber] at numbered
    exact coherent.unique wasFirst wasSecond together numbered
  origin found first := by
    obtain ⟨old, wasFound, same⟩ := carried.attempt_before found
    rw [same.attemptNumber] at first
    rw [same.retryOfAttemptId]
    exact coherent.origin wasFound first
  chain found later := by
    obtain ⟨old, wasFound, same⟩ := carried.attempt_before found
    rw [same.attemptNumber] at later
    obtain ⟨previousId, previous, names, foundPrevious, together, numbered⟩ :=
      coherent.chain wasFound later
    obtain ⟨next, foundNext, continued⟩ := carried.attempt_after foundPrevious
    refine ⟨previousId, next, same.retryOfAttemptId.trans names, foundNext, ?_, ?_⟩
    · rw [continued.stepId, same.stepId, together]
    · rw [continued.attemptNumber, same.attemptNumber, numbered]
  epochs foundFirst foundSecond together ordered := by
    obtain ⟨first, wasFirst, sameFirst⟩ := carried.attempt_before foundFirst
    obtain ⟨second, wasSecond, sameSecond⟩ := carried.attempt_before foundSecond
    rw [sameFirst.stepId, sameSecond.stepId] at together
    rw [sameFirst.attemptNumber, sameSecond.attemptNumber] at ordered
    rw [sameFirst.leaseEpoch, sameSecond.leaseEpoch]
    exact coherent.epochs wasFirst wasSecond together ordered

/-- Rewriting a stored attempt carries everything over. -/
theorem carries_setAttempt {attempt next : RunAttemptState χ}
    (found : before.attempts.find attempt.attemptId = some attempt)
    (continues : Continues attempt next) : Carries before (before.setAttempt next) where
  steps id := by
    rw [ExecutionAuthority.setAttempt_steps]
    cases before.steps.find id with
    | none => exact .none
    | some step => exact .some (.refl step)
  attempts id := by
    rw [ExecutionAuthority.setAttempt_find, continues.attemptId]
    by_cases same : id = attempt.attemptId
    · rw [if_pos same, same, found]
      exact .some continues
    · rw [if_neg same]
      cases before.attempts.find id with
      | none => exact .none
      | some other => exact .some (.refl other)

/-- Rewriting a stored step carries everything over. -/
theorem carries_setStep {step next : RunStepState}
    (found : before.steps.find step.stepId = some step) (same : SameChain step next) :
    Carries before (before.setStep next) where
  steps id := by
    rw [ExecutionAuthority.setStep_find, same.stepId]
    by_cases equal : id = step.stepId
    · rw [if_pos equal, equal, found]
      exact .some same
    · rw [if_neg equal]
      cases before.steps.find id with
      | none => exact .none
      | some other => exact .some (.refl other)
  attempts id := by
    rw [ExecutionAuthority.setStep_attempts]
    cases before.attempts.find id with
    | none => exact .none
    | some attempt => exact .some (.refl attempt)

/-- The chain of a step that a new attempt is put at the end of. -/
structure Appendable (authority : ExecutionAuthority χ) (input : StartRunAttemptInput)
    (current : Option RunStepState) (previous : Option (RunAttemptState χ)) : Prop where
  step : authority.steps.find input.stepId = current
  fresh : authority.attempts.find input.attemptId = none
  /-- The step has no other attempts than the numbered ones, none of them running, and all of
  them from earlier leases. -/
  behind : ∀ {id attempt}, authority.attempts.find id = some attempt →
    attempt.stepId = input.stepId → 1 ≤ attempt.attemptNumber ∧
      attempt.attemptNumber ≤ (current.map (·.attemptCount)).getD 0 ∧
        attempt.leaseEpoch < input.leaseEpoch ∧ attempt.status ≠ .running
  /-- All numbers are taken. -/
  filled : ∀ number : Int, 1 ≤ number → number ≤ (current.map (·.attemptCount)).getD 0 →
    ∃ id attempt, authority.attempts.find id = some attempt ∧
      attempt.stepId = input.stepId ∧ attempt.attemptNumber = number
  /-- The attempt before the new one, if any, is the last one. -/
  last : (current.map (·.attemptCount)).getD 0 = 0 ∧ previous = none ∨
    ∃ attempt, previous = some attempt ∧
      authority.attempts.find attempt.attemptId = some attempt ∧
        attempt.stepId = input.stepId ∧
          attempt.attemptNumber = (current.map (·.attemptCount)).getD 0 ∧
            1 ≤ attempt.attemptNumber

/-- The authority after an attempt was started. -/
def started (authority : ExecutionAuthority χ) (input : StartRunAttemptInput)
    (current : Option RunStepState) (previous : Option (RunAttemptState χ)) :
    ExecutionAuthority χ :=
  (authority.setStep (startedStep current input)).setAttempt
    (startedAttempt current previous input)

section Started
variable {authority : ExecutionAuthority χ} {input : StartRunAttemptInput}
  {current : Option RunStepState} {previous : Option (RunAttemptState χ)}

@[simp] theorem started_steps (id : JsString) :
    (started authority input current previous).steps.find id =
      if id = input.stepId then some (startedStep current input)
      else authority.steps.find id := by
  simp [started, startedStep]

@[simp] theorem started_attempts (id : JsString) :
    (started authority input current previous).attempts.find id =
      if id = input.attemptId then some (startedAttempt current previous input)
      else authority.attempts.find id := by
  simp [started, startedAttempt]

/-- The attempts after a start are the new one and the ones from before. -/
theorem started_attempts_eq_some {id : JsString} {attempt : RunAttemptState χ} :
    (started authority input current previous).attempts.find id = some attempt ↔
      (id = input.attemptId ∧ attempt = startedAttempt current previous input) ∨
        (id ≠ input.attemptId ∧ authority.attempts.find id = some attempt) := by
  rw [started_attempts]
  by_cases same : id = input.attemptId
  · simp [same, eq_comm]
  · simp [same]

/-- An attempt from before is still there. -/
theorem Appendable.kept (appendable : Appendable authority input current previous)
    {id : JsString} {attempt : RunAttemptState χ}
    (found : authority.attempts.find id = some attempt) :
    (started authority input current previous).attempts.find id = some attempt := by
  have different : id ≠ input.attemptId := by
    intro same
    rw [same, appendable.fresh] at found
    cases found
  exact started_attempts_eq_some.mpr (.inr ⟨different, found⟩)

/-- A new attempt names its predecessor by its id only. -/
theorem started_congr {first second : RunAttemptState χ}
    (same : first.attemptId = second.attemptId) :
    started authority input current (some first) =
      started authority input current (some second) := by
  simp [started, startedAttempt, same]

/-- The new attempt is stored. -/
theorem started_new : (started authority input current previous).attempts.find input.attemptId =
    some (startedAttempt current previous input) := by
  simp

/-- The new attempt has a number of its own, behind all the others. -/
theorem Appendable.later (appendable : Appendable authority input current previous)
    {id : JsString} {attempt : RunAttemptState χ}
    (found : authority.attempts.find id = some attempt) (belongs : attempt.stepId = input.stepId) :
    attempt.attemptNumber < (startedAttempt current previous input).attemptNumber := by
  have bounded := (appendable.behind found belongs).2.1
  show attempt.attemptNumber < (current.map (·.attemptCount)).getD 0 + 1
  omega

/-- The count of a step is not negative. -/
theorem Appendable.counts (appendable : Appendable authority input current previous) :
    0 ≤ (current.map (·.attemptCount)).getD 0 := by
  cases appendable.last with
  | inl first => exact first.1.ge
  | inr retried =>
    obtain ⟨attempt, _, _, _, numbered, positive⟩ := retried
    omega

/-- Starting an attempt at the end of its chain keeps the chains. -/
theorem Coherent.started (coherent : Coherent authority)
    (appendable : Appendable authority input current previous) :
    Coherent (started authority input current previous) where
  stepIds {id step} found := by
    rw [started_steps] at found
    by_cases same : id = input.stepId
    · rw [if_pos same, Option.some.injEq] at found
      rw [← found, same]
      rfl
    · rw [if_neg same] at found
      exact coherent.stepIds found
  attemptIds found := by
    rcases started_attempts_eq_some.mp found with ⟨rfl, rfl⟩ | ⟨_, old⟩
    · rfl
    · exact coherent.attemptIds old
  owned {id attempt} found := by
    rcases started_attempts_eq_some.mp found with ⟨rfl, rfl⟩ | ⟨_, old⟩
    · have counts := appendable.counts
      refine ⟨startedStep current input, ?_, ?_, le_refl _⟩
      · rw [started_steps]
        exact if_pos rfl
      · show 1 ≤ (current.map (·.attemptCount)).getD 0 + 1
        omega
    · by_cases belongs : attempt.stepId = input.stepId
      · have later := appendable.later old belongs
        refine ⟨startedStep current input, ?_, (appendable.behind old belongs).1, later.le⟩
        rw [started_steps, if_pos belongs]
      · obtain ⟨step, foundStep, numbered⟩ := coherent.owned old
        refine ⟨step, ?_, numbered⟩
        rw [started_steps, if_neg belongs]
        exact foundStep
  running {id attempt step} found foundStep alive := by
    rw [started_steps] at foundStep
    rcases started_attempts_eq_some.mp found with ⟨rfl, rfl⟩ | ⟨_, old⟩
    · rw [if_pos (show (startedAttempt current previous input).stepId = input.stepId from rfl),
        Option.some.injEq] at foundStep
      rw [← foundStep]
      rfl
    · by_cases belongs : attempt.stepId = input.stepId
      · exact absurd alive (appendable.behind old belongs).2.2.2
      · rw [if_neg belongs] at foundStep
        exact coherent.running old foundStep alive
  current {id step} found := by
    rw [started_steps] at found
    by_cases same : id = input.stepId
    · rw [if_pos same, Option.some.injEq] at found
      rw [← found, same]
      exact ⟨input.attemptId, _, rfl, started_new, rfl, rfl⟩
    · rw [if_neg same] at found
      obtain ⟨attemptId, attempt, names, foundAttempt, rest⟩ := coherent.current found
      exact ⟨attemptId, attempt, names, appendable.kept foundAttempt, rest⟩
  gapless {id step} number found positive bounded := by
    rw [started_steps] at found
    by_cases same : id = input.stepId
    · rw [if_pos same, Option.some.injEq] at found
      rw [← found] at bounded
      rw [same]
      have below : number ≤ (current.map (·.attemptCount)).getD 0 + 1 := bounded
      by_cases newest : number = (current.map (·.attemptCount)).getD 0 + 1
      · exact ⟨input.attemptId, _, started_new, rfl, newest.symm⟩
      · have taken : number ≤ (current.map (·.attemptCount)).getD 0 := by omega
        obtain ⟨attemptId, attempt, foundAttempt, rest⟩ :=
          appendable.filled number positive taken
        exact ⟨attemptId, attempt, appendable.kept foundAttempt, rest⟩
    · rw [if_neg same] at found
      obtain ⟨attemptId, attempt, foundAttempt, rest⟩ :=
        coherent.gapless number found positive bounded
      exact ⟨attemptId, attempt, appendable.kept foundAttempt, rest⟩
  unique foundFirst foundSecond together numbered := by
    rcases started_attempts_eq_some.mp foundFirst with ⟨rfl, rfl⟩ | ⟨_, first⟩
    · rcases started_attempts_eq_some.mp foundSecond with ⟨rfl, rfl⟩ | ⟨_, second⟩
      · rfl
      · have later := appendable.later second together.symm
        omega
    · rcases started_attempts_eq_some.mp foundSecond with ⟨rfl, rfl⟩ | ⟨_, second⟩
      · have later := appendable.later first together
        omega
      · exact coherent.unique first second together numbered
  origin {id attempt} found only := by
    rcases started_attempts_eq_some.mp found with ⟨rfl, rfl⟩ | ⟨_, old⟩
    · have counts : (current.map (·.attemptCount)).getD 0 + 1 = 1 := only
      cases appendable.last with
      | inl first =>
        rw [first.2]
        rfl
      | inr retried =>
        obtain ⟨last, _, _, _, numbered, positive⟩ := retried
        omega
    · exact coherent.origin old only
  chain {id attempt} found more := by
    rcases started_attempts_eq_some.mp found with ⟨rfl, rfl⟩ | ⟨_, old⟩
    · have counts : 1 < (current.map (·.attemptCount)).getD 0 + 1 := more
      cases appendable.last with
      | inl first => omega
      | inr retried =>
        obtain ⟨last, rfl, foundLast, belongs, numbered, _⟩ := retried
        refine ⟨last.attemptId, last, rfl, appendable.kept foundLast, belongs, ?_⟩
        rw [numbered]
        rfl
    · obtain ⟨previousId, before, names, foundBefore, rest⟩ := coherent.chain old more
      exact ⟨previousId, before, names, appendable.kept foundBefore, rest⟩
  epochs foundFirst foundSecond together ordered := by
    rcases started_attempts_eq_some.mp foundFirst with ⟨rfl, rfl⟩ | ⟨_, first⟩
    · rcases started_attempts_eq_some.mp foundSecond with ⟨rfl, rfl⟩ | ⟨_, second⟩
      · omega
      · have later := appendable.later second together.symm
        omega
    · rcases started_attempts_eq_some.mp foundSecond with ⟨rfl, rfl⟩ | ⟨_, second⟩
      · exact (appendable.behind first together).2.2.1
      · exact coherent.epochs first second together ordered

end Started

/-- The authority in which the running attempt is given up. -/
def abandoned (authority : ExecutionAuthority χ) (startedAt : JsString)
    (previous : Option (RunAttemptState χ)) : ExecutionAuthority χ :=
  ((previous.filter (·.status = .running)).map (abandonedBy startedAt)).elim authority
    authority.setAttempt

/-- What a successful operation does. -/
inductive Effect (before : ExecutionAuthority χ) :
    AuthorityOperation χ → ExecutionAuthority χ → Prop where
  | started (input : StartRunAttemptInput) (previous : Option (RunAttemptState χ))
      (fresh : before.attempts.find input.attemptId = none)
      (admitted : before.steps.find input.stepId = none ∧ previous = none ∨
        ∃ step attempt attemptId, before.steps.find input.stepId = some step ∧
          step.currentAttemptId = some attemptId ∧
            before.attempts.find attemptId = some attempt ∧ previous = some attempt ∧
              (step.status = .running ∨ step.status = .ready) ∧
                attempt.leaseEpoch < input.leaseEpoch) :
      Effect before (.beginAttempt input)
        (started (abandoned before input.startedAt previous) input
          (before.steps.find input.stepId) previous)
  | finished (operation : AuthorityOperation χ) (step nextStep : RunStepState)
      (attempt next : RunAttemptState χ) (starts : operation.starts = none)
      (foundStep : before.steps.find step.stepId = some step)
      (foundAttempt : before.attempts.find attempt.attemptId = some attempt)
      (running : step.status = .running) (same : SameChain step nextStep)
      (continues : Continues attempt next) :
      Effect before operation ((before.setStep nextStep).setAttempt next)
  | recorded (operation : AuthorityOperation χ) (attempt next : RunAttemptState χ)
      (starts : operation.starts = none)
      (found : before.attempts.find attempt.attemptId = some attempt)
      (continues : Continues attempt next) : Effect before operation (before.setAttempt next)
  | unchanged (operation : AuthorityOperation χ) (starts : operation.starts = none) :
      Effect before operation before

/-- Storing the end of an attempt does not abort. -/
theorem total_apply (result : RunStepState × RunAttemptState χ) :
    Program.Total (apply result) :=
  Program.Total.bind (Program.total_update _) fun _ => Program.total_update _

section Inversion
variable {parse : JsString → Option Int} {stringify : χ → JsString}

/-- What the end of an attempt requires and changes. -/
theorem finishRunAttempt_eq_ok {step nextStep : RunStepState} {attempt next : RunAttemptState χ}
    {input : FinishRunAttemptInput}
    (done : finishRunAttempt parse step attempt input = .ok (nextStep, next)) :
    step.status = .running ∧ SameChain step nextStep ∧ Continues attempt next := by
  simp only [finishRunAttempt, bind_eq_ok, exists_unit, rejectIf_eq_ok, not_or, not_not,
    pure_eq_ok, Prod.mk.injEq] at done
  obtain ⟨_, current, _, _, _, rfl, rfl⟩ := done
  exact ⟨current.1, ⟨rfl, rfl, rfl⟩, ⟨rfl, rfl, rfl, rfl, rfl, fun _ => current.2.1⟩⟩

/-- A located step and attempt are stored under the ids asked for. -/
theorem locate_eq_ok {tenantId runId : JsString} {mutation : RunAttemptTerminalMutation}
    {step : RunStepState} {attempt : RunAttemptState χ}
    (located : before.locate tenantId runId mutation = .ok (step, attempt)) :
    before.steps.find mutation.stepId = some step ∧
      before.attempts.find mutation.attemptId = some attempt := by
  unfold ExecutionAuthority.locate at located
  split at located
  case h_1 foundStep foundAttempt hasStep hasAttempt =>
    split at located
    case isTrue => cases located
    case isFalse =>
      obtain ⟨rfl, rfl⟩ := Prod.mk.inj (Except.ok.inj located)
      exact ⟨hasStep, hasAttempt⟩
  case h_2 => cases located

/-- A running attempt is stored under the id asked for. -/
theorem runningAttempt_eq_ok {locator : RunAttemptLocator} {attempt : RunAttemptState χ}
    (found : before.runningAttempt locator = .ok attempt) :
    before.attempts.find locator.attemptId = some attempt := by
  unfold ExecutionAuthority.runningAttempt at found
  split at found
  case h_1 stored hasAttempt =>
    split at found
    case isTrue => cases found
    case isFalse =>
      obtain rfl := Except.ok.inj found
      exact hasAttempt
  case h_2 => cases found

/-- What a start requires of the step and its current attempt. -/
theorem startRunAttempt_eq_ok {current : Option RunStepState}
    {previous : Option (RunAttemptState χ)} {input : StartRunAttemptInput}
    {started : StartedRunAttempt χ}
    (done : startRunAttempt parse current previous input = .ok started) :
    (current = none ∧ previous = none ∨ ∃ step attempt, current = some step ∧
      previous = some attempt ∧ (step.status = .running ∨ step.status = .ready) ∧
        attempt.leaseEpoch < input.leaseEpoch) ∧
      started.step = startedStep current input ∧
        started.attempt = startedAttempt current previous input ∧
          started.abandonedAttempt =
            (previous.filter (·.status = .running)).map (abandonedBy input.startedAt) := by
  simp only [startRunAttempt, bind_eq_ok, exists_unit] at done
  obtain ⟨_, admitted⟩ := done
  cases current with
  | none =>
    cases previous with
    | none =>
      simp only [ok_bind, pure_eq_ok] at admitted
      rw [← admitted]
      exact ⟨.inl ⟨rfl, rfl⟩, rfl, rfl, rfl⟩
    | some attempt => cases admitted
  | some step =>
    cases previous with
    | none => cases admitted
    | some attempt =>
      simp only [validateCurrent, bind_eq_ok, exists_unit, rejectIf_eq_ok, pure_eq_ok] at admitted
      obtain ⟨⟨_, alive, newer⟩, same⟩ := admitted
      rw [← same]
      refine ⟨.inr ⟨step, attempt, rfl, rfl, ?_, ?_⟩, rfl, rfl, rfl⟩
      · by_cases runs : step.status = .running
        · exact .inl runs
        · exact .inr (by_contra fun idle => alive ⟨runs, idle⟩)
      · exact Int.not_le.mp fun stale => newer (.inr stale)

/-- A successful start. -/
theorem begin_effect {input : StartRunAttemptInput} {value : StartedRunAttempt χ}
    (done : (begin parse input).run before = (.ok value, after)) :
    Effect before (.beginAttempt input) after := by
  simp only [begin, Program.run_read_bind, Program.run_check_bind_eq_ok, exists_unit,
    rejectIf_eq_ok, mapError_eq_ok, Program.run_update_bind, Program.run_pure,
    Prod.mk.injEq, id_eq] at done
  obtain ⟨fresh, attached, started, admitted, _, rfl⟩ := done
  obtain ⟨allowed, sameStep, sameAttempt, sameAbandoned⟩ := startRunAttempt_eq_ok admitted
  rw [sameStep, sameAttempt, sameAbandoned]
  have absent : before.attempts.find input.attemptId = none := by simpa using fresh
  refine Effect.started input (before.currentAttempt (before.steps.find input.stepId)) absent ?_
  cases allowed with
  | inl first => exact .inl first
  | inr retried =>
    obtain ⟨step, attempt, foundStep, foundAttempt, alive, newer⟩ := retried
    have names := foundAttempt
    rw [ExecutionAuthority.currentAttempt, foundStep, Option.bind_some,
      Option.bind_eq_some_iff] at names
    obtain ⟨attemptId, named, stored⟩ := names
    exact .inr ⟨step, attempt, attemptId, foundStep, named, stored, foundAttempt, alive, newer⟩

/-- The end of an attempt, whatever was noted down on the attempt before. -/
theorem finished_effect (coherent : Coherent before) {operation : AuthorityOperation χ}
    {tenantId runId : JsString} {mutation : RunAttemptTerminalMutation}
    {step nextStep : RunStepState} {attempt noted next : RunAttemptState χ}
    {input : FinishRunAttemptInput} (starts : operation.starts = none)
    (located : before.locate tenantId runId mutation = .ok (step, attempt))
    (done : finishRunAttempt parse step noted input = .ok (nextStep, next))
    (notes : Continues attempt noted) :
    Effect before operation ((before.setStep nextStep).setAttempt next) := by
  have stored := locate_eq_ok located
  have ended := finishRunAttempt_eq_ok done
  have foundStep : before.steps.find step.stepId = some step := by
    rw [coherent.stepIds stored.1]
    exact stored.1
  have foundAttempt : before.attempts.find attempt.attemptId = some attempt := by
    rw [coherent.attemptIds stored.2]
    exact stored.2
  have continues : Continues attempt next :=
    ⟨ended.2.2.attemptId.trans notes.attemptId, ended.2.2.stepId.trans notes.stepId,
      ended.2.2.attemptNumber.trans notes.attemptNumber,
      ended.2.2.retryOfAttemptId.trans notes.retryOfAttemptId,
      ended.2.2.leaseEpoch.trans notes.leaseEpoch, fun alive => notes.running (ended.2.2.running alive)⟩
  exact .finished operation step nextStep attempt next starts foundStep foundAttempt ended.1
    ended.2.1 continues

/-- Every successful operation has its effect. -/
theorem perform_effect (coherent : Coherent before) {operation : AuthorityOperation χ}
    (done : (perform parse stringify operation).run before = (.ok (), after)) :
    Effect before operation after := by
  cases operation with
  | beginAttempt input =>
    rw [perform, Program.run_bind_eq_ok] at done
    obtain ⟨value, middle, begun, same⟩ := done
    obtain ⟨_, rfl⟩ := Prod.mk.inj same
    exact begin_effect begun
  | finishAttempt tenantId runId workItemId leaseEpoch mutation =>
    rw [perform, Program.run_bind_eq_ok] at done
    obtain ⟨value, middle, ended, same⟩ := done
    obtain ⟨_, rfl⟩ := Prod.mk.inj same
    simp only [finishAttempt, finish, apply, Program.run_read_bind,
      Program.run_check_bind_eq_ok, bind_eq_ok, exists_unit, rejectIf_eq_ok, mapError_eq_ok,
      id_eq] at ended
    obtain ⟨result, ⟨found, located, _, finished⟩, rest⟩ := ended
    obtain ⟨_, rfl⟩ := Prod.mk.inj rest
    exact finished_effect coherent rfl located finished ⟨rfl, rfl, rfl, rfl, rfl, id⟩
  | finishAttemptWithCheckpoint tenantId runId workItemId leaseEpoch mutation value =>
    rw [perform, Program.run_bind_eq_ok] at done
    obtain ⟨value, middle, ended, same⟩ := done
    obtain ⟨_, rfl⟩ := Prod.mk.inj same
    simp only [finishAttemptWithCheckpoint, finishWithCheckpoint, apply, Program.run_read_bind,
      Program.run_check_bind_eq_ok, bind_eq_ok, exists_unit, rejectIf_eq_ok, mapError_eq_ok,
      id_eq] at ended
    obtain ⟨result, ⟨found, located, _, finished⟩, rest⟩ := ended
    obtain ⟨_, rfl⟩ := Prod.mk.inj rest
    exact finished_effect coherent rfl located finished ⟨rfl, rfl, rfl, rfl, rfl, id⟩
  | checkpoint locator workItemId leaseEpoch value checkpointDigest checkpointedAt =>
    rw [perform, Program.run_bind_eq_ok] at done
    obtain ⟨value, middle, recorded, same⟩ := done
    obtain ⟨_, rfl⟩ := Prod.mk.inj same
    simp only [checkpoint, Program.run_read_bind, Program.run_check_bind_eq_ok, exists_unit,
      Program.run_update_bind, Program.run_pure, id_eq] at recorded
    obtain ⟨attempt, found, _, _, rest⟩ := recorded
    obtain ⟨_, rfl⟩ := Prod.mk.inj rest
    have stored := runningAttempt_eq_ok found
    have own : before.attempts.find attempt.attemptId = some attempt := by
      rw [coherent.attemptIds stored]
      exact stored
    exact .recorded _ attempt _ rfl own ⟨rfl, rfl, rfl, rfl, rfl, id⟩
  | recordProviderTurnState locator workItemId leaseEpoch providerTurnState observedAt =>
    rw [perform, Program.run_bind_eq_ok] at done
    obtain ⟨value, middle, recorded, same⟩ := done
    obtain ⟨_, rfl⟩ := Prod.mk.inj same
    simp only [recordProviderTurnState, Program.run_read_bind, Program.run_check_bind_eq_ok,
      exists_unit, id_eq] at recorded
    obtain ⟨_, attempt, found, _, _, rest⟩ := recorded
    have stored := runningAttempt_eq_ok found
    have own : before.attempts.find attempt.attemptId = some attempt := by
      rw [coherent.attemptIds stored]
      exact stored
    split at rest
    case isTrue =>
      obtain ⟨_, rfl⟩ := Prod.mk.inj rest
      exact .unchanged _ rfl
    case isFalse =>
      obtain ⟨_, rfl⟩ := Prod.mk.inj rest
      exact .recorded _ attempt _ rfl own ⟨rfl, rfl, rfl, rfl, rfl, id⟩

/-- A start that fails changes nothing. -/
theorem begin_atomic (input : StartRunAttemptInput) :
    Program.Atomic (begin parse input : AuthorityProgram χ _) := by
  refine Program.ReadOnly.bind_atomic (Program.readOnly_read _) fun _ => ?_
  refine Program.ReadOnly.bind_atomic (Program.readOnly_check _) fun _ => ?_
  refine Program.ReadOnly.bind_atomic (Program.readOnly_check _) fun _ => ?_
  refine Program.ReadOnly.bind_atomic (Program.readOnly_check _) fun _ => ?_
  -- the three writes stand behind the last check
  apply Program.Total.atomic
  refine Program.Total.bind (Program.total_update _) fun _ => ?_
  refine Program.Total.bind (Program.total_update _) fun _ => ?_
  exact Program.Total.bind (Program.total_update _) fun _ => Program.total_pure _

/-- A computed end that is rejected changes nothing. -/
theorem finished_atomic
    (compute : ExecutionAuthority χ → Checked (RunStepState × RunAttemptState χ)) :
    Program.Atomic (do
      let authority ← Program.read id
      let result ← Program.check (compute authority)
      apply result
      pure result : AuthorityProgram χ _) := by
  refine Program.ReadOnly.bind_atomic (Program.readOnly_read _) fun _ => ?_
  refine Program.ReadOnly.bind_atomic (Program.readOnly_check _) fun result => ?_
  exact Program.Total.atomic
    (Program.Total.bind (total_apply result) fun _ => Program.total_pure _)

/-- A checkpoint that is rejected changes nothing. -/
theorem checkpoint_atomic (locator : RunAttemptLocator) (workItemId : JsString)
    (leaseEpoch : Int) (value : Option χ) (checkpointDigest checkpointedAt : JsString) :
    Program.Atomic
      (checkpoint locator workItemId leaseEpoch value checkpointDigest checkpointedAt) := by
  refine Program.ReadOnly.bind_atomic (Program.readOnly_read _) fun _ => ?_
  refine Program.ReadOnly.bind_atomic (Program.readOnly_check _) fun _ => ?_
  refine Program.ReadOnly.bind_atomic (Program.readOnly_check _) fun _ => ?_
  refine Program.ReadOnly.bind_atomic (Program.readOnly_check _) fun _ => ?_
  exact Program.Total.atomic
    (Program.Total.bind (Program.total_update _) fun _ => Program.total_pure _)

/-- Control state that is rejected changes nothing. -/
theorem recordProviderTurnState_atomic (locator : RunAttemptLocator) (workItemId : JsString)
    (leaseEpoch : Int) (providerTurnState observedAt : JsString) :
    Program.Atomic (recordProviderTurnState locator workItemId leaseEpoch providerTurnState
      observedAt : AuthorityProgram χ _) := by
  refine Program.ReadOnly.bind_atomic (Program.readOnly_check _) fun _ => ?_
  refine Program.ReadOnly.bind_atomic (Program.readOnly_read _) fun _ => ?_
  refine Program.ReadOnly.bind_atomic (Program.readOnly_check _) fun _ => ?_
  refine Program.ReadOnly.bind_atomic (Program.readOnly_check _) fun _ => ?_
  refine Program.ReadOnly.bind_atomic (Program.readOnly_check _) fun _ => ?_
  split
  · exact Program.Total.atomic (Program.total_pure _)
  · exact Program.Total.atomic
      (Program.Total.bind (Program.total_update _) fun _ => Program.total_pure _)

/-- An operation that fails changes nothing. -/
theorem perform_atomic (operation : AuthorityOperation χ) :
    Program.Atomic (perform parse stringify operation) := by
  cases operation with
  | beginAttempt input => exact (begin_atomic input).bind_total fun _ => Program.total_pure _
  | finishAttempt tenantId runId workItemId leaseEpoch mutation =>
    exact (finished_atomic _).bind_total fun _ => Program.total_pure _
  | finishAttemptWithCheckpoint tenantId runId workItemId leaseEpoch mutation value =>
    exact (finished_atomic _).bind_total fun _ => Program.total_pure _
  | checkpoint locator workItemId leaseEpoch value checkpointDigest checkpointedAt =>
    exact (checkpoint_atomic locator workItemId leaseEpoch value checkpointDigest
      checkpointedAt).bind_total fun _ => Program.total_pure _
  | recordProviderTurnState locator workItemId leaseEpoch providerTurnState observedAt =>
    exact (recordProviderTurnState_atomic locator workItemId leaseEpoch providerTurnState
      observedAt).bind_total fun _ => Program.total_pure _

end Inversion

/-- Giving up an attempt that is stored leaves it stored in its place, and not running. -/
theorem abandoned_rests (coherent : Coherent before) (startedAt : JsString) {attemptId : JsString}
    {attempt : RunAttemptState χ} (found : before.attempts.find attemptId = some attempt) :
    Carries before (abandoned before startedAt (some attempt)) ∧
      ∃ rested, (abandoned before startedAt (some attempt)).attempts.find attemptId = some rested ∧
        Continues attempt rested ∧ rested.status ≠ .running := by
  have own := coherent.attemptIds found
  have stored : before.attempts.find attempt.attemptId = some attempt := own ▸ found
  by_cases runs : attempt.status = .running
  · have given : abandoned before startedAt (some attempt) =
        before.setAttempt (abandonedBy startedAt attempt) := by
      simp [abandoned, Option.filter, runs]
    have continues : Continues attempt (abandonedBy startedAt attempt) :=
      ⟨rfl, rfl, rfl, rfl, rfl, fun _ => runs⟩
    rw [given]
    refine ⟨carries_setAttempt stored continues, abandonedBy startedAt attempt, ?_, continues, ?_⟩
    · rw [ExecutionAuthority.setAttempt_find]
      exact if_pos own.symm
    · exact RunAttemptStatus.noConfusion
  · have left : abandoned before startedAt (some attempt) = before := by
      simp [abandoned, Option.filter, runs]
    rw [left]
    exact ⟨⟨fun id => by
        cases before.steps.find id with
        | none => exact .none
        | some step => exact .some (.refl step),
      fun id => by
        cases before.attempts.find id with
        | none => exact .none
        | some other => exact .some (.refl other)⟩,
      attempt, found, .refl attempt, runs⟩

/-- Giving up an attempt touches no step. -/
theorem abandoned_steps {startedAt : JsString} {previous : Option (RunAttemptState χ)} :
    (abandoned before startedAt previous).steps = before.steps := by
  unfold abandoned
  cases (previous.filter (·.status = .running)).map (abandonedBy startedAt) <;> rfl

/-- The first attempt of a step starts a chain. -/
theorem appendable_first (coherent : Coherent before) {input : StartRunAttemptInput}
    (fresh : before.attempts.find input.attemptId = none)
    (unknown : before.steps.find input.stepId = none) :
    Appendable before input none none where
  step := unknown
  fresh := fresh
  behind found belongs := by
    obtain ⟨step, foundStep, _⟩ := coherent.owned found
    rw [belongs, unknown] at foundStep
    cases foundStep
  filled number positive bounded := by
    have none : number ≤ 0 := bounded
    omega
  last := .inl ⟨rfl, rfl⟩

/-- A later attempt is put behind the current one, which rests and has an earlier lease. -/
theorem appendable_retry (coherent : Coherent before) {input : StartRunAttemptInput}
    {step : RunStepState} {attemptId : JsString} {attempt : RunAttemptState χ}
    (fresh : before.attempts.find input.attemptId = none)
    (foundStep : before.steps.find input.stepId = some step)
    (names : step.currentAttemptId = some attemptId)
    (found : before.attempts.find attemptId = some attempt) (rests : attempt.status ≠ .running)
    (newer : attempt.leaseEpoch < input.leaseEpoch) :
    Appendable before input (some step) (some attempt) := by
  obtain ⟨currentId, current, named, foundCurrent, belongs, last⟩ := coherent.current foundStep
  obtain rfl : currentId = attemptId := Option.some.inj (named.symm.trans names)
  obtain rfl : current = attempt := Option.some.inj (foundCurrent.symm.trans found)
  have own := coherent.attemptIds found
  constructor
  case step => exact foundStep
  case fresh => exact fresh
  case behind =>
    intro id other foundOther together
    obtain ⟨owner, foundOwner, positive, bounded⟩ := coherent.owned foundOther
    rw [together, foundStep, Option.some.injEq] at foundOwner
    rw [← foundOwner] at bounded
    have sibling : other.stepId = current.stepId := together.trans belongs.symm
    refine ⟨positive, bounded, ?_, ?_⟩
    · by_cases newest : other.attemptNumber = current.attemptNumber
      · have same := coherent.unique foundOther found sibling newest
        rw [same, found, Option.some.injEq] at foundOther
        rw [← foundOther]
        exact newer
      · have earlier : other.attemptNumber < current.attemptNumber := by omega
        have behind := coherent.epochs foundOther found sibling earlier
        omega
    · intro runs
      have foundOwner : before.steps.find other.stepId = some step := by
        rw [together]
        exact foundStep
      have isCurrent := coherent.running foundOther foundOwner runs
      rw [names, Option.some.injEq] at isCurrent
      rw [← isCurrent, found, Option.some.injEq] at foundOther
      rw [← foundOther] at runs
      exact rests runs
  case filled =>
    intro number positive bounded
    exact coherent.gapless number foundStep positive bounded
  case last =>
    obtain ⟨_, _, positive, _⟩ := coherent.owned found
    refine .inr ⟨current, rfl, ?_, belongs, last, positive⟩
    rw [own]
    exact found

/-- Every effect keeps the chains. -/
theorem Effect.coherent {operation : AuthorityOperation χ} (coherent : Coherent before)
    (effect : Effect before operation after) : Coherent after := by
  cases effect with
  | started input previous fresh admitted =>
    rcases admitted with ⟨unknown, rfl⟩ |
      ⟨step, attempt, attemptId, foundStep, names, found, rfl, _, newer⟩
    · rw [unknown]
      exact coherent.started (appendable_first coherent fresh unknown)
    · obtain ⟨carried, rested, foundRested, continues, rests⟩ :=
        abandoned_rests coherent input.startedAt found
      have stillFresh := absent_after (fresh ▸ carried.attempts input.attemptId)
      have stillStep : (abandoned before input.startedAt (some attempt)).steps.find input.stepId =
          some step := by
        rw [abandoned_steps]
        exact foundStep
      have kept := coherent.carries carried
      have appendable := appendable_retry kept stillFresh stillStep names foundRested rests
        (continues.leaseEpoch ▸ newer)
      rw [foundStep, ← started_congr continues.attemptId]
      exact kept.started appendable
  | finished _ step nextStep attempt next _ foundStep foundAttempt _ same continues =>
    have kept := coherent.carries (carries_setStep foundStep same)
    exact kept.carries (carries_setAttempt foundAttempt continues)
  | recorded _ attempt next _ found continues =>
    exact coherent.carries (carries_setAttempt found continues)
  | unchanged => exact coherent

/-- A step that has ended is not touched, and no attempt of it is started. -/
theorem Effect.ended {operation : AuthorityOperation χ} (effect : Effect before operation after)
    {id : JsString} {step : RunStepState} (found : before.steps.find id = some step)
    (ended : Ended step.status) :
    after.steps.find id = some step ∧ operation.starts ≠ some id := by
  have idle : step.status ≠ .running ∧ step.status ≠ .ready := by
    rcases ended with same | same | same | same <;> rw [same] <;>
      exact ⟨RunStepStatus.noConfusion, RunStepStatus.noConfusion⟩
  cases effect with
  | started input previous fresh admitted =>
    have other : input.stepId ≠ id := by
      rintro rfl
      rcases admitted with ⟨unknown, _⟩ | ⟨current, _, _, foundStep, _, _, _, alive, _⟩
      · rw [found] at unknown
        cases unknown
      · rw [found, Option.some.injEq] at foundStep
        rw [← foundStep] at alive
        exact alive.elim idle.1 idle.2
    refine ⟨?_, fun same => other (Option.some.inj same)⟩
    rw [started_steps, if_neg (Ne.symm other), abandoned_steps]
    exact found
  | finished _ running nextStep attempt next starts foundStep foundAttempt alive same =>
    have other : id ≠ nextStep.stepId := by
      rw [same.stepId]
      rintro rfl
      rw [found, Option.some.injEq] at foundStep
      rw [← foundStep] at alive
      exact idle.1 alive
    refine ⟨?_, by simp [starts]⟩
    rw [ExecutionAuthority.setAttempt_steps, ExecutionAuthority.setStep_find, if_neg other]
    exact found
  | recorded _ attempt next starts => exact ⟨found, by simp [starts]⟩
  | unchanged _ starts => exact ⟨found, by simp [starts]⟩

/-- The authority of a fresh process has no chains. -/
theorem coherent_empty : Coherent (.empty : ExecutionAuthority χ) := by
  constructor <;> simp

section Runs
variable {parse : JsString → Option Int} {stringify : χ → JsString}

/-- Every operation keeps the chains, whether it succeeds or fails. -/
theorem perform_coherent (operation : AuthorityOperation χ) (authority : ExecutionAuthority χ)
    (coherent : Coherent authority) :
    Coherent ((perform parse stringify operation).run authority).2 := by
  cases outcome : (perform parse stringify operation).run authority with
  | mk value left =>
    cases value with
    | error error =>
      have kept : ((perform parse stringify operation).run authority).2 = authority :=
        perform_atomic operation authority error (by rw [outcome])
      rw [outcome] at kept
      rw [show left = authority from kept]
      exact coherent
    | ok done => exact (perform_effect coherent outcome).coherent coherent

/-- Every operation leaves a step that has ended as it is. -/
theorem perform_ended (operation : AuthorityOperation χ) (authority : ExecutionAuthority χ)
    (coherent : Coherent authority) {id : JsString} {step : RunStepState}
    (found : authority.steps.find id = some step) (ended : Ended step.status) :
    ((perform parse stringify operation).run authority).2.steps.find id = some step := by
  cases outcome : (perform parse stringify operation).run authority with
  | mk value left =>
    cases value with
    | error error =>
      have kept : ((perform parse stringify operation).run authority).2 = authority :=
        perform_atomic operation authority error (by rw [outcome])
      rw [outcome] at kept
      rw [show left = authority from kept]
      exact found
    | ok done => exact ((perform_effect coherent outcome).ended found ended).1

end Runs

/-- A step of the run that begins with an ended step of work neither changes it nor starts an
attempt of it. -/
def RespectsEnds (earlier later : Step (AuthorityOperation χ) Failure (ExecutionAuthority χ) Unit) :
    Prop :=
  ∀ id step, earlier.after.steps.find id = some step → Ended step.status →
    later.after.steps.find id = some step ∧ (later.operation.starts = some id → ¬ later.Succeeds)

/-- What holds along a run of operations on the authority. -/
structure Authoritative
    (steps : List (Step (AuthorityOperation χ) Failure (ExecutionAuthority χ) Unit)) : Prop where
  /-- The attempts of every step form one chain at every moment. -/
  coherent : ∀ step ∈ steps, Coherent step.before ∧ Coherent step.after
  /-- What has ended stays ended and is not attempted again. -/
  ended : steps.Pairwise RespectsEnds
  /-- An operation that fails leaves steps, attempts and checkpoints as they were. -/
  atomic : ∀ step ∈ steps, ∀ error, step.outcome = .error error → step.after = step.before

/-- The execution authority is authoritative along every run, by any workers in any order. -/
theorem attempt_authority (parse : JsString → Option Int) (stringify : χ → JsString)
    (operations : List (AuthorityOperation χ)) :
    Authoritative (trace (perform parse stringify) .empty operations) where
  coherent step member :=
    trace_invariant Coherent perform_coherent coherent_empty member
  ended := by
    refine trace_pairwise Coherent
      (fun earlier authority => Coherent authority ∧ ∀ id step,
        earlier.after.steps.find id = some step → Ended step.status →
          authority.steps.find id = some step)
      RespectsEnds perform_coherent ?marks ?keeps ?relates coherent_empty operations
    case marks =>
      intro step coherent ran
      have kept : Coherent ((perform parse stringify step.operation).run step.before).2 :=
        perform_coherent step.operation step.before coherent
      rw [ran] at kept
      exact ⟨kept, fun _ _ found _ => found⟩
    case keeps =>
      intro earlier operation authority coherent marked
      exact ⟨perform_coherent operation authority coherent, fun id step found ended =>
        perform_ended operation authority coherent (marked.2 id step found ended) ended⟩
    case relates =>
      intro earlier later coherent marked ran id step found ended
      have now := marked.2 id step found ended
      have still : ((perform parse stringify later.operation).run
          later.before).2.steps.find id = some step :=
        perform_ended later.operation later.before coherent now ended
      rw [ran] at still
      refine ⟨still, fun starts succeeds => ?_⟩
      obtain ⟨value, done⟩ := succeeds
      rw [done] at ran
      exact ((perform_effect coherent ran).ended now ended).2 starts
  atomic step member error failed := by
    have ran := run_of_mem_trace member
    have kept : ((perform parse stringify step.operation).run step.before).1 = .error error →
        ((perform parse stringify step.operation).run step.before).2 = step.before :=
      perform_atomic step.operation step.before error
    rw [ran] at kept
    exact kept failed

end Crewon.Verif.ExecutionAuthority
