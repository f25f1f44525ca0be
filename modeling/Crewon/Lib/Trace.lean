import Crewon.Lib.Program

/-!
# Runs of a store

A run performs operations one after the other on the same state, each of which may abort; the
next one starts from whatever state the last one left. The trace of a run records every
operation with the state before it, its outcome and the state after it. The rules derive what
holds along a whole trace from what one operation preserves.
-/

namespace Crewon.Lib

open Program

/-- One performed operation. -/
structure Step (ω ε σ α : Type) where
  /-- The operation. -/
  operation : ω
  /-- The state it started from. -/
  before : σ
  /-- What it returned or aborted with. -/
  outcome : Except ε α
  /-- The state it left. -/
  after : σ

variable {ω ε σ α : Type}

/-- The operation returned a value. -/
def Step.Succeeds (step : Step ω ε σ α) : Prop := ∃ value, step.outcome = .ok value

/-- The trace of the operations from a state. -/
def trace (perform : ω → Program ε σ α) : σ → List ω → List (Step ω ε σ α)
  | _, [] => []
  | state, operation :: later =>
    let result := (perform operation).run state
    ⟨operation, state, result.1, result.2⟩ :: trace perform result.2 later

/-- The state after the operations. -/
def finalState (perform : ω → Program ε σ α) : σ → List ω → σ
  | state, [] => state
  | state, operation :: later => finalState perform ((perform operation).run state).2 later

variable {perform : ω → Program ε σ α}

/-- Every step of a trace is a run of its operation. -/
theorem run_of_mem_trace {state : σ} {operations : List ω} {step : Step ω ε σ α}
    (member : step ∈ trace perform state operations) :
    (perform step.operation).run step.before = (step.outcome, step.after) := by
  induction operations generalizing state with
  | nil => simp [trace] at member
  | cons operation later hypothesis =>
    rw [trace, List.mem_cons] at member
    cases member with
    | inl first => rw [first]
    | inr rest => exact hypothesis rest

/-- A step of a trace starts from the state that the operations before its own led to. -/
theorem split_of_mem_trace {state : σ} {operations : List ω} {step : Step ω ε σ α}
    (member : step ∈ trace perform state operations) :
    ∃ earlier later, operations = earlier ++ step.operation :: later ∧
      step.before = finalState perform state earlier := by
  induction operations generalizing state with
  | nil => simp [trace] at member
  | cons operation rest hypothesis =>
    rw [trace, List.mem_cons] at member
    cases member with
    | inl first =>
      rw [first]
      exact ⟨[], rest, rfl, rfl⟩
    | inr behind =>
      obtain ⟨earlier, later, rfl, before⟩ := hypothesis behind
      exact ⟨operation :: earlier, later, rfl, before⟩

/-- The trace of operations and of later ones is the trace of the former and then of the latter. -/
theorem trace_append (state : σ) (operations later : List ω) :
    trace perform state (operations ++ later) =
      trace perform state operations ++ trace perform (finalState perform state operations) later := by
  induction operations generalizing state with
  | nil => rfl
  | cons operation rest hypothesis =>
    rw [List.cons_append, trace, trace, finalState, hypothesis, List.cons_append]

/-- The state after operations and later ones is the one that the latter reach from the former. -/
theorem finalState_append (state : σ) (operations later : List ω) :
    finalState perform state (operations ++ later) =
      finalState perform (finalState perform state operations) later := by
  induction operations generalizing state with
  | nil => rfl
  | cons operation rest hypothesis => exact hypothesis _

/-- What every step of a run preserves holds at the end of the run. -/
theorem finalState_of_steps (property : σ → Prop) {state : σ} {operations : List ω}
    (preserved : ∀ step ∈ trace perform state operations, property step.before →
      (perform step.operation).run step.before = (step.outcome, step.after) → property step.after)
    (start : property state) : property (finalState perform state operations) := by
  induction operations generalizing state with
  | nil => exact start
  | cons operation later hypothesis =>
    rw [trace] at preserved
    have next := preserved _ List.mem_cons_self start rfl
    exact hypothesis (fun step member => preserved step (List.mem_cons_of_mem _ member)) next

/-- An invariant that every operation preserves, whatever its outcome, holds before and after
every step. -/
theorem trace_invariant (invariant : σ → Prop)
    (preserved : ∀ operation state, invariant state →
      invariant ((perform operation).run state).2)
    {state : σ} (start : invariant state) {operations : List ω} {step : Step ω ε σ α}
    (member : step ∈ trace perform state operations) :
    invariant step.before ∧ invariant step.after := by
  induction operations generalizing state with
  | nil => simp [trace] at member
  | cons operation later hypothesis =>
    have next := preserved operation state start
    rw [trace, List.mem_cons] at member
    cases member with
    | inl first =>
      rw [first]
      exact ⟨start, next⟩
    | inr rest => exact hypothesis next rest

/-- An invariant that every step of a run preserves holds before and after every step of it. -/
theorem trace_invariant_of_steps (invariant : σ → Prop) {state : σ} {operations : List ω}
    (preserved : ∀ step ∈ trace perform state operations, invariant step.before →
      (perform step.operation).run step.before = (step.outcome, step.after) →
        invariant step.after)
    (start : invariant state) {step : Step ω ε σ α}
    (member : step ∈ trace perform state operations) :
    invariant step.before ∧ invariant step.after := by
  induction operations generalizing state with
  | nil => simp [trace] at member
  | cons operation later hypothesis =>
    rw [trace] at preserved
    have next := preserved _ List.mem_cons_self start rfl
    rw [trace, List.mem_cons] at member
    cases member with
    | inl first =>
      rw [first]
      exact ⟨start, next⟩
    | inr rest =>
      exact hypothesis (fun step held => preserved step (List.mem_cons_of_mem _ held)) next rest

/-- An invariant that every operation preserves holds at the end of every run. -/
theorem finalState_invariant (invariant : σ → Prop)
    (preserved : ∀ operation state, invariant state →
      invariant ((perform operation).run state).2)
    {state : σ} (start : invariant state) (operations : List ω) :
    invariant (finalState perform state operations) := by
  induction operations generalizing state with
  | nil => exact start
  | cons operation later hypothesis => exact hypothesis (preserved operation state start)

/-- A relation between the steps performed so far and the state they led to, kept by every
further step, holds in front of every step of a trace. -/
theorem trace_history (related : List (Step ω ε σ α) → σ → Prop)
    (grows : ∀ earlier step, related earlier step.before →
      (perform step.operation).run step.before = (step.outcome, step.after) →
        related (earlier ++ [step]) step.after)
    {done : List (Step ω ε σ α)} {state : σ} (start : related done state)
    {operations : List ω} {earlier : List (Step ω ε σ α)} {step : Step ω ε σ α}
    {later : List (Step ω ε σ α)}
    (split : trace perform state operations = earlier ++ step :: later) :
    related (done ++ earlier) step.before := by
  induction operations generalizing state done earlier with
  | nil => simp [trace] at split
  | cons operation rest hypothesis =>
    rw [trace] at split
    cases earlier with
    | nil =>
      obtain ⟨rfl, _⟩ := List.cons.inj split
      simpa using start
    | cons first more =>
      obtain ⟨rfl, tail⟩ := List.cons.inj split
      let performed : Step ω ε σ α := ⟨operation, state, ((perform operation).run state).1,
        ((perform operation).run state).2⟩
      have reached : related (done ++ [performed]) performed.after :=
        grows done performed start rfl
      have next := hypothesis reached tail
      rwa [List.append_assoc] at next

/-- Two steps of one trace are related whenever the earlier one leaves a mark on the state that
every operation keeps and that relates it to any step starting under it. -/
theorem trace_pairwise (invariant : σ → Prop) (mark : Step ω ε σ α → σ → Prop)
    (related : Step ω ε σ α → Step ω ε σ α → Prop)
    (preserved : ∀ operation state, invariant state →
      invariant ((perform operation).run state).2)
    (marks : ∀ step, invariant step.before →
      (perform step.operation).run step.before = (step.outcome, step.after) →
        mark step step.after)
    (keeps : ∀ step operation state, invariant state → mark step state →
      mark step ((perform operation).run state).2)
    (relates : ∀ earlier later, invariant later.before → mark earlier later.before →
      (perform later.operation).run later.before = (later.outcome, later.after) →
        related earlier later)
    {state : σ} (start : invariant state) (operations : List ω) :
    (trace perform state operations).Pairwise related := by
  -- a mark left before the rest of the run relates its step to every step of the rest
  have behind (earlier : Step ω ε σ α) (rest : List ω) (current : σ) (held : invariant current)
      (marked : mark earlier current) :
      ∀ later ∈ trace perform current rest, related earlier later := by
    intro later member
    have both := trace_invariant (fun state => invariant state ∧ mark earlier state)
      (fun operation state held =>
        ⟨preserved operation state held.1, keeps earlier operation state held.1 held.2⟩)
      ⟨held, marked⟩ member
    exact relates earlier later both.1.1 both.1.2 (run_of_mem_trace member)
  induction operations generalizing state with
  | nil => exact List.Pairwise.nil
  | cons operation later hypothesis =>
    have next := preserved operation state start
    rw [trace, List.pairwise_cons]
    exact ⟨behind _ later _ next (marks _ start rfl), hypothesis next⟩

end Crewon.Lib
