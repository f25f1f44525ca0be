import Mathlib.Data.Option.Basic
import Mathlib.Data.List.Basic

/-!
# Turns of an event loop

Several activities share one state and take turns on it: a turn runs from one suspension to the
next without interruption, and may be impossible in a state. A run is any sequence of possible
turns, so that what holds of every run holds of every interleaving of the activities.
-/

namespace Crewon.Lib

variable {τ σ : Type} {perform : τ → σ → Option σ}

/-- Take the turns one after the other, where each is possible. -/
def runTurns (perform : τ → σ → Option σ) : σ → List τ → Option σ
  | state, [] => some state
  | state, turn :: later => (perform turn state).bind fun next => runTurns perform next later

@[simp] theorem runTurns_nil (state : σ) : runTurns perform state [] = some state := rfl

theorem runTurns_cons (state : σ) (turn : τ) (later : List τ) :
    runTurns perform state (turn :: later) =
      (perform turn state).bind fun next => runTurns perform next later := rfl

/-- A first turn and the later ones, by the state between them. -/
theorem runTurns_cons_eq_some {state final : σ} {turn : τ} {later : List τ} :
    runTurns perform state (turn :: later) = some final ↔
      ∃ next, perform turn state = some next ∧ runTurns perform next later = some final := by
  rw [runTurns_cons, Option.bind_eq_some_iff]

/-- A run in two parts, by the state between them. -/
theorem runTurns_append_eq_some {state final : σ} {earlier later : List τ} :
    runTurns perform state (earlier ++ later) = some final ↔
      ∃ middle, runTurns perform state earlier = some middle ∧
        runTurns perform middle later = some final := by
  induction earlier generalizing state with
  | nil => simp
  | cons turn rest hypothesis =>
    rw [List.cons_append, runTurns_cons_eq_some]
    constructor
    · rintro ⟨next, taken, reached⟩
      obtain ⟨middle, first, second⟩ := hypothesis.mp reached
      exact ⟨middle, runTurns_cons_eq_some.mpr ⟨next, taken, first⟩, second⟩
    · rintro ⟨middle, first, second⟩
      obtain ⟨next, taken, reached⟩ := runTurns_cons_eq_some.mp first
      exact ⟨next, taken, hypothesis.mpr ⟨middle, reached, second⟩⟩

/-- What every turn preserves, every run preserves. -/
theorem runTurns_invariant (invariant : σ → Prop)
    (preserved : ∀ turn state next, invariant state → perform turn state = some next →
      invariant next)
    {state final : σ} {turns : List τ} (start : invariant state)
    (reached : runTurns perform state turns = some final) : invariant final := by
  induction turns generalizing state with
  | nil =>
    obtain rfl : state = final := Option.some.inj reached
    exact start
  | cons turn later hypothesis =>
    obtain ⟨next, taken, rest⟩ := runTurns_cons_eq_some.mp reached
    exact hypothesis (preserved turn state next start taken) rest

/-- When every turn between two states of a kind lowers a measure, a run that takes more turns
than the measure has left that kind on its way. -/
theorem runTurns_leaves (invariant kind : σ → Prop) (measure : σ → Nat)
    (preserved : ∀ turn state next, invariant state → perform turn state = some next →
      invariant next)
    (lowers : ∀ turn state next, invariant state → kind state → perform turn state = some next →
      kind next → measure next < measure state)
    {state final : σ} {turns : List τ} (start : invariant state) (waits : kind state)
    (reached : runTurns perform state turns = some final)
    (long : measure state < turns.length) :
    ∃ earlier middle, earlier <+: turns ∧ runTurns perform state earlier = some middle ∧
      ¬ kind middle := by
  induction turns generalizing state with
  | nil => exact absurd long (Nat.not_lt_zero _)
  | cons turn later hypothesis =>
    obtain ⟨next, taken, rest⟩ := runTurns_cons_eq_some.mp reached
    by_cases still : kind next
    · have lower := lowers turn state next start waits taken still
      have remaining : measure next < later.length := by
        have count : measure state < later.length + 1 := long
        omega
      have held := preserved turn state next start taken
      obtain ⟨earlier, middle, leading, run, left⟩ := hypothesis held still rest remaining
      refine ⟨turn :: earlier, middle, (List.prefix_cons_inj turn).mpr leading, ?_, left⟩
      exact runTurns_cons_eq_some.mpr ⟨next, taken, run⟩
    · refine ⟨[turn], next, ⟨later, rfl⟩, ?_, still⟩
      exact runTurns_cons_eq_some.mpr ⟨next, taken, rfl⟩

end Crewon.Lib
