import Crewon.Lib.Checked
import Mathlib.Data.List.Induction

/-!
# Replaying a log of events

A reducer consumes one event: it creates the state from the first event and advances it with
every later one, and it may reject an event. A log replays to a state when the reducer accepts
its events in order. The rules here turn what one accepted event preserves into what every
accepted log preserves.
-/

namespace Crewon.Replay

open Crewon.Checked

universe u

variable {ε σ φ : Type u}

/-- Feed the events to the reducer in order, starting from a state or from nothing. -/
def replayFrom (reduce : Option σ → ε → Except φ σ) :
    Option σ → List ε → Except φ (Option σ)
  | state, [] => .ok state
  | state, event :: later => do
      let next ← reduce state event
      replayFrom reduce (some next) later

variable {reduce : Option σ → ε → Except φ σ}

/-- The log, replayed from nothing, is accepted and ends in the state. -/
def Reaches (reduce : Option σ → ε → Except φ σ) (events : List ε) (state : σ) : Prop :=
  replayFrom reduce none events = .ok (some state)

/-- Fold a log from its first event; the empty log is rejected. -/
def fold (reduce : Option σ → ε → Except φ σ) (empty : φ) (events : List ε) : Except φ σ := do
  let state ← replayFrom reduce none events
  match state with
  | none => .error empty
  | some state => return state

/-- A log folds to a state exactly when it is accepted event by event and ends in the state. -/
theorem fold_eq_ok {empty : φ} {events : List ε} {state : σ} :
    fold reduce empty events = .ok state ↔ Reaches reduce events state := by
  simp only [fold, Reaches, bind_eq_ok]
  constructor
  · rintro ⟨reached, replayed, returned⟩
    cases reached with
    | none => simp at returned
    | some found =>
      obtain rfl : found = state := by simpa using returned
      exact replayed
  · intro replayed
    exact ⟨some state, replayed, rfl⟩

/-- Replaying no event changes nothing. -/
@[simp] theorem replayFrom_nil (state : Option σ) :
    replayFrom reduce state [] = .ok state := rfl

/-- Replaying a log in two parts is replaying the second part from the end of the first. -/
theorem replayFrom_append (state : Option σ) (earlier later : List ε) :
    replayFrom reduce state (earlier ++ later) =
      replayFrom reduce state earlier >>= fun middle => replayFrom reduce middle later := by
  induction earlier generalizing state with
  | nil => rfl
  | cons event rest hypothesis =>
    cases accepted : reduce state event with
    | error _ => simp [replayFrom, accepted]
    | ok next => simp [replayFrom, accepted, hypothesis]

/-- Replaying one event is one step of the reducer. -/
@[simp] theorem replayFrom_singleton (state : Option σ) (event : ε) {result : σ} :
    replayFrom reduce state [event] = .ok (some result) ↔ reduce state event = .ok result := by
  cases accepted : reduce state event <;> simp [replayFrom, accepted]

/-- A log that is not empty never replays to nothing. -/
theorem replayFrom_isSome {state : Option σ} {events : List ε} {result : Option σ}
    (accepted : replayFrom reduce state events = .ok result) (present : state.isSome) :
    result.isSome := by
  induction events generalizing state with
  | nil =>
    simp only [replayFrom_nil, Except.ok.injEq] at accepted
    exact accepted ▸ present
  | cons event later hypothesis =>
    simp only [replayFrom, bind_eq_ok] at accepted
    obtain ⟨next, _, rest⟩ := accepted
    exact hypothesis rest rfl

/-- An extended log is accepted exactly when the log is and the reducer accepts the event. -/
theorem reaches_append {events : List ε} {event : ε} {result : σ} :
    Reaches reduce (events ++ [event]) result ↔
      ∃ middle, replayFrom reduce none events = .ok middle ∧
        reduce middle event = .ok result := by
  simp [Reaches, replayFrom_append]

/-- Every prefix of an accepted log is accepted, and the rest is accepted from its state. -/
theorem reaches_prefix {earlier later : List ε} {result : σ}
    (accepted : Reaches reduce (earlier ++ later) result) (started : earlier ≠ []) :
    ∃ middle, Reaches reduce earlier middle ∧
      replayFrom reduce (some middle) later = .ok (some result) := by
  rw [Reaches, replayFrom_append, bind_eq_ok] at accepted
  obtain ⟨middle, first, rest⟩ := accepted
  cases earlier with
  | nil => exact absurd rfl started
  | cons event more =>
    have kept := first
    simp only [replayFrom, bind_eq_ok] at kept
    obtain ⟨next, _, kept⟩ := kept
    obtain ⟨state, rfl⟩ := Option.isSome_iff_exists.mp (replayFrom_isSome kept rfl)
    exact ⟨state, first, rest⟩

/-- An event inside an accepted log is accepted in the state of the log before it. -/
theorem reaches_step {earlier later : List ε} {event : ε} {result before : σ}
    (accepted : Reaches reduce (earlier ++ event :: later) result)
    (reached : Reaches reduce earlier before) :
    ∃ after, reduce (some before) event = .ok after ∧ Reaches reduce (earlier ++ [event]) after := by
  have whole : Reaches reduce ((earlier ++ [event]) ++ later) result := by simpa using accepted
  obtain ⟨after, extended, _⟩ := reaches_prefix whole (by simp)
  obtain ⟨middle, replayed, reduced⟩ := reaches_append.mp extended
  obtain rfl : some before = middle := Except.ok.inj (reached.symm.trans replayed)
  exact ⟨after, reduced, extended⟩

/-- A property that the first event establishes and every later event preserves holds of every
accepted log and the state it ends in. -/
theorem reaches_induction {motive : List ε → σ → Prop}
    (first : ∀ event state, reduce none event = .ok state → motive [event] state)
    (step : ∀ events state event next, Reaches reduce events state → motive events state →
      reduce (some state) event = .ok next → motive (events ++ [event]) next)
    {events : List ε} {state : σ} (accepted : Reaches reduce events state) :
    motive events state := by
  induction events using List.reverseRecOn generalizing state with
  | nil => simp [Reaches] at accepted
  | append_singleton earlier event hypothesis =>
    obtain ⟨middle, replayed, reduced⟩ := reaches_append.mp accepted
    cases middle with
    | none =>
      -- only the empty log replays to nothing
      cases earlier with
      | nil => exact first event state reduced
      | cons head rest =>
        simp only [replayFrom, bind_eq_ok] at replayed
        obtain ⟨next, _, replayed⟩ := replayed
        simpa using replayFrom_isSome replayed rfl
    | some current => exact step earlier current event state replayed (hypothesis replayed) reduced

/-- A property of states that every accepted event preserves holds after every accepted
continuation. -/
theorem replayFrom_preserves {motive : σ → Prop}
    (step : ∀ state event next, motive state → reduce (some state) event = .ok next → motive next)
    {state result : σ} {events : List ε} (start : motive state)
    (accepted : replayFrom reduce (some state) events = .ok (some result)) : motive result := by
  induction events generalizing state with
  | nil =>
    simp only [replayFrom_nil, Except.ok.injEq, Option.some.injEq] at accepted
    exact accepted ▸ start
  | cons event later hypothesis =>
    simp only [replayFrom, bind_eq_ok] at accepted
    obtain ⟨next, reduced, rest⟩ := accepted
    exact hypothesis (step state event next start reduced) rest

end Crewon.Replay
