import Crewon.Lib.Checked

/-!
# Programs over a mutable state that may abort

An operation of a store reads and writes its state and may abort with an error. What it wrote
before it aborted stays written, so that leaving the state alone on failure is a property to be
proved of each operation and not one of the model. The rules at the end prove it from the shape
of the operation: everything that may abort stands before the first write.
-/

namespace Crewon.Lib

universe u v

/-- A program over a state: its outcome and the state it leaves. -/
def Program (ε : Type u) (σ : Type u) (α : Type u) : Type u := σ → Except ε α × σ

namespace Program

variable {ε σ α β : Type u}

/-- Run a program from a state. -/
def run (program : Program ε σ α) (state : σ) : Except ε α × σ := program state

instance : Monad (Program ε σ) where
  pure value := fun state => (.ok value, state)
  bind program next := fun state =>
    match program state with
    | (.ok value, middle) => next value middle
    | (.error error, middle) => (.error error, middle)

/-- Abort with an error. -/
def abort (error : ε) : Program ε σ α := fun state => (.error error, state)

/-- Abort when a validation rejects, and go on with its value otherwise. -/
def check (value : Except ε α) : Program ε σ α := fun state => (value, state)

/-- Read something off the state. -/
def read (view : σ → α) : Program ε σ α := fun state => (.ok (view state), state)

/-- Change the state. -/
def update (change : σ → σ) : Program ε σ PUnit := fun state => (.ok ⟨⟩, change state)

/-- Change the state when the program aborts, and abort all the same. -/
def onAbort (program : Program ε σ α) (change : σ → σ) : Program ε σ α := fun state =>
  match program state with
  | (.ok value, after) => (.ok value, after)
  | (.error error, after) => (.error error, change after)

/-- Run a program on a part of the state. -/
def focus {τ : Type u} (view : σ → τ) (put : τ → σ → σ) (program : Program ε τ α) :
    Program ε σ α := fun state =>
  match program (view state) with
  | (outcome, part) => (outcome, put part state)

@[simp] theorem run_pure (value : α) (state : σ) :
    (pure value : Program ε σ α).run state = (.ok value, state) := rfl

@[simp] theorem run_abort (error : ε) (state : σ) :
    (abort error : Program ε σ α).run state = (.error error, state) := rfl

@[simp] theorem run_check (value : Except ε α) (state : σ) :
    (check value : Program ε σ α).run state = (value, state) := rfl

@[simp] theorem run_read (view : σ → α) (state : σ) :
    (read view : Program ε σ α).run state = (.ok (view state), state) := rfl

@[simp] theorem run_update (change : σ → σ) (state : σ) :
    (update change : Program ε σ PUnit).run state = (.ok ⟨⟩, change state) := rfl

/-- A program that returns is not cleaned up after. -/
theorem run_onAbort (program : Program ε σ α) (change : σ → σ) (state : σ) :
    (program.onAbort change).run state =
      match program.run state with
      | (.ok value, after) => (.ok value, after)
      | (.error error, after) => (.error error, change after) := rfl

/-- A program on a part of the state leaves that part as it would on its own. -/
@[simp] theorem run_focus {τ : Type u} (view : σ → τ) (put : τ → σ → σ) (program : Program ε τ α)
    (state : σ) : (focus view put program).run state =
      ((program.run (view state)).1, put (program.run (view state)).2 state) := rfl

/-- A sequence runs its second part where the first part left off, unless that aborted. -/
theorem run_bind (program : Program ε σ α) (next : α → Program ε σ β) (state : σ) :
    (program >>= next).run state =
      match program.run state with
      | (.ok value, middle) => (next value).run middle
      | (.error error, middle) => (.error error, middle) := rfl

/-- A sequence succeeds exactly when both of its parts do. -/
theorem run_bind_eq_ok {program : Program ε σ α} {next : α → Program ε σ β} {state final : σ}
    {result : β} :
    (program >>= next).run state = (.ok result, final) ↔
      ∃ value middle, program.run state = (.ok value, middle) ∧
        (next value).run middle = (.ok result, final) := by
  rw [run_bind]
  cases outcome : program.run state with
  | mk value middle =>
    cases value with
    | error error => simp
    | ok found =>
      constructor
      · intro done
        exact ⟨found, middle, rfl, done⟩
      · rintro ⟨value, reached, same, done⟩
        cases same
        exact done

/-- Continuations that leave the same state leave the same state behind a program. -/
theorem run_bind_state {program : Program ε σ α} {first second : α → Program ε σ β}
    (same : ∀ value state, ((first value).run state).2 = ((second value).run state).2)
    (state : σ) : ((program >>= first).run state).2 = ((program >>= second).run state).2 := by
  rw [run_bind, run_bind]
  cases program.run state with
  | mk outcome middle =>
    cases outcome with
    | error error => rfl
    | ok value => exact same value middle

/-- Reading and then going on is going on with what the state shows. -/
@[simp] theorem run_read_bind (view : σ → α) (next : α → Program ε σ β) (state : σ) :
    (read view >>= next).run state = (next (view state)).run state := rfl

/-- A successful validation hands its value on. -/
@[simp] theorem run_check_ok_bind (value : α) (next : α → Program ε σ β) (state : σ) :
    (check (.ok value) >>= next).run state = (next value).run state := rfl

/-- A rejecting validation ends the program where it stands. -/
@[simp] theorem run_check_error_bind (error : ε) (next : α → Program ε σ β) (state : σ) :
    (check (.error error) >>= next).run state = (.error error, state) := rfl

/-- A write is seen by what follows. -/
@[simp] theorem run_update_bind (change : σ → σ) (next : PUnit → Program ε σ β) (state : σ) :
    (update change >>= next).run state = (next ⟨⟩).run (change state) := rfl

/-- A sequence that starts with a validation succeeds exactly when the validation does and the
rest succeeds from the same state. -/
@[simp] theorem run_check_bind_eq_ok {value : Except ε α} {next : α → Program ε σ β}
    {state final : σ} {result : β} :
    (check value >>= next).run state = (.ok result, final) ↔
      ∃ middle, value = .ok middle ∧ (next middle).run state = (.ok result, final) := by
  cases value <;> simp

/-- The program leaves the state alone. -/
def ReadOnly (program : Program ε σ α) : Prop := ∀ state, (program.run state).2 = state

/-- The program does not abort. -/
def Total (program : Program ε σ α) : Prop := ∀ state, ∃ value, (program.run state).1 = .ok value

/-- A program that aborts has left the state alone. -/
def Atomic (program : Program ε σ α) : Prop :=
  ∀ state error, (program.run state).1 = .error error → (program.run state).2 = state

/-- A validation writes nothing. -/
theorem readOnly_check (value : Except ε α) : ReadOnly (check value : Program ε σ α) :=
  fun _ => rfl

/-- Reading writes nothing. -/
theorem readOnly_read (view : σ → α) : ReadOnly (read view : Program ε σ α) := fun _ => rfl

/-- Aborting writes nothing. -/
theorem readOnly_abort (error : ε) : ReadOnly (abort error : Program ε σ α) := fun _ => rfl

/-- Returning writes nothing. -/
theorem readOnly_pure (value : α) : ReadOnly (pure value : Program ε σ α) := fun _ => rfl

/-- Writing does not abort. -/
theorem total_update (change : σ → σ) : Total (update change : Program ε σ PUnit) :=
  fun _ => ⟨⟨⟩, rfl⟩

/-- Returning does not abort. -/
theorem total_pure (value : α) : Total (pure value : Program ε σ α) := fun _ => ⟨value, rfl⟩

/-- Two programs in order write nothing when neither does. -/
theorem ReadOnly.bind {program : Program ε σ α} {next : α → Program ε σ β}
    (first : ReadOnly program) (second : ∀ value, ReadOnly (next value)) :
    ReadOnly (program >>= next) := by
  intro state
  have kept := first state
  rw [run_bind]
  cases outcome : program.run state with
  | mk value middle =>
    rw [outcome] at kept
    cases value with
    | error error => exact kept
    | ok result => exact (second result middle).trans kept

/-- Two programs in order do not abort when neither does. -/
theorem Total.bind {program : Program ε σ α} {next : α → Program ε σ β}
    (first : Total program) (second : ∀ value, Total (next value)) :
    Total (program >>= next) := by
  intro state
  obtain ⟨value, done⟩ := first state
  rw [run_bind]
  cases outcome : program.run state with
  | mk result middle =>
    rw [outcome] at done
    obtain rfl : result = .ok value := done
    exact second value middle

/-- A program that writes nothing is atomic. -/
theorem ReadOnly.atomic {program : Program ε σ α} (first : ReadOnly program) :
    Atomic program := fun state _ _ => first state

/-- A program that does not abort is atomic. -/
theorem Total.atomic {program : Program ε σ α} (first : Total program) : Atomic program := by
  intro state error failed
  obtain ⟨value, done⟩ := first state
  rw [done] at failed
  exact absurd failed (by simp)

/-- Checks before an atomic program keep it atomic. -/
theorem ReadOnly.bind_atomic {program : Program ε σ α} {next : α → Program ε σ β}
    (first : ReadOnly program) (second : ∀ value, Atomic (next value)) :
    Atomic (program >>= next) := by
  intro state error
  have kept := first state
  rw [run_bind]
  cases outcome : program.run state with
  | mk value middle =>
    rw [outcome] at kept
    obtain rfl : middle = state := kept
    cases value with
    | error _ => exact fun _ => rfl
    | ok result => exact second result middle error

/-- Writes after an atomic program that do not abort keep it atomic. -/
theorem Atomic.bind_total {program : Program ε σ α} {next : α → Program ε σ β}
    (first : Atomic program) (second : ∀ value, Total (next value)) :
    Atomic (program >>= next) := by
  intro state error
  have kept := first state
  rw [run_bind]
  cases outcome : program.run state with
  | mk value middle =>
    rw [outcome] at kept
    cases value with
    | error found => exact fun _ => kept found rfl
    | ok result =>
      intro failed
      obtain ⟨done, finished⟩ := second result middle
      rw [finished] at failed
      exact absurd failed (by simp)

end Program

end Crewon.Lib
