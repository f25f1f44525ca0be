import Mathlib.Logic.Basic

/-!
# Computations that may be rejected

A validation is a computation in `Except`: it either rejects its input with an error or
returns a value. The lemmas here take a successful (or failing) sequence of such steps apart,
so that a proof about a validator reads the accepted conditions off its definition.
-/

namespace Crewon.Checked

universe u v

variable {ε : Type u} {α β : Type v}

/-- Reject with the given error exactly when the condition holds. -/
def rejectIf (condition : Prop) [Decidable condition] (error : ε) : Except ε Unit :=
  if condition then .error error else .ok ()

/-- Run a check on the value when there is one. -/
def whenPresent {γ : Type v} (value : Option γ) (check : γ → Except ε Unit) : Except ε Unit :=
  match value with
  | none => .ok ()
  | some present => check present

/-- Run a computation on the value when there is one. -/
def mapPresent {γ : Type v} (value : Option γ) (compute : γ → Except ε α) :
    Except ε (Option α) :=
  match value with
  | none => .ok none
  | some present => (compute present).map some

/-- Run a check on every item in order. -/
def forEach {γ : Type v} (items : List γ) (check : γ → Except ε Unit) : Except ε Unit :=
  match items with
  | [] => .ok ()
  | item :: rest => check item >>= fun _ => forEach rest check

/-- A check passes exactly when its condition fails. -/
@[simp] theorem rejectIf_eq_ok {condition : Prop} [Decidable condition] {error : ε}
    {result : Unit} : rejectIf condition error = .ok result ↔ ¬ condition := by
  unfold rejectIf
  split <;> simp_all

/-- A check fails exactly when its condition holds, and only with its own error. -/
@[simp] theorem rejectIf_eq_error {condition : Prop} [Decidable condition] {error found : ε} :
    rejectIf condition error = .error found ↔ condition ∧ error = found := by
  unfold rejectIf
  split <;> simp_all

/-- A sequence succeeds exactly when its first part does and the rest succeeds on its value. -/
@[simp] theorem bind_eq_ok {value : Except ε α} {next : α → Except ε β} {result : β} :
    (value >>= next) = .ok result ↔
      ∃ middle, value = .ok middle ∧ next middle = .ok result := by
  cases value <;> simp [bind, Except.bind]

/-- A check yields no value to choose. -/
@[simp] theorem exists_unit {property : Unit → Prop} :
    (∃ value, property value) ↔ property () :=
  ⟨fun ⟨(), holds⟩ => holds, fun holds => ⟨(), holds⟩⟩

/-- A sequence fails exactly when its first part does or the rest fails on its value. -/
theorem bind_eq_error {value : Except ε α} {next : α → Except ε β} {error : ε} :
    (value >>= next) = .error error ↔
      value = .error error ∨ ∃ middle, value = .ok middle ∧ next middle = .error error := by
  cases value <;> simp [bind, Except.bind]

/-- A check of an optional value passes exactly when it passes on the value, if any. -/
@[simp] theorem whenPresent_eq_ok {γ : Type v} {value : Option γ} {check : γ → Except ε Unit}
    {result : Unit} :
    whenPresent value check = .ok result ↔ ∀ present, value = some present →
      check present = .ok () := by
  cases value <;> simp [whenPresent]

/-- A check of a list passes exactly when it passes on every item. -/
@[simp] theorem forEach_eq_ok {γ : Type v} {items : List γ} {check : γ → Except ε Unit}
    {result : Unit} : forEach items check = .ok result ↔ ∀ item ∈ items, check item = .ok () := by
  induction items with
  | nil => simp [forEach]
  | cons item rest hypothesis => simp [forEach, hypothesis]

/-- A successful first part hands its value on. -/
@[simp] theorem ok_bind (value : α) (next : α → Except ε β) :
    (Except.ok value >>= next) = next value := rfl

/-- A rejected first part rejects the sequence. -/
@[simp] theorem error_bind (error : ε) (next : α → Except ε β) :
    ((Except.error error : Except ε α) >>= next) = .error error := rfl

/-- Returning a value always succeeds with it. -/
@[simp] theorem pure_eq_ok {value result : α} :
    (pure value : Except ε α) = .ok result ↔ value = result := by
  simp [pure, Except.pure]

/-- Rewriting the error leaves the accepted values as they are. -/
@[simp] theorem mapError_eq_ok {ζ : Type u} {rename : ε → ζ} {value : Except ε α} {result : α} :
    value.mapError rename = .ok result ↔ value = .ok result := by
  cases value with
  | error error =>
    show (Except.error (rename error) : Except ζ α) = .ok result ↔ Except.error error = .ok result
    simp
  | ok accepted =>
    show (Except.ok accepted : Except ζ α) = .ok result ↔ Except.ok accepted = .ok result
    simp

/-- Every rejection of a computation has the property. -/
def FailsOnly (property : ε → Prop) (value : Except ε α) : Prop :=
  ∀ error, value = .error error → property error

/-- A computation that succeeds has no rejection. -/
theorem failsOnly_of_ok {property : ε → Prop} {value : Except ε α} {result : α}
    (succeeds : value = .ok result) : FailsOnly property value := by
  intro error rejected
  simp [succeeds] at rejected

/-- A check rejects with its own error only. -/
theorem failsOnly_rejectIf {property : ε → Prop} {condition : Prop} [Decidable condition]
    {error : ε} (holds : property error) : FailsOnly property (rejectIf condition error) := by
  intro found rejected
  exact (rejectIf_eq_error.mp rejected).2 ▸ holds

/-- A sequence rejects where its first part does, or the rest does on its value. -/
theorem FailsOnly.bind {property : ε → Prop} {value : Except ε α} {next : α → Except ε β}
    (first : FailsOnly property value)
    (rest : ∀ middle, value = .ok middle → FailsOnly property (next middle)) :
    FailsOnly property (value >>= next) := by
  intro error rejected
  cases bind_eq_error.mp rejected with
  | inl early => exact first error early
  | inr late =>
    obtain ⟨middle, succeeded, late⟩ := late
    exact rest middle succeeded error late

/-- A check of an optional value rejects where it does on the value. -/
theorem failsOnly_whenPresent {γ : Type v} {property : ε → Prop} {value : Option γ}
    {check : γ → Except ε Unit}
    (each : ∀ present, value = some present → FailsOnly property (check present)) :
    FailsOnly property (whenPresent value check) := by
  cases value with
  | none => exact failsOnly_of_ok rfl
  | some present => exact each present rfl

/-- A check of every item rejects where it does on one of them. -/
theorem failsOnly_forEach {γ : Type v} {property : ε → Prop} {items : List γ}
    {check : γ → Except ε Unit} (each : ∀ item ∈ items, FailsOnly property (check item)) :
    FailsOnly property (forEach items check) := by
  induction items with
  | nil => exact failsOnly_of_ok rfl
  | cons item rest hypothesis =>
    have first := each item List.mem_cons_self
    exact first.bind fun _ _ => hypothesis fun other listed =>
      each other (List.mem_cons_of_mem item listed)

/-- A rejection is one with the property. -/
theorem failsOnly_error {property : ε → Prop} {error : ε} (holds : property error) :
    FailsOnly property (.error error : Except ε α) := by
  intro found rejected
  exact Except.error.inj rejected ▸ holds

/-- A computation whose errors are rewritten rejects with rewritten errors only. -/
theorem failsOnly_mapError {ζ : Type u} {property : ζ → Prop} {rename : ε → ζ}
    {value : Except ε α} (holds : ∀ error, property (rename error)) :
    FailsOnly property (value.mapError rename) := by
  cases value with
  | error error => exact failsOnly_error (holds error)
  | ok result => exact failsOnly_of_ok rfl

/-- A computation that is seen to succeed has a value. -/
theorem exists_of_isOk {value : Except ε α} (succeeds : value.isOk = true) :
    ∃ result, value = .ok result := by
  cases value with
  | error _ => simp [Except.isOk, Except.toBool] at succeeds
  | ok result => exact ⟨result, rfl⟩

end Crewon.Checked
