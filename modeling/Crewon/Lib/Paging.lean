import Mathlib.Algebra.GroupWithZero.Nat
import Mathlib.Data.List.Basic

/-!
# Cutting a list into pages

A page is the longest beginning of a list whose items fit into a budget together.
-/

namespace Crewon.Lib

variable {α β : Type} {weight : α → Nat} {budget : Nat}

/-- The longest beginning of a list that fits into a budget. -/
def fitting (weight : α → Nat) : Nat → List α → List α
  | _, [] => []
  | budget, item :: rest =>
    if weight item ≤ budget then item :: fitting weight (budget - weight item) rest else []

/-- A page begins with the first item if that fits. -/
theorem fitting_cons {item : α} {rest : List α} (fits : weight item ≤ budget) :
    fitting weight budget (item :: rest) = item :: fitting weight (budget - weight item) rest :=
  if_pos fits

/-- A page is a beginning of the list. -/
theorem fitting_isPrefix (budget : Nat) (items : List α) :
    fitting weight budget items <+: items := by
  induction items generalizing budget with
  | nil => exact List.nil_prefix
  | cons item rest hypothesis =>
    by_cases fits : weight item ≤ budget
    · rw [fitting_cons fits]
      exact List.cons_prefix_cons.mpr ⟨rfl, hypothesis _⟩
    · rw [fitting, if_neg fits]
      exact List.nil_prefix

/-- A page fits into the budget. -/
theorem sum_fitting_le (budget : Nat) (items : List α) :
    ((fitting weight budget items).map weight).sum ≤ budget := by
  induction items generalizing budget with
  | nil => exact Nat.zero_le budget
  | cons item rest hypothesis =>
    by_cases fits : weight item ≤ budget
    · have behind := hypothesis (budget - weight item)
      rw [fitting_cons fits, List.map_cons, List.sum_cons]
      omega
    · rw [fitting, if_neg fits]
      exact Nat.zero_le budget

/-- Items may be written in another form before they are cut. -/
theorem fitting_map (write : β → α) (budget : Nat) (items : List β) :
    fitting weight budget (items.map write) =
      (fitting (weight ∘ write) budget items).map write := by
  induction items generalizing budget with
  | nil => rfl
  | cons item rest hypothesis =>
    by_cases fits : weight (write item) ≤ budget
    · have written : (weight ∘ write) item ≤ budget := fits
      rw [List.map_cons, fitting_cons fits, hypothesis, fitting_cons written]
      rfl
    · have written : ¬ (weight ∘ write) item ≤ budget := fits
      rw [List.map_cons, fitting, if_neg fits, fitting, if_neg written]
      rfl

end Crewon.Lib
