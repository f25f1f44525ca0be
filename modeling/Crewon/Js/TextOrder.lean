import Crewon.Js.Text
import Mathlib.Data.List.Lex
import Mathlib.Order.Lattice

/-!
# The order of texts

Texts compare by their units from the left, which is a linear order.
-/

namespace Crewon.Js.JsString

/-- The numbers of the units of a text. -/
def codes (text : JsString) : List Nat := text.units.map UInt16.toNat

/-- A text is known by the numbers of its units. -/
theorem codes_injective : Function.Injective codes := by
  intro left right same
  have units := List.map_injective_iff.mpr (fun _ _ => UInt16.toNat_inj.mp) same
  exact ext_units units

instance : LinearOrder JsString where
  __ := PartialOrder.lift codes codes_injective
  le_total left right := le_total (codes left) (codes right)
  toDecidableLE left right := inferInstanceAs (Decidable (codes left ≤ codes right))
  toDecidableEq := inferInstance

/-- Units that come before others are less as numbers. -/
theorem unitsBefore_iff (left right : List UInt16) :
    unitsBefore left right = true ↔ left.map UInt16.toNat < right.map UInt16.toNat := by
  fun_induction unitsBefore left right with
  | case1 => simp
  | case2 => simp
  | case3 => simp
  | case4 left lefts right rights hypothesis =>
    simp [List.cons_lt_cons_iff, hypothesis, UInt16.lt_iff_toNat_lt, UInt16.toNat_inj]

/-- A text comes before another one exactly when it is less. -/
theorem before_iff {left right : JsString} : left.before right = true ↔ left < right :=
  unitsBefore_iff left.units right.units

/-- A text does not come before another one exactly when it is not less. -/
theorem before_eq_false {left right : JsString} : left.before right = false ↔ right ≤ left := by
  rw [← not_lt, ← before_iff, Bool.not_eq_true]

end Crewon.Js.JsString
