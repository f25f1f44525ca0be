import Crewon.Js.DateText
import Crewon.Js.StableJson
import Mathlib.Tactic.IntervalCases

/-!
# Integers without bound

The program keeps amounts as decimal texts and computes with them as integers without bound. A text
in the canonical form is read as a number, and a number that is not negative is written in that
form.
-/

namespace Crewon.Js

/-- The number that a text of digits writes. -/
def bigInt (text : JsString) : Int := ((decimalValue text.units).getD 0 : Nat)

/-- The pattern `^(?:0|[1-9][0-9]*)$`, of at most a number of digits. -/
def isCanonicalDigits (text : JsString) (maxDigits : Nat) : Bool :=
  match text.units with
  | [] => false
  | first :: rest => (first :: rest).all isDigit && text.length ≤ maxDigits &&
      (first ≠ unit '0' || rest.isEmpty)

/-- The number of digits is not negative. -/
theorem bigInt_nonneg (text : JsString) : 0 ≤ bigInt text := Int.natCast_nonneg _

/-- A text of so many digits writes a number below that power of ten. -/
theorem bigInt_lt {text : JsString} {maxDigits : Nat}
    (canonical : isCanonicalDigits text maxDigits = true) : bigInt text < 10 ^ maxDigits := by
  unfold isCanonicalDigits at canonical
  split at canonical
  case h_1 => simp at canonical
  case h_2 first rest units =>
    simp only [Bool.and_eq_true, decide_eq_true_eq, ← units] at canonical
    have read : decimalValue text.units =
        some (text.units.foldl (fun value point => value * 10 + (point.toNat - 48)) 0) := by
      rw [decimalValue, if_pos canonical.1.1]
    have below := decimalValue_lt read
    have wide : (10 : Nat) ^ text.units.length ≤ 10 ^ maxDigits :=
      Nat.pow_le_pow_right (by decide) canonical.1.2
    rw [bigInt, read, Option.getD_some]
    exact_mod_cast below.trans_le wide

/-- The units of a number in decimal are its digits. -/
theorem units_decimal (value : Nat) : (decimal value).units = (Nat.toDigits 10 value).map unit := by
  have text : toString (value : Int) = String.ofList (Nat.toDigits 10 value) := by
    rw [← Nat.repr_eq_ofList_toDigits]
    rfl
  have digits : ∀ c ∈ Nat.toDigits 10 value, utf16Units c.toNat = [unit c] := by
    intro c member
    have digit := Nat.isDigit_of_mem_toDigits (by decide) (by decide) member
    have small : c.toNat < 0x10000 := by
      simp only [Char.isDigit, Bool.and_eq_true, decide_eq_true_eq] at digit
      have bound : c.toNat ≤ 57 := digit.2
      omega
    rw [utf16Units, if_pos small, unit]
  rw [decimal, text, js, String.toList_ofList, List.flatMap_congr digits]
  exact List.map_eq_flatMap.symm

/-- A number in decimal is read back. -/
theorem bigInt_decimal (value : Nat) : bigInt (decimal value) = value := by
  have digits : ∀ c ∈ Nat.toDigits 10 value, c.isDigit = true :=
    fun c member => Nat.isDigit_of_mem_toDigits (by decide) (by decide) member
  rw [bigInt, units_decimal, decimalValue_digits digits, Option.getD_some,
    Nat.ofDigitChars_ten_toDigits]

/-- The decimal digits of a positive number do not start with a zero. -/
theorem toDigits_head {value : Nat} (positive : 0 < value) :
    ∃ first rest, Nat.toDigits 10 value = first :: rest ∧ first ≠ '0' := by
  induction value using Nat.strongRecOn with
  | ind value hypothesis =>
    by_cases small : value < 10
    · refine ⟨value.digitChar, [], Nat.toDigits_of_lt_base small, ?_⟩
      interval_cases value <;> decide
    · obtain ⟨first, rest, digits, nonzero⟩ := hypothesis (value / 10) (by omega) (by omega)
      refine ⟨first, rest ++ [(value % 10).digitChar], ?_, nonzero⟩
      rw [Nat.toDigits_of_base_le (by decide) (by omega), digits, List.cons_append]

/-- A number below a power of ten is written in the canonical form, of so many digits. -/
theorem isCanonicalDigits_decimal {value maxDigits : Nat} (positive : 0 < maxDigits)
    (fits : value < 10 ^ maxDigits) : isCanonicalDigits (decimal value) maxDigits = true := by
  have digits : ∀ point ∈ (decimal value).units, isDigit point = true := by
    rw [units_decimal]
    intro point member
    obtain ⟨c, listed, rfl⟩ := List.mem_map.mp member
    have digit := Nat.isDigit_of_mem_toDigits (by decide) (by decide) listed
    exact (toNat_unit_digit digit).2
  have short : (decimal value).length ≤ maxDigits := by
    rw [JsString.length, units_decimal, List.length_map]
    exact (Nat.length_toDigits_le_iff (by decide) positive).mpr fits
  have canonical : ∀ first rest, (decimal value).units = first :: rest →
      first ≠ unit '0' ∨ rest = [] := by
    intro first rest units
    rw [units_decimal] at units
    by_cases zero : value = 0
    · rw [zero, Nat.toDigits_zero] at units
      exact .inr (List.cons.inj units).2.symm
    · obtain ⟨c, later, written, nonzero⟩ := toDigits_head (Nat.pos_of_ne_zero zero)
      have listed : c ∈ Nat.toDigits 10 value := by simp [written]
      have digit := Nat.isDigit_of_mem_toDigits (by decide) (by decide) listed
      rw [written, List.map_cons] at units
      refine .inl ?_
      rw [← (List.cons.inj units).1]
      intro same
      have code := (toNat_unit_digit digit).1
      have zeroCode : (unit '0').toNat = '0'.toNat := (toNat_unit_digit (by decide)).1
      rw [same, zeroCode] at code
      exact nonzero (Char.ext (UInt32.toNat_inj.mp code.symm))
  unfold isCanonicalDigits
  split
  case h_1 units =>
    rw [units_decimal] at units
    exact absurd (List.map_eq_nil_iff.mp units) Nat.toDigits_ne_nil
  case h_2 first rest units =>
    have all : (first :: rest).all isDigit = true := List.all_eq_true.mpr (units ▸ digits)
    rcases canonical first rest units with nonzero | alone
    · simp [all, short, nonzero]
    · rw [alone] at all ⊢
      simp only [all, short, decide_true, List.isEmpty_nil, Bool.or_true, Bool.and_self]

end Crewon.Js
