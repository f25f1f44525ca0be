import Mathlib.Data.Nat.Digits.Defs

/-!
# Numbers of the host language

The program stores counters as numbers of the host language and accepts them only when they
are safe integers, so a counter is an integer here and the check is a bound. Sums of two safe
integers are exact wherever the program compares them, because it rejects a result that is
not safe before it uses it.
-/

namespace Crewon.Js

/-- The largest safe integer. -/
def maxSafeInteger : Int := 2 ^ 53 - 1

/-- An integer that a number represents without rounding to a neighbour. -/
def isSafeInteger (value : Int) : Bool := -maxSafeInteger ≤ value && value ≤ maxSafeInteger

/-- A safe integer lies between the two bounds. -/
theorem isSafeInteger_iff {value : Int} :
    isSafeInteger value = true ↔ -maxSafeInteger ≤ value ∧ value ≤ maxSafeInteger := by
  simp only [isSafeInteger, Bool.and_eq_true, decide_eq_true_eq]

/-- The bound is positive. -/
theorem maxSafeInteger_pos : 0 < maxSafeInteger := by decide

/-- A safe integer that is at least one. -/
def isPositiveInteger (value : Int) : Bool := isSafeInteger value && 1 ≤ value

/-- A safe integer that is not negative. -/
def isNonNegativeInteger (value : Int) : Bool := isSafeInteger value && 0 ≤ value

/-- A positive integer lies between one and the largest safe integer. -/
theorem isPositiveInteger_iff {value : Int} :
    isPositiveInteger value = true ↔ 1 ≤ value ∧ value ≤ maxSafeInteger := by
  have bound := maxSafeInteger_pos
  simp only [isPositiveInteger, Bool.and_eq_true, isSafeInteger_iff, decide_eq_true_eq]
  omega

/-- A non-negative integer lies between zero and the largest safe integer. -/
theorem isNonNegativeInteger_iff {value : Int} :
    isNonNegativeInteger value = true ↔ 0 ≤ value ∧ value ≤ maxSafeInteger := by
  have bound := maxSafeInteger_pos
  simp only [isNonNegativeInteger, Bool.and_eq_true, isSafeInteger_iff, decide_eq_true_eq]
  omega

/-- The characters of an integer in decimal. -/
def decimalWidth (value : Int) : Nat :=
  (Nat.repr value.natAbs).length + if value < 0 then 1 else 0

end Crewon.Js
