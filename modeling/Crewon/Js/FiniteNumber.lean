import Crewon.Js.JsonInjective
import Mathlib.Algebra.Order.Field.Power
import Mathlib.Data.Int.Log
import Mathlib.Data.Nat.Prime.Basic
import Mathlib.Data.Rat.Floor
import Mathlib.Tactic.FieldSimp

/-!
# Finite numbers and their texts

A finite number of the host language has a mantissa of 53 bits. It is written with the fewest digits
that it is read back from, so that numbers with the same text have the same value; only the two
zeros have the same value.
-/

namespace Crewon.Js

/-- A finite number: its sign, and a mantissa that is scaled by a power of two. -/
structure FiniteNumber where
  negative : Bool
  mantissa : Nat
  exponent : Int
  bounded : mantissa < 2 ^ 53
  lowest : -1074 ≤ exponent
  highest : exponent ≤ 971
  normal : exponent = -1074 ∨ 2 ^ 52 ≤ mantissa
deriving DecidableEq

namespace FiniteNumber

/-- The size of a number. -/
def size (number : FiniteNumber) : ℚ := number.mantissa * 2 ^ number.exponent

/-- The value of a number. -/
def value (number : FiniteNumber) : ℚ := if number.negative then -number.size else number.size

end FiniteNumber

/-! ## Reading a decimal -/

/-- The closest integer, and of two the even one. -/
def roundEven (value : ℚ) : Int :=
  let below := ⌊value⌋
  if value - below < 1 / 2 then below
  else if 1 / 2 < value - below then below + 1
  else if below % 2 = 0 then below
  else below + 1

/-- The exponent of the numbers around a size. -/
def exponentOf (size : ℚ) : Int := max (-1074) (Int.log 2 size - 52)

/-- The size of the number that a size is read as. -/
def nearest (size : ℚ) : ℚ := roundEven (size / 2 ^ exponentOf size) * 2 ^ exponentOf size

/-! ## Writing a number -/

/-- A decimal: an integer, and the power of ten of its last digit. -/
structure DecimalNumber where
  digits : Nat
  power : Int
deriving DecidableEq

/-- The value of a decimal. -/
def DecimalNumber.value (decimal : DecimalNumber) : ℚ := decimal.digits * 10 ^ decimal.power

/-- The decimal with a number of digits, or the next power of ten. -/
def carry (count digits : Nat) (power : Int) : DecimalNumber :=
  if digits = 10 ^ count then ⟨10 ^ (count - 1), power + 1⟩ else ⟨digits, power⟩

/-- The decimals with a number of digits around a size, the closest one first. -/
def candidates (size : ℚ) (count : Nat) : List DecimalNumber :=
  let power := Int.log 10 size + 1 - count
  let below := ⌊size / 10 ^ power⌋
  let closest := roundEven (size / 10 ^ power)
  let other := if closest = below then below + 1 else below
  [carry count closest.toNat power, carry count other.toNat power]

/-- All the digits of a size. -/
def exactDigits (size : ℚ) : DecimalNumber :=
  ⟨size.num.natAbs * 5 ^ Nat.log 2 size.den, -Nat.log 2 size.den⟩

/-- The shortest decimal that is read as a size. Seventeen digits are always enough. -/
def shortest (size : ℚ) : DecimalNumber :=
  if size = 0 then ⟨0, 0⟩
  else
    let decimals := (List.range 17).flatMap fun count => candidates size (count + 1)
    (decimals.find? fun decimal => nearest decimal.value = size).getD (exactDigits size)

/-- What is written of a decimal: digits in front of the point and behind it, and an exponent. -/
structure WrittenNumber where
  whole : List Char
  fraction : List Char
  exponent : Int
deriving DecidableEq

/-- The characters of the digits behind the point. -/
def fractionChars (fraction : List Char) : List Char :=
  if fraction = [] then [] else '.' :: fraction

/-- The characters of an exponent. -/
def exponentChars (exponent : Int) : List Char :=
  if exponent = 0 then []
  else 'e' :: (if exponent < 0 then '-' else '+') :: Nat.toDigits 10 exponent.natAbs

/-- The characters of a written number. -/
def WrittenNumber.chars (written : WrittenNumber) : List Char :=
  written.whole ++ (fractionChars written.fraction ++ exponentChars written.exponent)

/-- The value of a written number. -/
def WrittenNumber.value (written : WrittenNumber) : ℚ :=
  Nat.ofDigitChars 10 (written.whole ++ written.fraction) 0 *
    10 ^ (written.exponent - written.fraction.length)

/-- How a decimal is written. -/
def DecimalNumber.written (decimal : DecimalNumber) : WrittenNumber :=
  let digits := Nat.toDigits 10 decimal.digits
  let point : Int := decimal.power + digits.length
  if digits.length ≤ point ∧ point ≤ 21 then
    ⟨digits ++ List.replicate (point - digits.length).toNat '0', [], 0⟩
  else if 0 < point ∧ point ≤ 21 then ⟨digits.take point.toNat, digits.drop point.toNat, 0⟩
  else if -6 < point ∧ point ≤ 0 then ⟨['0'], List.replicate (-point).toNat '0' ++ digits, 0⟩
  else ⟨digits.take 1, digits.drop 1, point - 1⟩

/-- The characters of a value. -/
def numberChars (value : ℚ) : List Char :=
  let chars := (shortest |value|).written.chars
  if value < 0 then '-' :: chars else chars

/-- The text of a number. -/
def FiniteNumber.text (number : FiniteNumber) : JsString :=
  js (String.ofList (numberChars number.value))

/-! ## A number is read back from its text -/

/-- An integer is rounded to itself. -/
theorem roundEven_natCast (number : Nat) : roundEven (number : ℚ) = number := by
  have below : ⌊(number : ℚ)⌋ = number := Int.floor_natCast number
  unfold roundEven
  rw [below]
  norm_num

namespace FiniteNumber

/-- A size is not negative. -/
theorem size_nonneg (number : FiniteNumber) : 0 ≤ number.size := by
  unfold size
  positivity

/-- The size is the absolute value. -/
theorem abs_value (number : FiniteNumber) : |number.value| = number.size := by
  unfold value
  split_ifs
  · rw [abs_neg, abs_of_nonneg number.size_nonneg]
  · exact abs_of_nonneg number.size_nonneg

/-- The numbers around a size have its exponent. -/
theorem exponentOf_size (number : FiniteNumber) (positive : number.mantissa ≠ 0) :
    exponentOf number.size = number.exponent := by
  have two : (1 : Nat) < 2 := by decide
  have scale : (0 : ℚ) < 2 ^ number.exponent := by positivity
  have sizePositive : 0 < number.size := by
    unfold size
    positivity
  have above : Int.log 2 number.size < 53 + number.exponent := by
    refine (Int.lt_zpow_iff_log_lt two sizePositive).mp ?_
    have bounded : (number.mantissa : ℚ) < 2 ^ (53 : Int) := by exact_mod_cast number.bounded
    rw [Nat.cast_ofNat, zpow_add₀ (by norm_num), size]
    exact mul_lt_mul_of_pos_right bounded scale
  have lowest := number.lowest
  unfold exponentOf
  rcases number.normal with least | large
  · rw [max_eq_left (by omega), least]
  · have under : 52 + number.exponent ≤ Int.log 2 number.size := by
      refine (Int.zpow_le_iff_le_log two sizePositive).mp ?_
      have large' : (2 : ℚ) ^ (52 : Int) ≤ number.mantissa := by exact_mod_cast large
      rw [Nat.cast_ofNat, zpow_add₀ (by norm_num), size]
      exact mul_le_mul_of_nonneg_right large' scale.le
    omega

/-- The size of a number is read as itself. -/
theorem nearest_size (number : FiniteNumber) : nearest number.size = number.size := by
  by_cases zero : number.mantissa = 0
  · have nothing : number.size = 0 := by
      unfold size
      rw [zero, Nat.cast_zero, zero_mul]
    have rounded : roundEven (0 : ℚ) = 0 := by exact_mod_cast roundEven_natCast 0
    rw [nothing, nearest, zero_div, rounded, Int.cast_zero, zero_mul]
  · have scale : (2 : ℚ) ^ number.exponent ≠ 0 := by positivity
    rw [nearest, exponentOf_size number zero]
    have whole : number.size / 2 ^ number.exponent = number.mantissa := by
      rw [size, mul_div_assoc, div_self scale, mul_one]
    rw [whole, roundEven_natCast, Int.cast_natCast, size]

/-- The denominator of a size is a power of two. -/
theorem den_size (number : FiniteNumber) : ∃ power, number.size.den = 2 ^ power := by
  rcases Int.le_total 0 number.exponent with whole | small
  · obtain ⟨power, exponent⟩ := Int.eq_ofNat_of_zero_le whole
    have natural : number.size = ((number.mantissa * 2 ^ power : Nat) : ℚ) := by
      rw [size, exponent, zpow_natCast]
      push_cast
      rfl
    exact ⟨0, by rw [natural, Rat.den_natCast, pow_zero]⟩
  · obtain ⟨power, exponent⟩ := Int.eq_ofNat_of_zero_le (Int.neg_nonneg.mpr small)
    have quotient : number.size = ((number.mantissa : Int) : ℚ) / ((2 ^ power : Int) : ℚ) := by
      have inverse : number.exponent = -(power : Int) := by omega
      rw [size, inverse, zpow_neg, zpow_natCast]
      push_cast
      rfl
    have divides : (number.size.den : Int) ∣ 2 ^ power := by
      rw [quotient, ← Rat.divInt_eq_div]
      exact Rat.den_dvd _ _
    have divides' : number.size.den ∣ 2 ^ power := by exact_mod_cast divides
    obtain ⟨inside, _, same⟩ := (Nat.dvd_prime_pow Nat.prime_two).mp divides'
    exact ⟨inside, same⟩

/-- All the digits of a size have its value. -/
theorem exactDigits_size (number : FiniteNumber) :
    (exactDigits number.size).value = number.size := by
  obtain ⟨power, den⟩ := number.den_size
  have numerator : ((number.size.num.natAbs : Nat) : ℚ) = number.size.num := by
    have nonnegative := Rat.num_nonneg.mpr number.size_nonneg
    have absolute : ((number.size.num.natAbs : Nat) : Int) = number.size.num :=
      Int.natAbs_of_nonneg nonnegative
    rw [← Int.cast_natCast, absolute]
  have exponent : Nat.log 2 number.size.den = power := by rw [den, Nat.log_pow (by decide)]
  rw [exactDigits, DecimalNumber.value, exponent]
  dsimp only
  rw [zpow_neg, zpow_natCast, Nat.cast_mul, numerator, Nat.cast_pow]
  have ten : (10 : ℚ) ^ power = 5 ^ power * 2 ^ power := by
    rw [← mul_pow]
    norm_num
  have reduced : (number.size.num : ℚ) / 2 ^ power = number.size := by
    have exact' := Rat.num_div_den number.size
    rw [den] at exact'
    exact_mod_cast exact'
  rw [ten]
  conv_rhs => rw [← reduced]
  field_simp
  norm_num

/-- The shortest decimal of a number is read as it. -/
theorem nearest_shortest (number : FiniteNumber) :
    nearest (shortest number.size).value = number.size := by
  unfold shortest
  split_ifs with zero
  · have nothing : (DecimalNumber.mk 0 0).value = 0 := by simp [DecimalNumber.value]
    have same := number.nearest_size
    rw [zero] at same
    rw [nothing, same, zero]
  · dsimp only
    cases found : ((List.range 17).flatMap fun count => candidates number.size (count + 1)).find?
        fun decimal => nearest decimal.value = number.size with
    | none => rw [Option.getD_none, number.exactDigits_size, number.nearest_size]
    | some decimal =>
      have read := List.find?_some found
      exact of_decide_eq_true read

end FiniteNumber

/-- A decimal is written with its value. -/
theorem DecimalNumber.value_written (decimal : DecimalNumber) :
    decimal.written.value = decimal.value := by
  have read : Nat.ofDigitChars 10 (Nat.toDigits 10 decimal.digits) 0 = decimal.digits :=
    Nat.ofDigitChars_ten_toDigits
  have some : Nat.toDigits 10 decimal.digits ≠ [] := Nat.toDigits_ne_nil
  unfold DecimalNumber.written
  generalize Nat.toDigits 10 decimal.digits = digits at read some
  have count : 0 < digits.length := List.length_pos_iff.mpr some
  dsimp only
  split_ifs with whole middle small
  · obtain ⟨zeros, power⟩ := Int.eq_ofNat_of_zero_le (show 0 ≤ decimal.power by omega)
    have behind : (decimal.power + digits.length - digits.length).toNat = zeros := by omega
    rw [WrittenNumber.value, DecimalNumber.value, behind, power]
    dsimp only
    rw [List.append_nil, Nat.ofDigitChars_append, read, Nat.ofDigitChars_replicate_zero]
    simp [mul_comm]
  · have exponent : 0 - ((digits.drop (decimal.power + digits.length).toNat).length : Int) =
        decimal.power := by
      rw [List.length_drop]
      omega
    rw [WrittenNumber.value, DecimalNumber.value]
    dsimp only
    rw [List.take_append_drop, read, exponent]
  · have exponent : 0 - ((List.replicate (-(decimal.power + digits.length)).toNat '0' ++
        digits).length : Int) = decimal.power := by
      rw [List.length_append, List.length_replicate]
      omega
    have leading : Nat.ofDigitChars 10 ['0'] 0 = 0 := rfl
    rw [WrittenNumber.value, DecimalNumber.value]
    dsimp only
    rw [Nat.ofDigitChars_append, Nat.ofDigitChars_append, leading,
      Nat.ofDigitChars_replicate_zero, mul_zero, read, exponent]
  · have exponent : decimal.power + digits.length - 1 - ((digits.drop 1).length : Int) =
        decimal.power := by
      rw [List.length_drop]
      omega
    rw [WrittenNumber.value, DecimalNumber.value]
    dsimp only
    rw [List.take_append_drop, read, exponent]

/-- The digits of a written number are digits, and it has one. -/
structure WrittenNumber.Plain (written : WrittenNumber) : Prop where
  some : written.whole ≠ []
  whole : ∀ c ∈ written.whole, c.isDigit = true
  fraction : ∀ c ∈ written.fraction, c.isDigit = true

/-- A decimal is written with digits. -/
theorem DecimalNumber.plain_written (decimal : DecimalNumber) : decimal.written.Plain := by
  have digit : ∀ c ∈ Nat.toDigits 10 decimal.digits, c.isDigit = true :=
    fun c member => Nat.isDigit_of_mem_toDigits (by decide) (by decide) member
  have some : Nat.toDigits 10 decimal.digits ≠ [] := Nat.toDigits_ne_nil
  have zero (count : Nat) : ∀ c ∈ List.replicate count '0', c.isDigit = true := by
    intro c member
    rw [List.eq_of_mem_replicate member]
    decide
  unfold DecimalNumber.written
  generalize Nat.toDigits 10 decimal.digits = digits at digit some
  have count : 0 < digits.length := List.length_pos_iff.mpr some
  have front (width : Nat) (positive : 0 < width) : digits.take width ≠ [] := by
    intro nothing
    have length := congrArg List.length nothing
    rw [List.length_take, List.length_nil] at length
    omega
  dsimp only
  split_ifs with whole middle small
  · refine ⟨by simp [some], ?_, nofun⟩
    intro c member
    exact (List.mem_append.mp member).elim (digit c) (zero _ c)
  · refine ⟨front _ (by omega), ?_, ?_⟩
    · exact fun c member => digit c (List.mem_of_mem_take member)
    · exact fun c member => digit c (List.mem_of_mem_drop member)
  · refine ⟨List.cons_ne_nil _ _, ?_, ?_⟩
    · intro c member
      rw [List.mem_singleton.mp member]
      decide
    · intro c member
      exact (List.mem_append.mp member).elim (zero _ c) (digit c)
  · refine ⟨front 1 (by decide), ?_, ?_⟩
    · exact fun c member => digit c (List.mem_of_mem_take member)
    · exact fun c member => digit c (List.mem_of_mem_drop member)

/-- Digits in front of something else are read back. -/
theorem digits_append_inj {left right leftTail rightTail : List Char}
    (leftDigits : ∀ c ∈ left, c.isDigit = true) (rightDigits : ∀ c ∈ right, c.isDigit = true)
    (leftEnds : ∀ c ∈ leftTail.head?, c.isDigit = false)
    (rightEnds : ∀ c ∈ rightTail.head?, c.isDigit = false)
    (same : left ++ leftTail = right ++ rightTail) : left = right ∧ leftTail = rightTail := by
  have front {digits tail : List Char} (all : ∀ c ∈ digits, c.isDigit = true)
      (ends : ∀ c ∈ tail.head?, c.isDigit = false) :
      (digits ++ tail).takeWhile Char.isDigit = digits := by
    rw [List.takeWhile_append_of_pos all]
    cases tail with
    | nil => simp
    | cons first rest =>
      rw [List.takeWhile_cons_of_neg (by simp [ends first rfl]), List.append_nil]
  have digits : left = right := by
    rw [← front leftDigits leftEnds, same, front rightDigits rightEnds]
  rw [digits] at same
  exact ⟨digits, List.append_cancel_left same⟩

/-- An exponent does not begin with a digit or a point. -/
theorem exponentChars_ends (exponent : Int) :
    ∀ c ∈ (exponentChars exponent).head?, c.isDigit = false ∧ c ≠ '.' := by
  unfold exponentChars
  by_cases zero : exponent = 0
  · rw [if_pos zero]
    exact nofun
  · rw [if_neg zero]
    rintro c ⟨⟩
    decide

/-- An exponent is read back. -/
theorem exponentChars_inj {left right : Int} (same : exponentChars left = exponentChars right) :
    left = right := by
  unfold exponentChars at same
  by_cases leftZero : left = 0
  · by_cases rightZero : right = 0
    · rw [leftZero, rightZero]
    · rw [if_pos leftZero, if_neg rightZero] at same
      cases same
  · by_cases rightZero : right = 0
    · rw [if_neg leftZero, if_pos rightZero] at same
      cases same
    · rw [if_neg leftZero, if_neg rightZero] at same
      obtain ⟨sign, digits⟩ := List.cons.inj (List.cons.inj same).2
      have size := toDigits_inj digits
      have signs : left < 0 ↔ right < 0 := by
        by_cases leftSign : left < 0 <;> by_cases rightSign : right < 0
        · exact ⟨fun _ => rightSign, fun _ => leftSign⟩
        · rw [if_pos leftSign, if_neg rightSign] at sign
          exact absurd sign (by decide)
        · rw [if_neg leftSign, if_pos rightSign] at sign
          exact absurd sign (by decide)
        · exact ⟨fun less => absurd less leftSign, fun less => absurd less rightSign⟩
      omega

/-- What follows the digits in front of the point does not begin with a digit. -/
theorem fractionChars_ends (fraction : List Char) (exponent : Int) :
    ∀ c ∈ (fractionChars fraction ++ exponentChars exponent).head?, c.isDigit = false := by
  unfold fractionChars
  by_cases whole : fraction = []
  · rw [if_pos whole, List.nil_append]
    exact fun c member => (exponentChars_ends exponent c member).1
  · rw [if_neg whole]
    rintro c ⟨⟩
    decide

/-- What follows the digits in front of the point is read back. -/
theorem fractionChars_inj {left right : List Char} {leftExponent rightExponent : Int}
    (leftDigits : ∀ c ∈ left, c.isDigit = true) (rightDigits : ∀ c ∈ right, c.isDigit = true)
    (same : fractionChars left ++ exponentChars leftExponent =
      fractionChars right ++ exponentChars rightExponent) :
    left = right ∧ leftExponent = rightExponent := by
  -- an exponent does not go on like a fraction
  have apart (exponent : Int) (tail : List Char) : exponentChars exponent ≠ '.' :: tail := by
    intro spelled
    have ends := exponentChars_ends exponent '.' (by rw [spelled]; rfl)
    exact ends.2 rfl
  unfold fractionChars at same
  by_cases leftWhole : left = [] <;> by_cases rightWhole : right = []
  · rw [if_pos leftWhole, if_pos rightWhole] at same
    exact ⟨by rw [leftWhole, rightWhole], exponentChars_inj same⟩
  · rw [if_pos leftWhole, if_neg rightWhole] at same
    exact absurd same (apart _ _)
  · rw [if_neg leftWhole, if_pos rightWhole] at same
    exact absurd same.symm (apart _ _)
  · rw [if_neg leftWhole, if_neg rightWhole] at same
    have ends (exponent : Int) : ∀ c ∈ (exponentChars exponent).head?, c.isDigit = false :=
      fun c member => (exponentChars_ends exponent c member).1
    obtain ⟨digits, exponents⟩ := digits_append_inj leftDigits rightDigits (ends _) (ends _)
      (List.cons.inj same).2
    exact ⟨digits, exponentChars_inj exponents⟩

/-- A written number is read back from its characters. -/
theorem WrittenNumber.chars_inj {left right : WrittenNumber} (leftPlain : left.Plain)
    (rightPlain : right.Plain) (same : left.chars = right.chars) : left = right := by
  obtain ⟨whole, rest⟩ := digits_append_inj leftPlain.whole rightPlain.whole
    (fractionChars_ends _ _) (fractionChars_ends _ _) same
  obtain ⟨fraction, exponent⟩ := fractionChars_inj leftPlain.fraction rightPlain.fraction rest
  cases left
  cases right
  simp only at whole fraction exponent
  rw [whole, fraction, exponent]

/-- The characters of a written number are numerals, and the first one is no sign. -/
theorem WrittenNumber.numeral_chars {written : WrittenNumber} (plain : written.Plain) :
    (∀ c ∈ written.chars, c.isDigit = true ∨ c = '-' ∨ c = '+' ∨ c = '.' ∨ c = 'e') ∧
      ∃ first rest, written.chars = first :: rest ∧ first.isDigit = true := by
  constructor
  · intro c member
    have inside : c ∈ written.whole ∨ c ∈ fractionChars written.fraction ∨
        c ∈ exponentChars written.exponent := by
      simpa [WrittenNumber.chars] using member
    rcases inside with whole | fraction | exponent
    · exact .inl (plain.whole c whole)
    · unfold fractionChars at fraction
      split_ifs at fraction
      · cases fraction
      · rcases List.mem_cons.mp fraction with rfl | digit
        · simp
        · exact .inl (plain.fraction c digit)
    · unfold exponentChars at exponent
      by_cases zero : written.exponent = 0
      · rw [if_pos zero] at exponent
        cases exponent
      · rw [if_neg zero] at exponent
        rcases List.mem_cons.mp exponent with rfl | later
        · simp
        · rcases List.mem_cons.mp later with rfl | digit
          · split_ifs <;> simp
          · exact .inl (Nat.isDigit_of_mem_toDigits (by decide) (by decide) digit)
  · obtain ⟨first, rest, whole⟩ := List.exists_cons_of_ne_nil plain.some
    refine ⟨first, rest ++ (fractionChars written.fraction ++ exponentChars written.exponent),
      ?_, plain.whole first (by rw [whole]; exact List.mem_cons_self)⟩
    rw [WrittenNumber.chars, whole, List.cons_append]

namespace FiniteNumber

/-- Numbers with the same text have the same value. -/
theorem value_of_text {left right : FiniteNumber} (same : left.text = right.text) :
    left.value = right.value := by
  have chars : numberChars left.value = numberChars right.value :=
    String.ofList_injective (js_inj same)
  unfold numberChars at chars
  rw [left.abs_value, right.abs_value] at chars
  -- the characters behind the sign tell the size
  have sizes (equal : (shortest left.size).written.chars = (shortest right.size).written.chars) :
      left.size = right.size := by
    have written := WrittenNumber.chars_inj (DecimalNumber.plain_written _)
      (DecimalNumber.plain_written _) equal
    rw [← left.nearest_shortest, ← right.nearest_shortest, ← DecimalNumber.value_written,
      ← DecimalNumber.value_written, written]
  have unsigned (number : FiniteNumber) (tail : List Char) :
      (shortest number.size).written.chars ≠ '-' :: tail := by
    intro signed
    obtain ⟨first, rest, spelled, digit⟩ :=
      (WrittenNumber.numeral_chars (DecimalNumber.plain_written (shortest number.size))).2
    rw [signed] at spelled
    rw [← (List.cons.inj spelled).1] at digit
    exact absurd digit (by decide)
  have leftSize := left.abs_value
  have rightSize := right.abs_value
  dsimp only at chars
  by_cases leftSign : left.value < 0 <;> by_cases rightSign : right.value < 0
  · rw [if_pos leftSign, if_pos rightSign] at chars
    have size := sizes (List.cons.inj chars).2
    rw [abs_of_neg leftSign] at leftSize
    rw [abs_of_neg rightSign] at rightSize
    linarith
  · rw [if_pos leftSign, if_neg rightSign] at chars
    exact absurd chars.symm (unsigned _ _)
  · rw [if_neg leftSign, if_pos rightSign] at chars
    exact absurd chars (unsigned _ _)
  · rw [if_neg leftSign, if_neg rightSign] at chars
    have size := sizes chars
    rw [abs_of_nonneg (not_lt.mp leftSign)] at leftSize
    rw [abs_of_nonneg (not_lt.mp rightSign)] at rightSize
    linarith

/-- The text of a number is written with numerals. -/
theorem numeral_text (number : FiniteNumber) :
    number.text.units ≠ [] ∧ ∀ point ∈ number.text.units, JsonForm.isNumeral point = true := by
  obtain ⟨numerals, first, rest, spelled, digit⟩ :=
    WrittenNumber.numeral_chars (DecimalNumber.plain_written (shortest |number.value|))
  have chars : ∀ c ∈ numberChars number.value,
      c.isDigit = true ∨ c = '-' ∨ c = '+' ∨ c = '.' ∨ c = 'e' := by
    intro c member
    unfold numberChars at member
    dsimp only at member
    split_ifs at member
    · rcases List.mem_cons.mp member with rfl | later
      · simp
      · exact numerals c later
    · exact numerals c member
  constructor
  · intro nothing
    have empty : number.text = js "" := JsString.ext_units nothing
    have none : numberChars number.value = [] := String.ofList_injective (js_inj empty)
    unfold numberChars at none
    dsimp only at none
    rw [spelled] at none
    split_ifs at none
  · intro point member
    obtain ⟨c, written, inside⟩ := List.mem_flatMap.mp member
    rw [String.toList_ofList] at written
    rcases chars c written with decimal | rfl | rfl | rfl | rfl
    · exact numeral_of_isDigit decimal point inside
    all_goals
      rw [List.mem_singleton.mp inside]
      decide

/-- Numbers and names of any kind are read back. -/
theorem readable_text : JsonForm.Readable (fun number : FiniteNumber => number.text.units)
    (fun name : JsString => name) value where
  written number := number.numeral_text.1
  numerals number := number.numeral_text.2
  tells _ _ same := value_of_text (JsString.ext_units same)
  names _ _ same := same

end FiniteNumber

end Crewon.Js
