import Crewon.Context.GovernedContext
import Crewon.Js.JsonInjective

/-!
# The characters and the bytes of a text

The characters of a text make up the text, and those of a part that begins and ends with whole
characters are the same characters; its bytes are those of its characters.
-/

namespace Crewon.Verif.Characters

open Crewon.Js Crewon.Context

/-- The characters of a text make up the text. -/
theorem charactersOf_flatten (units : List UInt16) : (charactersOf units).flatten = units := by
  fun_induction charactersOf units with
  | case1 => rfl
  | case2 single => rfl
  | case3 first second rest pair hypothesis => simp [hypothesis]
  | case4 first second rest single hypothesis => simp [hypothesis]

/-- The bytes of a text are those of its characters. -/
theorem unitsWidth_eq_sum (units : List UInt16) :
    JsString.unitsWidth units = ((charactersOf units).map JsString.unitsWidth).sum := by
  fun_induction charactersOf units with
  | case1 => rfl
  | case2 single => simp
  | case3 first second rest pair hypothesis =>
    rw [List.map_cons, List.sum_cons, ← hypothesis]
    unfold JsString.unitsWidth
    rw [JsString.pointsOf, if_pos pair, JsString.pointsOf, if_pos pair, JsString.pointsOf,
      List.map_cons, List.sum_cons, List.map_cons, List.map_nil, List.sum_cons, List.sum_nil,
      Nat.add_zero]
  | case4 first second rest single hypothesis =>
    rw [List.map_cons, List.sum_cons, ← hypothesis]
    simp [JsString.unitsWidth, JsString.pointsOf, single]

/-- Whole characters in a row have themselves as characters. -/
theorem charactersOf_append {units : List UInt16} {front back : List (List UInt16)}
    (split : charactersOf units = front ++ back) :
    charactersOf front.flatten = front ∧ charactersOf back.flatten = back := by
  have all := charactersOf_flatten units
  fun_induction charactersOf units generalizing front with
  | case1 =>
    obtain ⟨rfl, rfl⟩ := List.append_eq_nil_iff.mp split.symm
    exact ⟨rfl, rfl⟩
  | case2 single =>
    cases front with
    | nil =>
      obtain rfl : back = [[single]] := split.symm
      exact ⟨rfl, rfl⟩
    | cons character front =>
      obtain ⟨rfl, rest⟩ := List.cons.inj split
      obtain ⟨rfl, rfl⟩ := List.append_eq_nil_iff.mp rest.symm
      exact ⟨rfl, rfl⟩
  | case3 first second rest pair hypothesis =>
    cases front with
    | nil =>
      obtain rfl : back = [first, second] :: charactersOf rest := split.symm
      refine ⟨rfl, ?_⟩
      rw [all, charactersOf, if_pos pair]
    | cons character front =>
      obtain ⟨rfl, later⟩ := List.cons.inj split
      obtain ⟨fronts, backs⟩ := hypothesis later (charactersOf_flatten rest)
      refine ⟨?_, backs⟩
      rw [List.flatten_cons, List.cons_append, List.cons_append, List.nil_append, charactersOf,
        if_pos pair, fronts]
  | case4 first second rest single hypothesis =>
    cases front with
    | nil =>
      obtain rfl : back = [first] :: charactersOf (second :: rest) := split.symm
      refine ⟨rfl, ?_⟩
      rw [all, charactersOf, if_neg single]
    | cons character front =>
      obtain ⟨rfl, later⟩ := List.cons.inj split
      obtain ⟨fronts, backs⟩ := hypothesis later (charactersOf_flatten (second :: rest))
      refine ⟨?_, backs⟩
      cases front with
      | nil => rfl
      | cons next front =>
        -- the next character begins with the second unit, so that no pair is made
        obtain ⟨later', begins⟩ : ∃ later', (next :: front).flatten = second :: later' := by
          have whole : (charactersOf (second :: rest)).flatten =
              ((next :: front) ++ back).flatten := congrArg List.flatten later
          rw [charactersOf_flatten, List.flatten_append] at whole
          cases spelled : (next :: front).flatten with
          | nil => rw [spelled] at fronts; simp [charactersOf] at fronts
          | cons unit later' =>
            rw [spelled, List.cons_append] at whole
            exact ⟨later', by rw [(List.cons.inj whole).1]⟩
        rw [begins] at fronts
        rw [List.flatten_cons, begins, List.cons_append, List.nil_append, charactersOf,
          if_neg single, fronts]

/-- The bytes of whole characters in a row. -/
theorem unitsWidth_flatten {units : List UInt16} {front middle back : List (List UInt16)}
    (split : charactersOf units = front ++ middle ++ back) :
    JsString.unitsWidth middle.flatten = (middle.map JsString.unitsWidth).sum := by
  have fronts := (charactersOf_append split).1
  have whole := (charactersOf_append fronts).2
  rw [unitsWidth_eq_sum, whole]

/-- Two lists of units that form no pair where they meet have the width of both together. -/
theorem unitsWidth_append {left right : List UInt16}
    (apart : ∀ last ∈ left.getLast?, ∀ next ∈ right.head?,
      (JsString.isHigh last && JsString.isLow next) = false) :
    JsString.unitsWidth (left ++ right) = JsString.unitsWidth left + JsString.unitsWidth right := by
  fun_induction JsString.pointsOf left with
  | case1 => simp [JsString.unitsWidth, JsString.pointsOf]
  | case2 single =>
    cases right with
    | nil => simp [JsString.unitsWidth, JsString.pointsOf]
    | cons next rest =>
      have split := apart single (by simp) next (by simp)
      simp [JsString.unitsWidth, JsString.pointsOf, split]
  | case3 first second rest pair hypothesis =>
    have later := hypothesis fun last member => apart last (by
      cases rest with
      | nil => simp at member
      | cons third more => simpa [List.getLast?_cons_cons] using member)
    simp only [JsString.unitsWidth, List.cons_append, JsString.pointsOf, pair, ↓reduceIte,
      List.map_cons, List.sum_cons] at later ⊢
    omega
  | case4 first second rest single hypothesis =>
    have later := hypothesis fun last member => apart last (by
      simpa [List.getLast?_cons_cons] using member)
    simp only [JsString.unitsWidth, List.cons_append, JsString.pointsOf, single] at later ⊢
    simp only [Bool.false_eq_true, ↓reduceIte, List.map_cons, List.sum_cons] at later ⊢
    omega

/-- The bytes of two texts that form no pair where they meet. -/
theorem byteLength_append {left right : JsString}
    (apart : ∀ last ∈ left.units.getLast?, ∀ next ∈ right.units.head?,
      (JsString.isHigh last && JsString.isLow next) = false) :
    (left ++ right).byteLength = left.byteLength + right.byteLength :=
  unitsWidth_append apart

/-- The bytes of a literal text are those of its characters. -/
theorem byteLength_ofList (chars : List Char) :
    (js (String.ofList chars)).byteLength =
      (chars.map fun c => JsString.utf8Width c.toNat).sum := by
  unfold JsString.byteLength
  rw [codePoints_js, String.toList_ofList, List.map_map]
  rfl

/-- A literal text of characters below the surrogates has none. -/
theorem plain_ofList {chars : List Char}
    (plain : (chars.all fun c => c.toNat < 0xD800) = true) :
    ∀ point ∈ (js (String.ofList chars)).units, JsString.isHigh point = false := by
  intro point member
  unfold js at member
  rw [String.toList_ofList] at member
  obtain ⟨c, listed, written⟩ := List.mem_flatMap.mp member
  have small : c.toNat < 0xD800 := by simpa using List.all_eq_true.mp plain c listed
  rw [utf16Units, if_pos (by omega), List.mem_singleton] at written
  have code : point.toNat = c.toNat := by
    rw [written, UInt16.toNat_ofNat']
    omega
  simp only [JsString.isHigh, Bool.and_eq_false_iff, decide_eq_false_iff_not,
    UInt16.le_iff_toNat_le]
  left
  show ¬ 0xD800 ≤ point.toNat
  omega

/-- Texts in a row have at most the bytes of each. -/
theorem byteLength_parts_le (parts : List JsString) :
    (JsString.mk (parts.flatMap JsString.units)).byteLength ≤
      (parts.map JsString.byteLength).sum := by
  induction parts with
  | nil => exact Nat.le_refl 0
  | cons first rest hypothesis =>
    have joined := first.byteLength_append_le ⟨rest.flatMap JsString.units⟩
    rw [List.map_cons, List.sum_cons]
    exact Nat.le_trans joined (Nat.add_le_add_left hypothesis _)

/-- A number has at most as many bytes as digits. -/
theorem byteLength_decimal_le {value digits : Nat} (positive : 0 < digits)
    (small : value < 10 ^ digits) : (decimal value).byteLength ≤ digits := by
  have width : ∀ c ∈ Nat.toDigits 10 value, (JsString.utf8Width ∘ Char.toNat) c = 1 := by
    intro c member
    have digit := Nat.isDigit_of_mem_toDigits (by decide) (by decide) member
    simp only [Char.isDigit, Bool.and_eq_true, decide_eq_true_eq] at digit
    have bound : c.toNat ≤ 57 := digit.2
    show JsString.utf8Width c.toNat = 1
    unfold JsString.utf8Width
    rw [if_pos (by omega)]
  have points : (decimal value).codePoints = (Nat.toDigits 10 value).map Char.toNat := by
    unfold decimal
    rw [codePoints_js]
    show (Nat.repr value).toList.map Char.toNat = _
    simp
  have short : (Nat.toDigits 10 value).length ≤ digits :=
    (Nat.length_toDigits_le_iff (by decide) positive).mpr small
  unfold JsString.byteLength
  rw [points, List.map_map]
  rw [List.map_congr_left width, List.map_const', List.sum_replicate_nat, Nat.mul_one]
  exact short

end Crewon.Verif.Characters
