import Crewon.Js.DateText
import Crewon.Js.Json

/-!
# Bounds on the size of JSON

How long texts and numbers become when they are written as JSON, and which texts have no lone
surrogate.
-/

namespace Crewon.Js

open JsString

/-- There are at most as many code points as units. -/
theorem length_pointsOf_le (points : List UInt16) : (pointsOf points).length ≤ points.length := by
  fun_induction pointsOf points with
  | case1 => exact Nat.le_refl 0
  | case2 single => exact Nat.le_refl 1
  | case3 first second rest _ hypothesis =>
    simp only [List.length_cons]
    omega
  | case4 first second rest _ hypothesis =>
    simp only [List.length_cons] at hypothesis ⊢
    omega

/-- A code point outside the upper planes is a unit of the text. -/
theorem unit_of_mem_pointsOf {points : List UInt16} {point : Nat} (member : point ∈ pointsOf points)
    (small : point < 0x10000) : ∃ single ∈ points, single.toNat = point := by
  fun_induction pointsOf points with
  | case1 => cases member
  | case2 single => exact ⟨single, by simp, (List.mem_singleton.mp member).symm⟩
  | case3 first second rest _ hypothesis =>
    cases List.mem_cons.mp member with
    | inl pair => omega
    | inr behind =>
      obtain ⟨single, listed, same⟩ := hypothesis behind
      exact ⟨single, by simp [listed], same⟩
  | case4 first second rest _ hypothesis =>
    cases List.mem_cons.mp member with
    | inl alone => exact ⟨first, by simp, alone.symm⟩
    | inr behind =>
      obtain ⟨single, listed, same⟩ := hypothesis behind
      exact ⟨single, List.mem_cons_of_mem _ listed, same⟩

/-- A code point is written with at most six bytes. -/
theorem escapedWidth_le (point : Nat) : escapedWidth point ≤ 6 := by
  unfold escapedWidth utf8Width
  split_ifs <;> omega

/-- A text is written with at most six bytes for each unit, and its quotes. -/
theorem quotedWidth_le (text : JsString) : quotedWidth text ≤ 2 + 6 * text.length := by
  have few : text.codePoints.length ≤ text.length := length_pointsOf_le text.units
  have each : ((text.codePoints.map escapedWidth).sum) ≤ text.codePoints.length * 6 := by
    induction text.codePoints with
    | nil => exact Nat.le_refl 0
    | cons point rest hypothesis =>
      have one := escapedWidth_le point
      simp only [List.map_cons, List.sum_cons, List.length_cons]
      omega
  unfold quotedWidth
  omega

/-- A text without controls and lone surrogates is written with at most twice its bytes. -/
theorem quotedWidth_le_bytes {text : JsString}
    (plain : text.units.any isTextControl = false) (whole : text.hasLoneSurrogate = false) :
    quotedWidth text ≤ 2 + 2 * text.byteLength := by
  have each : ∀ point ∈ text.codePoints, escapedWidth point ≤ 2 * utf8Width point := by
    intro point member
    have lone : ¬ (0xD800 ≤ point ∧ point < 0xE000) := by
      have absent := List.any_eq_false.mp whole point member
      simpa using absent
    have control : point < 0x20 → point = 9 ∨ point = 10 ∨ point = 13 := by
      intro low
      obtain ⟨single, listed, same⟩ := unit_of_mem_pointsOf member (by omega)
      have allowed := List.any_eq_false.mp plain single listed
      have below : single < 0x20 := by
        show single.toNat < 0x20
        omega
      simp only [isTextControl, isControlOrDelete, below, decide_true, Bool.true_or, Bool.true_and,
        Bool.not_eq_true, Bool.not_eq_false', Bool.or_eq_true, beq_iff_eq] at allowed
      rcases allowed with (tab | line) | carriage
      · rw [tab] at same
        exact .inl same.symm
      · rw [line] at same
        exact .inr (.inl same.symm)
      · rw [carriage] at same
        exact .inr (.inr same.symm)
    unfold escapedWidth utf8Width
    split_ifs <;> omega
  have total (points : List Nat)
      (all : ∀ point ∈ points, escapedWidth point ≤ 2 * utf8Width point) :
      (points.map escapedWidth).sum ≤ 2 * (points.map utf8Width).sum := by
    induction points with
    | nil => exact Nat.le_refl 0
    | cons point rest hypothesis =>
      have one := all point List.mem_cons_self
      have more := hypothesis fun other listed => all other (List.mem_cons_of_mem _ listed)
      simp only [List.map_cons, List.sum_cons]
      omega
  have bound := total text.codePoints each
  unfold quotedWidth byteLength
  omega

/-- A safe integer is written with at most seventeen bytes. -/
theorem decimalWidth_le {value : Int} (safe : isSafeInteger value = true) :
    decimalWidth value ≤ 17 := by
  obtain ⟨low, high⟩ := isSafeInteger_iff.mp safe
  have bound : value.natAbs < 10 ^ 16 := by
    simp only [maxSafeInteger] at low high
    omega
  have digits : (Nat.repr value.natAbs).length ≤ 16 :=
    (Nat.length_repr_le_iff (by decide)).mpr bound
  unfold decimalWidth
  split_ifs <;> omega

/-- A text of units below the surrogates has no lone surrogate. -/
theorem hasLoneSurrogate_of_low {text : JsString}
    (low : ∀ single ∈ text.units, single.toNat < 0xD800) : text.hasLoneSurrogate = false := by
  refine List.any_eq_false.mpr fun point member => ?_
  by_cases small : point < 0x10000
  · obtain ⟨single, listed, same⟩ := unit_of_mem_pointsOf member small
    have below := low single listed
    simp only [Bool.and_eq_true, decide_eq_true_eq]
    omega
  · simp only [Bool.and_eq_true, decide_eq_true_eq]
    omega

/-- A digest has no lone surrogate. -/
theorem digest_low {text : JsString} (digest : isDigest text = true) :
    text.length = 71 ∧ text.hasLoneSurrogate = false := by
  simp only [isDigest, Bool.and_eq_true, beq_iff_eq, List.all_eq_true] at digest
  obtain ⟨⟨head, tail⟩, long⟩ := digest
  refine ⟨long, hasLoneSurrogate_of_low ?_⟩
  intro single member
  rw [← List.take_append_drop 7 text.units, head] at member
  rcases List.mem_append.mp member with front | behind
  · have prefixLow : ∀ single ∈ (js "sha256:").units, single.toNat < 0xD800 := by
      have all : ((js "sha256:").units.all fun single => single.toNat < 0xD800) = true := by
        decide
      simpa only [List.all_eq_true, decide_eq_true_eq] using all
    exact prefixLow single front
  · have hex := tail single behind
    simp only [isHexDigit, isDigit, Bool.or_eq_true, Bool.and_eq_true, decide_eq_true_eq] at hex
    have bound : single ≤ unit 'f' := by
      rcases hex with decimal | letter
      · exact UInt16.le_trans decimal.2 (by decide)
      · exact letter.2
    have small : single.toNat ≤ (unit 'f').toNat := bound
    have letter : (unit 'f').toNat = 102 := by decide
    omega

/-- A padded number consists of digits. -/
theorem padded_low {width value : Nat} : ∀ single ∈ padded width value, single.toNat < 0xD800 := by
  obtain ⟨digits, written, all, _⟩ := padded_digits width value
  rw [written]
  intro single member
  obtain ⟨c, listed, rfl⟩ := List.mem_map.mp member
  have digit := toNat_unit_digit (all c listed)
  have bound : c.toNat ≤ 57 := by
    have decimal := all c listed
    simp only [Char.isDigit, Bool.and_eq_true, decide_eq_true_eq] at decimal
    exact decimal.2
  omega

/-- A timestamp that the host writes has no lone surrogate. -/
theorem toIsoString_low {millis : Int} {text : JsString}
    (written : toIsoString millis = some text) : text.hasLoneSurrogate = false := by
  obtain ⟨year, fields, _, _, _, _, _, rfl⟩ := toIsoString_fields written
  have separators : ∀ c ∈ ['-', '+', 'T', ':', '.', 'Z'], (unit c).toNat < 0xD800 := by
    have all : (['-', '+', 'T', ':', '.', 'Z'].all fun c => (unit c).toNat < 0xD800) = true := by
      decide
    simpa only [List.all_eq_true, decide_eq_true_eq] using all
  have yearLow : ∀ single ∈ yearText year, single.toNat < 0xD800 := by
    unfold yearText
    split_ifs
    · exact padded_low
    · exact List.forall_mem_cons.mpr ⟨separators '-' (by simp), padded_low⟩
    · exact List.forall_mem_cons.mpr ⟨separators '+' (by simp), padded_low⟩
  refine hasLoneSurrogate_of_low ?_
  intro single member
  rcases List.mem_append.mp member with front | behind
  · exact yearLow single front
  · simp only [TimestampFields.tail, List.mem_append, List.mem_singleton] at behind
    have padded := @padded_low
    grind

mutual

/-- A bound of the length of the JSON text that does not look at the units of texts. -/
def JsonValue.widthBound : JsonValue → Nat
  | .null => 4
  | .bool _ => 5
  | .number value => decimalWidth value
  | .string value => 2 + 6 * value.length
  | .array items => 2 + (items.length - 1) + JsonValue.itemsBound items
  | .object fields => 2 + (fields.length - 1) + JsonValue.fieldsBound fields

/-- A bound of the length of the items without the separators. -/
def JsonValue.itemsBound : List JsonValue → Nat
  | [] => 0
  | item :: rest => item.widthBound + JsonValue.itemsBound rest

/-- A bound of the length of the fields without the separators. -/
def JsonValue.fieldsBound : List (String × JsonValue) → Nat
  | [] => 0
  | (name, value) :: rest => name.length + 3 + value.widthBound + JsonValue.fieldsBound rest

end

mutual

/-- The length of the JSON text is within its bound. -/
theorem JsonValue.encodedSize_le_widthBound (value : JsonValue) :
    value.encodedSize ≤ value.widthBound := by
  match value with
  | .null | .number _ => exact Nat.le_refl _
  | .bool flag => cases flag <;> decide
  | .string text => exact quotedWidth_le text
  | .array items => exact Nat.add_le_add_left (JsonValue.itemsSize_le_itemsBound items) _
  | .object fields => exact Nat.add_le_add_left (JsonValue.fieldsSize_le_fieldsBound fields) _

/-- The length of the items is within its bound. -/
theorem JsonValue.itemsSize_le_itemsBound (items : List JsonValue) :
    JsonValue.itemsSize items ≤ JsonValue.itemsBound items := by
  match items with
  | [] => exact Nat.le_refl _
  | item :: rest =>
    exact Nat.add_le_add item.encodedSize_le_widthBound (JsonValue.itemsSize_le_itemsBound rest)

/-- The length of the fields is within its bound. -/
theorem JsonValue.fieldsSize_le_fieldsBound (fields : List (String × JsonValue)) :
    JsonValue.fieldsSize fields ≤ JsonValue.fieldsBound fields := by
  match fields with
  | [] => exact Nat.le_refl _
  | (name, value) :: rest =>
    exact Nat.add_le_add (Nat.add_le_add_left value.encodedSize_le_widthBound _)
      (JsonValue.fieldsSize_le_fieldsBound rest)

end

/-- The bound of fields and further ones is the sum of theirs. -/
theorem JsonValue.fieldsBound_append (fields later : List (String × JsonValue)) :
    JsonValue.fieldsBound (fields ++ later) =
      JsonValue.fieldsBound fields + JsonValue.fieldsBound later := by
  induction fields with
  | nil => simp [JsonValue.fieldsBound]
  | cons field rest hypothesis =>
    obtain ⟨name, value⟩ := field
    rw [List.cons_append, JsonValue.fieldsBound, JsonValue.fieldsBound, hypothesis]
    omega

/-- The bound of a record is at most the one without its last value and the one of that value. -/
theorem JsonValue.widthBound_concat_le (fields : List (String × JsonValue)) (name : String)
    {value : JsonValue} {outer inner : Nat}
    (around : (JsonValue.object (fields ++ [(name, .null)])).widthBound ≤ outer)
    (last : value.widthBound ≤ inner) :
    (JsonValue.object (fields ++ [(name, value)])).widthBound ≤ outer + inner := by
  simp only [JsonValue.widthBound, JsonValue.fieldsBound_append, JsonValue.fieldsBound,
    List.length_append, List.length_cons, List.length_nil] at around ⊢
  omega

end Crewon.Js
