import Mathlib.Data.List.Forall2
import Crewon.Js.DateText
import Crewon.Verif.Characters

/-!
# What a fragment puts into its frame

The content of a fragment is escaped, so it holds no angle bracket, and it is cut where the longest
part that ends with a whole character still fits. The metadata in front of it is written as JSON,
which leaves angle brackets as they are: the frame is the only thing with angle brackets in an item
exactly when the identifiers of the fragment hold none.
-/

namespace Crewon.Verif.GovernedContext

open Crewon.Js Crewon.Checked Crewon.Domain Crewon.Context
open Crewon.Verif.Characters

/-- An angle bracket. -/
def isAngle (point : UInt16) : Bool := point == unit '<' || point == unit '>'

/-- Some unit is an angle bracket. -/
def hasAngle (units : List UInt16) : Bool := units.any isAngle

@[simp] theorem hasAngle_nil : hasAngle [] = false := rfl

@[simp] theorem hasAngle_cons (first : UInt16) (rest : List UInt16) :
    hasAngle (first :: rest) = (isAngle first || hasAngle rest) := rfl

@[simp] theorem hasAngle_append (left right : List UInt16) :
    hasAngle (left ++ right) = (hasAngle left || hasAngle right) := List.any_append

/-- Every unit lies outside the angle brackets. -/
theorem hasAngle_eq_false {units : List UInt16} :
    hasAngle units = false ↔ ∀ point ∈ units, isAngle point = false := by
  simp [hasAngle]

/-! ## The escaped content -/

/-- What is written for a unit holds no angle bracket. -/
theorem hasAngle_escapeXmlUnit (point : UInt16) : hasAngle (escapeXmlUnit point) = false := by
  unfold escapeXmlUnit
  split_ifs with ampersand less greater
  · decide
  · decide
  · decide
  · simp [isAngle, less, greater]

/-- What is written for a content holds no angle bracket. -/
theorem hasAngle_escapeXml (content : JsString) : hasAngle (escapeXml content).units = false := by
  rw [hasAngle_eq_false]
  intro point member
  obtain ⟨origin, _, written⟩ := List.mem_flatMap.mp member
  exact hasAngle_eq_false.mp (hasAngle_escapeXmlUnit origin) point written

/-- The first characters of a text. -/
def firstCharacters (text : JsString) (count : Nat) : JsString :=
  ⟨((charactersOf text.units).take count).flatten⟩

/-- The first characters are the text when it has no more. -/
theorem firstCharacters_all {text : JsString} {count : Nat}
    (all : (charactersOf text.units).length ≤ count) : firstCharacters text count = text := by
  rw [firstCharacters, List.take_of_length_le all, charactersOf_flatten]

/-- What is written for the first characters is in front of what is written for more of them. -/
theorem escapeXml_firstCharacters_start (text : JsString) {fewer more : Nat}
    (ordered : fewer ≤ more) :
    (escapeXml (firstCharacters text fewer)).units <+:
      (escapeXml (firstCharacters text more)).units := by
  have front : (charactersOf text.units).take fewer <+: (charactersOf text.units).take more :=
    List.take_prefix_take_left ordered
  obtain ⟨later, together⟩ := front
  refine ⟨later.flatten.flatMap escapeXmlUnit, ?_⟩
  show (firstCharacters text fewer).units.flatMap escapeXmlUnit ++ _ =
    (firstCharacters text more).units.flatMap escapeXmlUnit
  rw [firstCharacters, firstCharacters, ← together, List.flatten_append, List.flatMap_append]

/-- What is written for the first characters is in front of what is written for the text. -/
theorem escapeXml_firstCharacters_ahead (text : JsString) (count : Nat) :
    (escapeXml (firstCharacters text count)).units <+: (escapeXml text).units := by
  have ahead := escapeXml_firstCharacters_start text
    (Nat.le_max_left count (charactersOf text.units).length)
  rwa [firstCharacters_all (Nat.le_max_right _ _)] at ahead

/-- A surrogate is written as it is. -/
theorem escapeXmlUnit_surrogate {point : UInt16}
    (surrogate : JsString.isHigh point = true ∨ JsString.isLow point = true) :
    escapeXmlUnit point = [point] := by
  have large : 0xD800 ≤ point.toNat := by
    simp only [JsString.isHigh, JsString.isLow, Bool.and_eq_true, decide_eq_true_eq,
      UInt16.le_iff_toNat_le] at surrogate
    rcases surrogate with high | low
    · exact high.1
    · exact Nat.le_trans (by decide) low.1
  have other (c : Char) (small : (unit c).toNat < 0xD800) : point ≠ unit c := by
    rintro rfl
    omega
  have ampersand := other '&' (by decide)
  have less := other '<' (by decide)
  have greater := other '>' (by decide)
  rw [escapeXmlUnit, if_neg ampersand, if_neg less, if_neg greater]

/-- What is written for a unit forms a pair with what follows only if the unit does. -/
theorem escapeXmlUnit_apart {first second : UInt16} {front later : List UInt16}
    (single : (JsString.isHigh first && JsString.isLow second) = false)
    (ahead : front <+: escapeXmlUnit second ++ later) :
    ∀ last ∈ (escapeXmlUnit first).getLast?, ∀ next ∈ front.head?,
      (JsString.isHigh last && JsString.isLow next) = false := by
  intro last ends next begins
  by_cases high : JsString.isHigh first = true
  · rw [escapeXmlUnit_surrogate (.inl high)] at ends
    obtain rfl : first = last := by simpa using ends
    have other : JsString.isLow second = false := by simpa [high] using single
    obtain ⟨rest, written⟩ := ahead
    cases front with
    | nil => simp at begins
    | cons head tail =>
      obtain rfl : head = next := by simpa using begins
      have same : escapeXmlUnit second ++ later = head :: (tail ++ rest) := written.symm
      unfold escapeXmlUnit at same
      split_ifs at same
      · obtain rfl := (List.cons.inj same).1
        rw [high]
        decide
      · obtain rfl := (List.cons.inj same).1
        rw [high]
        decide
      · obtain rfl := (List.cons.inj same).1
        rw [high]
        decide
      · obtain rfl := (List.cons.inj same).1
        rw [high, other]
        rfl
  · have plain : JsString.isHigh last = false := by
      unfold escapeXmlUnit at ends
      split_ifs at ends
      · obtain rfl : (59 : UInt16) = last := by simpa [js, utf16Units] using ends
        decide
      · obtain rfl : (59 : UInt16) = last := by simpa [js, utf16Units] using ends
        decide
      · obtain rfl : (59 : UInt16) = last := by simpa [js, utf16Units] using ends
        decide
      · obtain rfl : first = last := by simpa using ends
        simpa using high
    rw [plain, Bool.false_and]

/-- The bytes of what is written for a character. -/
def characterBytes (character : List UInt16) : Nat :=
  JsString.unitsWidth (character.flatMap escapeXmlUnit)

/-- The bytes of what is written for the first characters are those of each of them. -/
theorem byteLength_firstCharacters (text : JsString) (count : Nat) :
    (escapeXml (firstCharacters text count)).byteLength =
      (((charactersOf text.units).take count).map characterBytes).sum := by
  show JsString.unitsWidth
    (((charactersOf text.units).take count).flatten.flatMap escapeXmlUnit) = _
  generalize text.units = units
  fun_induction charactersOf units generalizing count with
  | case1 => simp [JsString.unitsWidth, JsString.pointsOf]
  | case2 single =>
    cases count with
    | zero => simp [JsString.unitsWidth, JsString.pointsOf]
    | succ count => simp [characterBytes]
  | case3 first second rest pair hypothesis =>
    cases count with
    | zero => simp [JsString.unitsWidth, JsString.pointsOf]
    | succ count =>
      have kinds := pair
      simp only [Bool.and_eq_true] at kinds
      have low : JsString.isHigh second = false := by
        have bounds := kinds.2
        simp only [JsString.isLow, Bool.and_eq_true, decide_eq_true_eq] at bounds
        simp only [JsString.isHigh, Bool.and_eq_false_iff, decide_eq_false_iff_not]
        exact .inr (UInt16.not_lt.mpr bounds.1)
      have written : [first, second].flatMap escapeXmlUnit = [first, second] := by
        simp [escapeXmlUnit_surrogate (.inl kinds.1), escapeXmlUnit_surrogate (.inr kinds.2)]
      rw [List.take_succ_cons, List.flatten_cons, List.flatMap_append, List.map_cons, List.sum_cons,
        unitsWidth_append, hypothesis, characterBytes]
      rw [written]
      intro last ends next _
      obtain rfl : second = last := by simpa using ends
      rw [low, Bool.false_and]
  | case4 first second rest single hypothesis =>
    cases count with
    | zero => simp [JsString.unitsWidth, JsString.pointsOf]
    | succ count =>
      have ahead := escapeXml_firstCharacters_ahead ⟨second :: rest⟩ count
      rw [List.take_succ_cons, List.flatten_cons, List.flatMap_append, List.map_cons, List.sum_cons,
        unitsWidth_append, hypothesis, characterBytes]
      have alone : [first].flatMap escapeXmlUnit = escapeXmlUnit first := by simp
      rw [alone]
      exact escapeXmlUnit_apart (by simpa using single) ahead

/-- A text is what is written of the longest part of a content that ends with a whole character and
fits. -/
def LongestFitting (content : JsString) (maxBytes : Int) (escaped : JsString) : Prop :=
  escaped.units <+: (escapeXml content).units ∧ escaped.byteLength ≤ maxBytes ∧
    ∃ count, escaped = escapeXml (firstCharacters content count) ∧
      ∀ other, (escapeXml (firstCharacters content other)).byteLength ≤ maxBytes →
        (escapeXml (firstCharacters content other)).length ≤ escaped.length

/-- Characters are taken until the next one no longer fits. -/
theorem takeCharacters_spec {maxBytes : Int} (chars : List (List UInt16)) {bytes : Nat}
    (taken : EscapedContent) (fits : bytes ≤ maxBytes) :
    ∃ count, takeCharacters maxBytes bytes taken (chars.map JsString.mk) =
        ⟨taken.content ++ ⟨(chars.take count).flatten⟩,
          taken.escaped ++ escapeXml ⟨(chars.take count).flatten⟩⟩ ∧
      (bytes + ((chars.take count).map characterBytes).sum : Nat) ≤ maxBytes ∧
      (count < chars.length →
        maxBytes < (bytes + ((chars.take (count + 1)).map characterBytes).sum : Nat)) := by
  induction chars generalizing bytes taken with
  | nil =>
    refine ⟨0, ?_, by simpa using fits, by simp⟩
    have content : taken.content = taken.content ++ ⟨[]⟩ := JsString.ext_units (by simp)
    have escaped : taken.escaped = taken.escaped ++ ⟨[]⟩ := JsString.ext_units (by simp)
    show taken = ⟨taken.content ++ ⟨[]⟩, taken.escaped ++ ⟨[]⟩⟩
    rw [← content, ← escaped]
  | cons first rest hypothesis =>
    have width : (escapeXml ⟨first⟩).byteLength = characterBytes first := rfl
    rw [List.map_cons, takeCharacters]
    by_cases wide : maxBytes < (bytes + (escapeXml ⟨first⟩).byteLength : Nat)
    · refine ⟨0, ?_, by simpa using fits, fun _ => ?_⟩
      · rw [if_pos wide]
        have content : taken.content = taken.content ++ ⟨[]⟩ := JsString.ext_units (by simp)
        have escaped : taken.escaped = taken.escaped ++ ⟨[]⟩ := JsString.ext_units (by simp)
        show taken = ⟨taken.content ++ ⟨[]⟩, taken.escaped ++ ⟨[]⟩⟩
        rw [← content, ← escaped]
      · simpa [width] using wide
    · obtain ⟨count, result, within, full⟩ := hypothesis
        ⟨taken.content ++ ⟨first⟩, taken.escaped ++ escapeXml ⟨first⟩⟩ (Int.not_lt.mp wide)
      refine ⟨count + 1, ?_, ?_, fun short => ?_⟩
      · rw [if_neg wide, result]
        congr 1
        · exact JsString.ext_units (by simp)
        · exact JsString.ext_units (by simp [escapeXml])
      · rw [List.take_succ_cons, List.map_cons, List.sum_cons]
        rw [width] at within
        omega
      · have later := full (by simpa using short)
        rw [List.take_succ_cons, List.map_cons, List.sum_cons]
        rw [width] at later
        omega

/-- What is written of a content is the longest part that fits. -/
theorem projectEscapedContent_longest (content : JsString) {maxBytes : Int} (room : 0 ≤ maxBytes) :
    LongestFitting content maxBytes (projectEscapedContent content maxBytes).escaped := by
  obtain ⟨count, result, within, full⟩ := takeCharacters_spec (charactersOf content.units)
    ⟨.empty, .empty⟩ (show ((0 : Nat) : Int) ≤ maxBytes from room)
  have escaped : (projectEscapedContent content maxBytes).escaped =
      escapeXml (firstCharacters content count) := by
    rw [projectEscapedContent, characters, result]
    exact JsString.ext_units (by simp [JsString.empty, firstCharacters])
  rw [escaped]
  refine ⟨escapeXml_firstCharacters_ahead content count, ?_, count, rfl, fun other fits => ?_⟩
  · rw [byteLength_firstCharacters]
    simpa using within
  · by_cases fewer : other ≤ count
    · exact (escapeXml_firstCharacters_start content fewer).length_le
    · have complete : (charactersOf content.units).length ≤ count := by
        by_contra short
        have wide := full (by omega)
        have ordered : count + 1 ≤ other := by omega
        have front : (charactersOf content.units).take (count + 1) <+:
            (charactersOf content.units).take other := List.take_prefix_take_left ordered
        obtain ⟨later, together⟩ := front
        rw [byteLength_firstCharacters, ← together, List.map_append, List.sum_append] at fits
        omega
      rw [firstCharacters_all complete]
      exact (escapeXml_firstCharacters_ahead content other).length_le

/-! ## The metadata -/

/-- A hexadecimal digit is no angle bracket. -/
theorem isAngle_hexDigit {value : Nat} (small : value < 16) : isAngle (hexDigit value) = false := by
  have table : ∀ digit : Fin 16, isAngle (hexDigit digit.val) = false := by decide
  exact table ⟨value, small⟩

/-- The escape of a unit in JSON is an angle bracket only where the unit is. -/
theorem hasAngle_escapeUnit (point : UInt16) : hasAngle (escapeUnit point) = isAngle point := by
  unfold escapeUnit
  cases short : shortEscape point with
  | some letter =>
    unfold shortEscape at short
    split_ifs at short with h1 h2 h3 h4 h5 h6 h7 <;>
      (rw [Option.some.injEq] at short; subst short; subst point; decide)
  | none =>
    by_cases escaped : (point < 0x20 || JsString.isHigh point || JsString.isLow point) = true
    · have bound : point.toNat < 0x10000 := point.toNat_lt
      have high := isAngle_hexDigit (show point.toNat / 0x1000 < 16 by omega)
      have second := isAngle_hexDigit (show point.toNat / 0x100 % 0x10 < 16 by omega)
      have third := isAngle_hexDigit (show point.toNat / 0x10 % 0x10 < 16 by omega)
      have low := isAngle_hexDigit (show point.toNat % 0x10 < 16 by omega)
      have slash : isAngle (unit '\\') = false := by decide
      have letter : isAngle (unit 'u') = false := by decide
      have plain : isAngle point = false := by
        rw [Bool.eq_false_iff]
        intro angle
        simp only [isAngle, Bool.or_eq_true, beq_iff_eq] at angle
        rcases angle with rfl | rfl
        · revert escaped
          decide
        · revert escaped
          decide
      simp [escaped, hexEscape, high, second, third, low, slash, letter, plain]
    · simp [escaped]

/-- A text written as JSON holds the angle brackets of the text. -/
theorem hasAngle_quote (text : JsString) : hasAngle (quote text) = hasAngle text.units := by
  have quotes : isAngle (unit '"') = false := by decide
  have inner : hasAngle (quoteUnits text.units) = hasAngle text.units := by
    generalize text.units = units
    fun_induction quoteUnits units with
    | case1 => rfl
    | case2 single => simp [hasAngle_escapeUnit]
    | case3 first second rest pair hypothesis => simp [hypothesis]
    | case4 first second rest single hypothesis => simp [hasAngle_escapeUnit, hypothesis]
  simp [quote, quotes, inner]

mutual

/-- The texts inside a value, with the names of its fields. -/
def textsOf : JsonValue → List JsString
  | .string text => [text]
  | .array items => textsOfItems items
  | .object fields => textsOfFields fields
  | _ => []

/-- The texts inside items. -/
def textsOfItems : List JsonValue → List JsString
  | [] => []
  | item :: rest => textsOf item ++ textsOfItems rest

/-- The texts inside fields. -/
def textsOfFields : List (String × JsonValue) → List JsString
  | [] => []
  | (name, value) :: rest => js name :: textsOf value ++ textsOfFields rest

end

/-- A digit is no angle bracket. -/
theorem isAngle_digit {point : UInt16} (digit : isDigit point = true) : isAngle point = false := by
  rw [Bool.eq_false_iff]
  intro angle
  simp only [isAngle, Bool.or_eq_true, beq_iff_eq] at angle
  rcases angle with rfl | rfl
  · exact absurd digit (by decide)
  · exact absurd digit (by decide)

/-- An integer is written without angle brackets. -/
theorem hasAngle_decimal (value : Int) : hasAngle (decimal value).units = false := by
  rw [hasAngle_eq_false]
  intro point member
  obtain ⟨c, listed, written⟩ := List.mem_flatMap.mp member
  have digits (number : Nat) (found : c ∈ (Nat.repr number).toList) : c.isDigit = true := by
    simp only [Nat.toList_repr] at found
    exact Nat.isDigit_of_mem_toDigits (by decide) (by decide) found
  have plain : c.isDigit = true ∨ c = '-' := by
    cases value with
    | ofNat number => exact .inl (digits number listed)
    | negSucc number =>
      have parts : c ∈ ("-" ++ Nat.repr (number + 1)).toList := listed
      rw [String.toList_append] at parts
      rcases List.mem_append.mp parts with sign | digit
      · exact .inr (by simpa using sign)
      · exact .inl (digits (number + 1) digit)
  rcases plain with digit | rfl
  · have bounds := Char.isDigit_iff_toNat.mp digit
    have nine : '9'.toNat = 57 := rfl
    have small : c.toNat < 0x10000 := by omega
    rw [utf16Units, if_pos small] at written
    obtain rfl : point = unit c := List.mem_singleton.mp written
    exact isAngle_digit (toNat_unit_digit digit).2
  · have known : point = unit '-' := by simpa [utf16Units, unit] using written
    rw [known]
    decide

mutual

/-- A value is written as JSON with the angle brackets of its texts. -/
theorem hasAngle_write (value : JsonValue) :
    hasAngle value.write = (textsOf value).any fun text => hasAngle text.units := by
  cases value with
  | null => simp only [JsonValue.write, textsOf, List.any_nil]; decide
  | bool value =>
    simp only [JsonValue.write, textsOf, List.any_nil]
    cases value <;> decide
  | number value => simp [JsonValue.write, textsOf, hasAngle_decimal]
  | string text => simp [JsonValue.write, textsOf, hasAngle_quote]
  | array items =>
    have opening : isAngle (unit '[') = false := by decide
    have closing : isAngle (unit ']') = false := by decide
    simp [JsonValue.write, textsOf, opening, closing, hasAngle_writeItems items]
  | object fields =>
    have opening : isAngle (unit '{') = false := by decide
    have closing : isAngle (unit '}') = false := by decide
    simp [JsonValue.write, textsOf, opening, closing, hasAngle_writeFields fields]

/-- Items are written with the angle brackets of their texts. -/
theorem hasAngle_writeItems (items : List JsonValue) :
    hasAngle (JsonValue.writeItems items) =
      (textsOfItems items).any fun text => hasAngle text.units := by
  match items with
  | [] => rfl
  | [item] => simp [JsonValue.writeItems, textsOfItems, hasAngle_write item]
  | item :: next :: rest =>
    have comma : isAngle (unit ',') = false := by decide
    rw [JsonValue.writeItems, textsOfItems, hasAngle_append, hasAngle_cons, hasAngle_write item,
      hasAngle_writeItems (next :: rest), List.any_append, comma, Bool.false_or]
    simp

/-- Fields are written with the angle brackets of their names and texts. -/
theorem hasAngle_writeFields (fields : List (String × JsonValue)) :
    hasAngle (JsonValue.writeFields fields) =
      (textsOfFields fields).any fun text => hasAngle text.units := by
  match fields with
  | [] => rfl
  | [(name, value)] =>
    have colon : isAngle (unit ':') = false := by decide
    simp [JsonValue.writeFields, textsOfFields, hasAngle_quote, hasAngle_write value, colon]
  | (name, value) :: next :: rest =>
    have colon : isAngle (unit ':') = false := by decide
    have comma : isAngle (unit ',') = false := by decide
    rw [JsonValue.writeFields, textsOfFields]
    · simp [hasAngle_quote, hasAngle_write value, hasAngle_writeFields (next :: rest), colon, comma]
    · exact fun none => absurd none (List.cons_ne_nil _ _)

end

/-- A number in decimal holds no angle bracket. -/
theorem hasAngle_decimalValue {units : List UInt16} {value : Nat}
    (read : decimalValue units = some value) : hasAngle units = false := by
  unfold decimalValue at read
  split at read
  case isFalse => simp at read
  case isTrue digits =>
    rw [hasAngle_eq_false]
    exact fun point member => isAngle_digit (List.all_eq_true.mp digits point member)

/-- The fraction of a timestamp holds no angle bracket. -/
theorem hasAngle_fractionMillis {units : List UInt16} {value : Nat}
    (read : fractionMillis units = some value) : hasAngle units = false := by
  have zulu : isAngle (unit 'Z') = false := by decide
  have point : isAngle (unit '.') = false := by decide
  unfold fractionMillis at read
  split at read
  case h_1 => simp at read
  case h_2 first rest =>
    split_ifs at read with closing last dot
    · simp [closing, last, zulu]
    · split at read
      case h_1 => simp at read
      case h_2 found digits reversed =>
        split_ifs at read with ending
        obtain ⟨_, written, _⟩ := Option.bind_eq_some_iff.mp read
        have inner := hasAngle_decimalValue written
        have shape : rest = digits.reverse ++ [found] := by
          rw [← List.reverse_reverse rest, reversed, List.reverse_cons]
        simp [shape, dot, ending.1, inner, zulu, point]

/-- A timestamp holds no angle bracket. -/
theorem hasAngle_timestamp {text : JsString} (valid : isTimestamp text = true) :
    hasAngle text.units = false := by
  obtain ⟨instant, parsed⟩ := isTimestamp_iff.mp valid
  simp only [dateParse, Option.bind_eq_bind, Option.bind_eq_some_iff] at parsed
  obtain ⟨fields, found, _⟩ := parsed
  unfold timestampFields at found
  split at found
  case h_2 => simp at found
  case h_1 shape =>
    split_ifs at found with marks
    obtain ⟨rfl, rfl, rfl, rfl, rfl⟩ := marks
    simp only [Option.bind_eq_bind, Option.bind_eq_some_iff, Option.some.injEq] at found
    obtain ⟨_, year, _, month, _, day, _, hour, _, minute, _, second, _, fraction, _⟩ := found
    have plain := hasAngle_fractionMillis fraction
    have dash : isAngle (unit '-') = false := by decide
    have letter : isAngle (unit 'T') = false := by decide
    have colon : isAngle (unit ':') = false := by decide
    have parts := And.intro (hasAngle_decimalValue year) (And.intro (hasAngle_decimalValue month)
      (And.intro (hasAngle_decimalValue day) (And.intro (hasAngle_decimalValue hour)
        (And.intro (hasAngle_decimalValue minute) (hasAngle_decimalValue second)))))
    simp only [hasAngle_cons, hasAngle_nil, Bool.or_false, Bool.or_eq_false_iff] at parts
    simp [shape, plain, dash, letter, colon, parts]

/-- A digest holds no angle bracket. -/
theorem hasAngle_digest {text : JsString} (digest : isDigest text = true) :
    hasAngle text.units = false := by
  simp only [isDigest, Bool.and_eq_true, beq_iff_eq] at digest
  obtain ⟨⟨front, digits⟩, _⟩ := digest
  have name : hasAngle (js "sha256:").units = false := by decide
  have hex : hasAngle (text.units.drop 7) = false := by
    rw [hasAngle_eq_false]
    intro point member
    have listed := List.all_eq_true.mp digits point member
    rw [Bool.eq_false_iff]
    intro angle
    simp only [isAngle, Bool.or_eq_true, beq_iff_eq] at angle
    rcases angle with rfl | rfl
    · exact absurd listed (by decide)
    · exact absurd listed (by decide)
  rw [← List.take_append_drop 7 text.units, hasAngle_append, front, name, hex, Bool.or_false]

/-- The identifiers of a fragment. -/
def identifiersOf (spec : GovernedContextFragmentSpec) : List JsString :=
  [spec.fragmentId, spec.audience.bindingId, spec.audience.scopeId, spec.provenance.sourceId,
    spec.provenance.actorId]

/-- No identifier of a fragment holds an angle bracket. -/
def PlainIdentifiers (spec : GovernedContextFragmentSpec) : Prop :=
  ∀ identifier ∈ identifiersOf spec, hasAngle identifier.units = false

instance (spec : GovernedContextFragmentSpec) : Decidable (PlainIdentifiers spec) := by
  unfold PlainIdentifiers
  infer_instance

/-- The name of a value of an enumeration holds no angle bracket. -/
theorem hasAngle_names (spec : GovernedContextFragmentSpec) :
    hasAngle (js spec.audience.scopeKind.name).units = false ∧
      hasAngle (js spec.provenance.sourceKind.name).units = false ∧
      hasAngle (js spec.trust.name).units = false ∧
      hasAngle (js spec.sensitivity.name).units = false ∧
      hasAngle (js spec.purpose.name).units = false := by
  refine ⟨?_, ?_, ?_, ?_, ?_⟩
  · cases spec.audience.scopeKind <;> decide
  · cases spec.provenance.sourceKind <;> decide
  · cases spec.trust <;> decide
  · cases spec.sensitivity <;> decide
  · cases spec.purpose <;> decide

/-- The names of the fields of the metadata, and its version, hold no angle bracket. -/
theorem hasAngle_fieldNames : ∀ name ∈ ["schemaVersion", "crewon.governed-context-fragment.v0",
    "fragmentId", "audience", "bindingId", "scopeKind", "scopeId", "provenance", "sourceKind",
    "sourceId", "actorId", "trust", "sensitivity", "purpose", "budget", "tokenCap", "freshness",
    "observedAt", "expiresAt", "estimatedTokens", "contentDigest", "sourceDigest",
    "truncatedFromTokens"], hasAngle (js name).units = false := by
  decide

/-- The metadata of a fragment holds the angle brackets of its identifiers. -/
theorem hasAngle_metadata {spec : GovernedContextFragmentSpec} {projection : EscapedContent}
    {contentDigest sourceDigest : JsString}
    (observed : isTimestamp spec.freshness.observedAt = true)
    (expires : ∀ expiresAt ∈ spec.freshness.expiresAt, isTimestamp expiresAt = true)
    (contentIs : isDigest contentDigest = true) (sourceIs : isDigest sourceDigest = true) :
    hasAngle (fragmentMetadata spec projection contentDigest sourceDigest).write = false ↔
      PlainIdentifiers spec := by
  have names := hasAngle_names spec
  have fields := hasAngle_fieldNames
  simp only [List.forall_mem_cons] at fields
  have expiry : (textsOf (.ofOption .string spec.freshness.expiresAt)).any
      (fun text => hasAngle text.units) = false := by
    cases present : spec.freshness.expiresAt with
    | none => rfl
    | some expiresAt =>
      have plain := hasAngle_timestamp (expires expiresAt present)
      simp [JsonValue.ofOption, textsOf, plain]
  have truncated : textsOf (if projection.content = spec.content then .null
      else .number (estimateTokens spec.content)) = [] := by
    split <;> rfl
  have observedPlain := hasAngle_timestamp observed
  have contentPlain := hasAngle_digest contentIs
  have sourcePlain := hasAngle_digest sourceIs
  rw [hasAngle_write]
  simp only [fragmentMetadata, textsOf, textsOfFields, List.cons_append, List.nil_append,
    List.append_nil, List.any_cons, List.any_append, List.any_nil, fields, names, expiry, truncated,
    observedPlain, contentPlain, sourcePlain, Bool.false_or, Bool.or_false]
  simp only [PlainIdentifiers, identifiersOf, List.forall_mem_cons, Bool.or_eq_false_iff,
    List.not_mem_nil, IsEmpty.forall_iff, implies_true, and_true]

/-! ## The frame -/

/-- A frame holds the eight angle brackets of its tags and those of its parts. -/
theorem countP_frame (metadata escaped : List UInt16) :
    (frame metadata escaped).units.countP isAngle =
      8 + metadata.countP isAngle + escaped.countP isAngle := by
  have feed : isAngle (unit '\n') = false := by decide
  have opening : (js "<crewon_governed_context>").units.countP isAngle = 2 := by decide
  have content : (js "<content>").units.countP isAngle = 2 := by decide
  have ending : (js "</content>").units.countP isAngle = 2 := by decide
  have closing : (js "</crewon_governed_context>").units.countP isAngle = 2 := by decide
  simp only [frame, joinLines, List.countP_append, List.countP_cons, feed, opening, content, ending,
    closing]
  simp only [Bool.false_eq_true, ↓reduceIte]
  omega

/-- A list without angle brackets counts none. -/
theorem countP_isAngle_eq_zero {units : List UInt16} :
    units.countP isAngle = 0 ↔ hasAngle units = false := by
  rw [List.countP_eq_zero, hasAngle_eq_false]
  simp

/-- The only angle brackets of an item are those of the tags of its frame, and the frame holds the
longest part of the escaped content that fits the cap of the fragment. -/
def Framed (spec : GovernedContextFragmentSpec) (item : ContextHistoryItem) : Prop :=
  ∃ metadata : List UInt16, ∃ escaped : JsString,
    item = .message (fragmentRole spec) (frame metadata escaped.units) ∧
      hasAngle metadata = false ∧ hasAngle escaped.units = false ∧
      LongestFitting spec.content spec.tokenCap escaped

/-- The angle brackets of an item. -/
def itemAngles : ContextHistoryItem → Nat
  | .message _ content => content.units.countP isAngle
  | _ => 0

/-- A framed item holds the eight angle brackets of the tags. -/
theorem Framed.angles {spec : GovernedContextFragmentSpec} {item : ContextHistoryItem}
    (framed : Framed spec item) : itemAngles item = 8 := by
  obtain ⟨metadata, escaped, rfl, plain, clean, _⟩ := framed
  rw [itemAngles, countP_frame, countP_isAngle_eq_zero.mpr plain, countP_isAngle_eq_zero.mpr clean]

/-- The bytes of the text of an item. -/
def itemBytes : ContextHistoryItem → Nat
  | .message _ content => content.byteLength
  | _ => 0

/-- Every item of a bundle is the frame of its fragment and of nothing else, and the bytes of all
items stay within the limit. -/
structure Unbroken (fragments : List GovernedContextFragmentSpec) (bundle : GovernedContextBundle) :
    Prop where
  framed : List.Forall₂ Framed fragments bundle.items
  total : bundle.byteLength = (bundle.items.map itemBytes).sum
  bounded : bundle.byteLength ≤ maxBundleBytes

/-- What the checks of a fragment ask of it. -/
theorem validateFragmentSpec_eq_ok {spec : GovernedContextFragmentSpec}
    {audience : GovernedContextAudience} {fragmentIds : List JsString}
    (valid : validateFragmentSpec spec audience fragmentIds = .ok ()) :
    isTimestamp spec.freshness.observedAt = true ∧
      (∀ expiresAt ∈ spec.freshness.expiresAt, isTimestamp expiresAt = true) ∧
      1 ≤ spec.tokenCap := by
  simp only [validateFragmentSpec, requireGovernedTimestamp, bind_eq_ok, exists_unit,
    rejectIf_eq_ok, whenPresent_eq_ok, not_or, Bool.not_eq_false] at valid
  obtain ⟨_, _, _, _, _, _, _, _, cap, observed, expires, _⟩ := valid
  exact ⟨observed.1, fun expiresAt present => (expires expiresAt present).1.1, by omega⟩

section Building

-- the digest of a text, as the caller computes it
variable {sha256 : JsString → JsString}

/-- The item of a checked fragment is its frame and nothing else exactly when no identifier of the
fragment holds an angle bracket. -/
theorem framed_iff {spec : GovernedContextFragmentSpec} {audience : GovernedContextAudience}
    {fragmentIds : List JsString} {content : JsString}
    (valid : validateFragmentSpec spec audience fragmentIds = .ok ())
    (built : fragmentContent sha256 spec = .ok content) :
    Framed spec (.message (fragmentRole spec) content) ↔ PlainIdentifiers spec := by
  obtain ⟨observed, expires, cap⟩ := validateFragmentSpec_eq_ok valid
  simp only [fragmentContent, requireGovernedDigest, bind_eq_ok, exists_unit, rejectIf_eq_ok,
    pure_eq_ok, Bool.not_eq_false] at built
  obtain ⟨contentDigest, ⟨contentIs, rfl⟩, sourceDigest, ⟨sourceIs, rfl⟩, rfl⟩ := built
  have clean := hasAngle_escapeXml (projectEscapedContent spec.content spec.tokenCap).content
  have longest := projectEscapedContent_longest spec.content (show 0 ≤ spec.tokenCap by omega)
  have metadata : hasAngle (fragmentMetadata spec (projectEscapedContent spec.content spec.tokenCap)
      (sha256 (projectEscapedContent spec.content spec.tokenCap).content)
      (sha256 spec.content)).write = false ↔ PlainIdentifiers spec :=
    hasAngle_metadata observed expires contentIs sourceIs
  have escaped :
      hasAngle (projectEscapedContent spec.content spec.tokenCap).escaped.units = false := by
    obtain ⟨_, _, count, written, _⟩ := longest
    rw [written]
    exact hasAngle_escapeXml _
  rw [← metadata]
  constructor
  · intro framed
    have eight := framed.angles
    rw [itemAngles, countP_frame, countP_isAngle_eq_zero.mpr escaped] at eight
    rw [← countP_isAngle_eq_zero]
    omega
  · exact fun plain => ⟨_, _, rfl, plain, escaped, longest⟩

/-- What is built of fragments: an item for each, framed exactly when the identifiers hold no angle
bracket, and the bytes of all of them, which the limit bounds. -/
theorem buildItems_eq_ok {audience : GovernedContextAudience}
    {fragments : List GovernedContextFragmentSpec} {fragmentIds : List JsString} {bytes total : Nat}
    {items : List ContextHistoryItem}
    (built : buildItems sha256 audience fragmentIds bytes fragments = .ok (items, total)) :
    (List.Forall₂ Framed fragments items ↔ ∀ spec ∈ fragments, PlainIdentifiers spec) ∧
      total = bytes + (items.map itemBytes).sum ∧
      (bytes ≤ maxBundleBytes → total ≤ maxBundleBytes) := by
  induction fragments generalizing fragmentIds bytes total items with
  | nil =>
    obtain ⟨rfl, rfl⟩ : [] = items ∧ bytes = total := by simpa [buildItems] using built
    simp
  | cons spec rest hypothesis =>
    simp only [buildItems, bind_eq_ok, exists_unit, rejectIf_eq_ok, pure_eq_ok, Nat.not_lt] at built
    obtain ⟨valid, content, written, small, ⟨later, sum⟩, continued, same⟩ := built
    obtain ⟨rfl, rfl⟩ := Prod.mk.inj same
    obtain ⟨framed, added, bounded⟩ := hypothesis continued
    refine ⟨?_, ?_, fun _ => bounded small⟩
    · rw [List.forall₂_cons, framed, framed_iff valid written, List.forall_mem_cons]
    · rw [List.map_cons, List.sum_cons, added]
      exact Nat.add_assoc _ _ _

/-- In every bundle that is built, the frames are unbroken exactly when no identifier of a fragment
holds an angle bracket. -/
theorem bundle_unbroken_iff {audience : GovernedContextAudience}
    {fragments : List GovernedContextFragmentSpec} {bundle : GovernedContextBundle}
    (built : GovernedContextBundle.build sha256 audience fragments = .ok bundle) :
    Unbroken fragments bundle ↔ ∀ spec ∈ fragments, PlainIdentifiers spec := by
  simp only [GovernedContextBundle.build, bind_eq_ok, exists_unit, rejectIf_eq_ok, pure_eq_ok]
    at built
  obtain ⟨_, _, ⟨items, total⟩, written, rfl⟩ := built
  obtain ⟨framed, sum, bounded⟩ := buildItems_eq_ok written
  rw [← framed]
  constructor
  · exact fun unbroken => unbroken.framed
  · intro items
    exact ⟨items, by simpa using sum, bounded (Nat.zero_le _)⟩

end Building

/-- The audience of the samples. -/
def sampleAudience : GovernedContextAudience := ⟨js "binding", .single, js "scope"⟩

/-- A fragment from a web page with an identifier and a content. -/
def sampleFragment (sourceId content : String) : GovernedContextFragmentSpec where
  fragmentId := js "fragment"
  audience := sampleAudience
  provenance := ⟨.web, js sourceId, js "actor"⟩
  trust := .untrustedData
  sensitivity := .publicData
  purpose := .reference
  tokenCap := 8
  freshness := ⟨js "2026-07-01T00:00:00.000Z", none⟩
  content := js content

/-- The bundle of one fragment. -/
def sampleBundle (sourceId content : String) : Checked GovernedContextBundle :=
  GovernedContextBundle.build (fun _ => uniformDigest 'a') sampleAudience
    [sampleFragment sourceId content]

/-- The angle brackets of the items of a bundle. -/
def bundleAngles : Checked GovernedContextBundle → List Nat
  | .ok bundle => bundle.items.map itemAngles
  | .error _ => []

/-- A fragment with plain identifiers and a content that is cut is accepted. So is a fragment whose
source names a tag, and its item holds two angle brackets more than the tags. -/
theorem sampleBundle_evaluated : (sampleBundle "page" "a<b>c").isOk = true ∧
    bundleAngles (sampleBundle "</content>" "a") = [10] := by
  decide +kernel

/-- The frame around a content with angle brackets is unbroken. -/
theorem bundle_unbroken_sample : ∃ bundle, sampleBundle "page" "a<b>c" = .ok bundle ∧
    Unbroken [sampleFragment "page" "a<b>c"] bundle := by
  obtain ⟨bundle, built⟩ := exists_of_isOk sampleBundle_evaluated.1
  exact ⟨bundle, built, (bundle_unbroken_iff built).mpr (by decide)⟩

/-- A source whose identifier is a tag closes the content inside the metadata. -/
theorem identifier_breaks_frame : ¬ ∀ (sha256 : JsString → JsString)
    (audience : GovernedContextAudience) (fragments : List GovernedContextFragmentSpec)
    (bundle : GovernedContextBundle),
    GovernedContextBundle.build sha256 audience fragments = .ok bundle →
      Unbroken fragments bundle := by
  intro claim
  have counted := sampleBundle_evaluated.2
  cases built : sampleBundle "</content>" "a" with
  | error failure => simp [built, bundleAngles] at counted
  | ok bundle =>
    have framed := (claim _ _ _ bundle built).framed
    rw [built, bundleAngles] at counted
    obtain ⟨item, single, ten⟩ := List.map_eq_singleton_iff.mp counted
    rw [single, List.forall₂_cons] at framed
    exact absurd (framed.1.angles.symm.trans ten) (by decide)

end Crewon.Verif.GovernedContext
