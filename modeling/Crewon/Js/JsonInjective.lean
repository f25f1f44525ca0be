import Crewon.Js.JsonForm
import Crewon.Js.StableJson

/-!
# Equal JSON texts have equal values

A value with plain field names is read back from its JSON text: it is a value of JSON whose numbers
are written in decimal, and a decimal number and a literal name are read back from their texts.
-/

namespace Crewon.Js

open JsonForm

/-- The code points of a character and what follows it. -/
theorem pointsOf_utf16Units (c : Char) (rest : List UInt16) :
    JsString.pointsOf (utf16Units c.toNat ++ rest) = c.toNat :: JsString.pointsOf rest := by
  have scalar := c.valid
  have valid : c.toNat < 0xD800 ∨ (0xDFFF < c.toNat ∧ c.toNat < 0x110000) := scalar
  unfold utf16Units
  split
  · next small =>
    have code : (UInt16.ofNat c.toNat).toNat = c.toNat := by
      simp only [UInt16.toNat_ofNat']
      omega
    have plain : JsString.isHigh (UInt16.ofNat c.toNat) = false := by
      simp only [JsString.isHigh, Bool.and_eq_false_iff, decide_eq_false_iff_not,
        UInt16.le_iff_toNat_le, UInt16.lt_iff_toNat_lt, code, UInt16.reduceToNat]
      omega
    cases rest with
    | nil => simp [JsString.pointsOf, code]
    | cons next others => simp [JsString.pointsOf, plain, code]
  · next large =>
    have high : (UInt16.ofNat (0xD800 + (c.toNat - 0x10000) / 0x400)).toNat =
        0xD800 + (c.toNat - 0x10000) / 0x400 := by
      simp only [UInt16.toNat_ofNat']
      omega
    have low : (UInt16.ofNat (0xDC00 + (c.toNat - 0x10000) % 0x400)).toNat =
        0xDC00 + (c.toNat - 0x10000) % 0x400 := by
      simp only [UInt16.toNat_ofNat']
      omega
    have isHigh : JsString.isHigh (UInt16.ofNat (0xD800 + (c.toNat - 0x10000) / 0x400)) =
        true := by
      simp only [JsString.isHigh, Bool.and_eq_true, decide_eq_true_eq, UInt16.le_iff_toNat_le,
        UInt16.lt_iff_toNat_lt, high, UInt16.reduceToNat]
      omega
    have isLow : JsString.isLow (UInt16.ofNat (0xDC00 + (c.toNat - 0x10000) % 0x400)) =
        true := by
      simp only [JsString.isLow, Bool.and_eq_true, decide_eq_true_eq, UInt16.le_iff_toNat_le,
        UInt16.lt_iff_toNat_lt, low, UInt16.reduceToNat]
      omega
    simp only [List.cons_append, List.nil_append, JsString.pointsOf, isHigh, isLow, Bool.and_self,
      if_true, high, low, List.cons.injEq, and_true]
    omega

/-- The code points of a literal text are its characters. -/
theorem codePoints_js (text : String) : (js text).codePoints = text.toList.map Char.toNat := by
  rw [js, JsString.codePoints]
  induction text.toList with
  | nil => rfl
  | cons c rest hypothesis =>
    rw [List.flatMap_cons, pointsOf_utf16Units, hypothesis, List.map_cons]

/-- A literal text has no lone surrogate. -/
theorem whole_js (text : String) : (js text).hasLoneSurrogate = false := by
  rw [JsString.hasLoneSurrogate, codePoints_js, List.any_eq_false]
  intro point member
  obtain ⟨c, _, rfl⟩ := List.mem_map.mp member
  have scalar : c.toNat < 0xD800 ∨ (0xDFFF < c.toNat ∧ c.toNat < 0x110000) := c.valid
  simp only [Bool.and_eq_true, decide_eq_true_eq]
  omega

/-- The bytes of a literal text. -/
theorem byteLength_js (text : String) : (js text).byteLength = text.utf8ByteSize := by
  have width (c : Char) : JsString.utf8Width c.toNat = c.utf8Size := by
    simp only [JsString.utf8Width, Char.utf8Size, UInt32.le_iff_toNat_le, ← Char.toNat_val]
    grind
  rw [JsString.byteLength, codePoints_js, List.map_map]
  obtain ⟨chars, rfl⟩ : ∃ chars, text = String.ofList chars := ⟨_, String.ofList_toList.symm⟩
  rw [String.toList_ofList]
  induction chars with
  | nil => rfl
  | cons c rest hypothesis =>
    have split : String.ofList (c :: rest) = String.singleton c ++ String.ofList rest := by
      rw [String.singleton_eq_ofList, ← String.ofList_append, List.singleton_append]
    rw [split, String.utf8ByteSize_append, String.utf8ByteSize_singleton, List.map_cons,
      List.sum_cons, hypothesis, Function.comp_apply, width]

/-- A literal text begins with its first character. -/
theorem head_ofList {first : Char} {rest : List Char} (small : first.toNat < 0x10000) :
    (js (String.ofList (first :: rest))).units.head? = some (unit first) := by
  unfold js
  rw [String.toList_ofList, List.flatMap_cons]
  dsimp only
  rw [utf16Units, if_pos small]
  rfl

/-- Literal texts with the same units are the same. -/
theorem js_inj {left right : String} (same : js left = js right) : left = right := by
  have points := congrArg JsString.codePoints same
  rw [codePoints_js, codePoints_js] at points
  have chars : left.toList = right.toList := by
    refine List.map_injective_iff.mpr ?_ points
    intro first second equal
    exact Char.ext (UInt32.toNat_inj.mp equal)
  exact String.toList_inj.mp chars

/-- The unit of a digit is a numeral. -/
theorem numeral_of_isDigit {c : Char} (decimal : c.isDigit = true) :
    ∀ point ∈ utf16Units c.toNat, isNumeral point = true := by
  have bounds : 48 ≤ c.toNat ∧ c.toNat ≤ 57 := by
    simp only [Char.isDigit, Bool.and_eq_true, decide_eq_true_eq] at decimal
    exact decimal
  intro point member
  rw [utf16Units, if_pos (by omega), List.mem_singleton] at member
  have code : point.toNat = c.toNat := by
    rw [member, UInt16.toNat_ofNat']
    omega
  simp only [isNumeral, isDigit, Bool.or_eq_true, Bool.and_eq_true, decide_eq_true_eq,
    UInt16.le_iff_toNat_le, code]
  exact .inl (.inl (.inl (.inl bounds)))

/-- The characters of a decimal number are numerals. -/
theorem numeral_of_mem_decimal {value : Int} :
    ∀ point ∈ (decimal value).units, isNumeral point = true := by
  have natural (number : Nat) : ∀ c ∈ (toString number).toList,
      ∀ point ∈ utf16Units c.toNat, isNumeral point = true := by
    intro c member
    have listed : c ∈ Nat.toDigits 10 number := by simpa using member
    exact numeral_of_isDigit (Nat.isDigit_of_mem_toDigits (by decide) (by decide) listed)
  intro point member
  obtain ⟨c, written, inside⟩ := List.mem_flatMap.mp member
  cases value with
  | ofNat number => exact natural number c written point inside
  | negSucc number =>
    have signed : c = '-' ∨ c ∈ (toString (number + 1)).toList := by
      have spelled : toString (Int.negSucc number) = "-" ++ toString (number + 1) := rfl
      rw [spelled, String.toList_append, List.mem_append] at written
      rcases written with sign | digits
      · exact .inl (by simpa using sign)
      · exact .inr digits
    rcases signed with rfl | digits
    · have sign : point ∈ [unit '-'] := inside
      rw [List.mem_singleton.mp sign]
      decide
    · exact natural _ c digits point inside

/-- Natural numbers with the same digits are the same. -/
theorem toDigits_inj {left right : Nat} (same : Nat.toDigits 10 left = Nat.toDigits 10 right) :
    left = right := by
  have read := congrArg (fun digits => Nat.ofDigitChars 10 digits 0) same
  simpa only [Nat.ofDigitChars_ten_toDigits] using read

/-- A natural number is not written with a sign. -/
theorem toDigits_ne_sign {number : Nat} {digits : List Char} :
    Nat.toDigits 10 number ≠ '-' :: digits := by
  intro same
  have sign : '-' ∈ Nat.toDigits 10 number := by simp [same]
  have digit := Nat.isDigit_of_mem_toDigits (by decide) (by decide) sign
  revert digit
  decide

/-- Decimal numbers with the same units are the same. -/
theorem decimal_inj {left right : Int} (same : decimal left = decimal right) : left = right := by
  have chars : (toString left).toList = (toString right).toList :=
    congrArg String.toList (js_inj same)
  have natural (number : Nat) : (toString (Int.ofNat number)).toList = Nat.toDigits 10 number := by
    have spelled : toString (Int.ofNat number) = Nat.repr number := rfl
    rw [spelled]
    simp
  have signed (number : Nat) :
      (toString (Int.negSucc number)).toList = '-' :: Nat.toDigits 10 (number + 1) := by
    have spelled : toString (Int.negSucc number) = "-" ++ Nat.repr (number + 1) := rfl
    rw [spelled, String.toList_append]
    simp
  cases left with
  | ofNat first =>
    cases right with
    | ofNat second =>
      rw [natural, natural] at chars
      rw [toDigits_inj chars]
    | negSucc second =>
      rw [natural, signed] at chars
      exact absurd chars toDigits_ne_sign
  | negSucc first =>
    cases right with
    | ofNat second =>
      rw [natural, signed] at chars
      exact absurd chars.symm toDigits_ne_sign
    | negSucc second =>
      rw [signed, signed] at chars
      have number := toDigits_inj (List.cons.inj chars).2
      rw [Nat.succ.inj number]

/-- A decimal number has a character. -/
theorem decimal_ne_nil (value : Int) : (decimal value).units ≠ [] := by
  intro units
  have nothing : decimal value = js "" := JsString.ext_units units
  have empty : toString value = "" := js_inj nothing
  cases value with
  | ofNat number =>
    have digits := congrArg String.toList empty
    have spelled : (toString (Int.ofNat number)).toList = Nat.toDigits 10 number := by
      have repr : toString (Int.ofNat number) = Nat.repr number := rfl
      rw [repr]
      simp
    rw [spelled] at digits
    exact absurd digits Nat.toDigits_ne_nil
  | negSucc number =>
    have spelled : toString (Int.negSucc number) = "-" ++ Nat.repr (number + 1) := rfl
    rw [spelled] at empty
    have chars := congrArg String.toList empty
    simp at chars

/-- Decimal numbers and literal names are read back. -/
theorem readable_decimal :
    Readable (fun value : Int => (decimal value).units) js (fun value : Int => value) where
  written := decimal_ne_nil
  numerals _ := numeral_of_mem_decimal
  tells _ _ same := decimal_inj (JsString.ext_units same)
  names _ _ := js_inj

mutual

/-- The value as one of JSON. -/
def JsonValue.toForm : JsonValue → JsonForm Int String
  | .null => .null
  | .bool value => .bool value
  | .number value => .number value
  | .string value => .string value
  | .array items => .array (JsonValue.itemForms items)
  | .object fields => .object (JsonValue.fieldForms fields)

/-- The items as values of JSON. -/
def JsonValue.itemForms : List JsonValue → List (JsonForm Int String)
  | [] => []
  | item :: rest => item.toForm :: JsonValue.itemForms rest

/-- The fields as fields of JSON. -/
def JsonValue.fieldForms : List (String × JsonValue) → List (String × JsonForm Int String)
  | [] => []
  | (name, value) :: rest => (name, value.toForm) :: JsonValue.fieldForms rest

end

mutual

/-- The text of a value is that of it as one of JSON. -/
theorem JsonValue.write_toForm : ∀ value : JsonValue,
    JsonForm.write (fun value : Int => (decimal value).units) js value.toForm = value.write
  | .null | .bool _ | .number _ | .string _ => rfl
  | .array items => by
    rw [JsonValue.toForm, JsonForm.write, JsonValue.write, JsonValue.writeItems_itemForms items]
  | .object fields => by
    rw [JsonValue.toForm, JsonForm.write, JsonValue.write, JsonValue.writeFields_fieldForms fields]

/-- The text of items is that of them as values of JSON. -/
theorem JsonValue.writeItems_itemForms : ∀ items : List JsonValue,
    JsonForm.writeItems (fun value : Int => (decimal value).units) js
      (JsonValue.itemForms items) = JsonValue.writeItems items
  | [] => rfl
  | [item] => JsonValue.write_toForm item
  | item :: next :: rest => by
    have others := JsonValue.writeItems_itemForms (next :: rest)
    rw [JsonValue.itemForms] at others
    rw [JsonValue.itemForms, JsonValue.itemForms, JsonForm.writeItems, JsonValue.writeItems,
      JsonValue.write_toForm item, others]
    · exact nofun
    · exact nofun

/-- The text of fields is that of them as fields of JSON. -/
theorem JsonValue.writeFields_fieldForms : ∀ fields : List (String × JsonValue),
    JsonForm.writeFields (fun value : Int => (decimal value).units) js
      (JsonValue.fieldForms fields) = JsonValue.writeFields fields
  | [] => rfl
  | [(name, value)] => by
    rw [JsonValue.fieldForms, JsonValue.fieldForms, JsonForm.writeFields, JsonValue.writeFields,
      JsonValue.write_toForm value]
  | (name, value) :: next :: rest => by
    have others := JsonValue.writeFields_fieldForms (next :: rest)
    rw [JsonValue.fieldForms] at others
    rw [JsonValue.fieldForms, JsonValue.fieldForms, JsonForm.writeFields, JsonValue.writeFields,
      JsonValue.write_toForm value, others]
    · exact nofun
    · exact nofun

end

mutual

/-- Values that are the same as values of JSON are the same. -/
theorem JsonValue.toForm_inj : ∀ left right : JsonValue,
    left.toForm.mapNumber (fun value : Int => value) =
      right.toForm.mapNumber (fun value : Int => value) → left = right
  | .null, right => by cases right <;> simp [JsonValue.toForm, mapNumber]
  | .bool left, right => by cases right <;> simp [JsonValue.toForm, mapNumber]
  | .number left, right => by cases right <;> simp [JsonValue.toForm, mapNumber]
  | .string left, right => by cases right <;> simp [JsonValue.toForm, mapNumber]
  | .array left, right => by
    cases right with
    | array right => simpa [JsonValue.toForm, mapNumber] using JsonValue.itemForms_inj left right
    | null | bool | number | string | object => simp [JsonValue.toForm, mapNumber]
  | .object left, right => by
    cases right with
    | object right => simpa [JsonValue.toForm, mapNumber] using JsonValue.fieldForms_inj left right
    | null | bool | number | string | array => simp [JsonValue.toForm, mapNumber]

/-- Items that are the same as values of JSON are the same. -/
theorem JsonValue.itemForms_inj : ∀ left right : List JsonValue,
    mapItems (fun value : Int => value) (JsonValue.itemForms left) =
      mapItems (fun value : Int => value) (JsonValue.itemForms right) → left = right
  | [], right => by cases right <;> simp [JsonValue.itemForms, mapItems]
  | left :: lefts, right => by
    cases right with
    | nil => simp [JsonValue.itemForms, mapItems]
    | cons right rights =>
      simp only [JsonValue.itemForms, mapItems, List.cons.injEq]
      rintro ⟨item, items⟩
      exact ⟨JsonValue.toForm_inj left right item, JsonValue.itemForms_inj lefts rights items⟩

/-- Fields that are the same as fields of JSON are the same. -/
theorem JsonValue.fieldForms_inj : ∀ left right : List (String × JsonValue),
    mapFields (fun value : Int => value) (JsonValue.fieldForms left) =
      mapFields (fun value : Int => value) (JsonValue.fieldForms right) → left = right
  | [], right => by cases right <;> simp [JsonValue.fieldForms, mapFields]
  | (name, left) :: lefts, right => by
    cases right with
    | nil => simp [JsonValue.fieldForms, mapFields]
    | cons field rights =>
      obtain ⟨other, right⟩ := field
      simp only [JsonValue.fieldForms, mapFields, List.cons.injEq, Prod.mk.injEq]
      rintro ⟨⟨names, value⟩, fields⟩
      exact ⟨⟨names, JsonValue.toForm_inj left right value⟩,
        JsonValue.fieldForms_inj lefts rights fields⟩

end

/-- Values with the same text are the same. -/
theorem JsonValue.write_inj {left right : JsonValue} (same : left.write = right.write) :
    left = right := by
  rw [← JsonValue.write_toForm left, ← JsonValue.write_toForm right] at same
  exact JsonValue.toForm_inj left right (JsonForm.write_inj readable_decimal same)

/-- A digest separates the texts that are written as JSON. -/
def SeparatesJson (digest : JsString → JsString) : Prop :=
  ∀ left right : JsonValue, digest ⟨left.write⟩ = digest ⟨right.write⟩ → left.write = right.write

/-- Values with the same digest are the same. -/
theorem SeparatesJson.inj {digest : JsString → JsString} (separates : SeparatesJson digest)
    {left right : JsonValue} (same : digest ⟨left.write⟩ = digest ⟨right.write⟩) : left = right :=
  JsonValue.write_inj (separates left right same)

/-- The fields of a record with their own fields sorted. -/
theorem stabilizeFields_eq_map (fields : List (String × JsonValue)) :
    JsonValue.stabilizeFields fields = fields.map fun field => (field.1, field.2.stabilize) := by
  induction fields with
  | nil => rfl
  | cons field rest hypothesis =>
    obtain ⟨name, value⟩ := field
    rw [JsonValue.stabilizeFields, hypothesis, List.map_cons]

/-- A field of a record is one of every record that is the same up to the order of fields. -/
theorem field_of_stabilize {left right : List (String × JsonValue)} {name : String}
    {value : JsonValue}
    (same : (JsonValue.object left).stabilize = (JsonValue.object right).stabilize)
    (member : (name, value) ∈ left) :
    ∃ other, (name, other) ∈ right ∧ other.stabilize = value.stabilize := by
  simp only [JsonValue.stabilize, JsonValue.object.injEq] at same
  have listed : (name, value.stabilize) ∈ JsonValue.stabilizeFields left := by
    rw [stabilizeFields_eq_map]
    exact List.mem_map_of_mem member
  have sorted : (name, value.stabilize) ∈ (JsonValue.stabilizeFields left).mergeSort
      fun left right => !JsString.before (js right.1) (js left.1) := List.mem_mergeSort.mpr listed
  rw [same, List.mem_mergeSort, stabilizeFields_eq_map] at sorted
  obtain ⟨⟨found, other⟩, held, equal⟩ := List.mem_map.mp sorted
  obtain ⟨rfl, stable⟩ := Prod.mk.inj equal
  exact ⟨other, held, stable⟩

/-- Fields with the same distinct names have related values in order when each value is related to
one under its name. -/
theorem forall₂_of_names (related : JsonValue → JsonValue → Prop)
    {left right : List (String × JsonValue)} (names : left.map Prod.fst = right.map Prod.fst)
    (distinct : (right.map Prod.fst).Nodup)
    (found : ∀ name value, (name, value) ∈ left → ∃ other, (name, other) ∈ right ∧
      related value other) :
    List.Forall₂ (fun first second => related first.2 second.2) left right := by
  induction left generalizing right with
  | nil =>
    obtain rfl := List.map_eq_nil_iff.mp names.symm
    exact .nil
  | cons first rest hypothesis =>
    obtain ⟨name, value⟩ := first
    cases right with
    | nil => cases names
    | cons second others =>
      obtain ⟨other, behind⟩ := second
      simp only [List.map_cons, List.cons.injEq, List.nodup_cons] at names distinct
      obtain ⟨rfl, names⟩ := names
      have absent (item : JsonValue) : (name, item) ∉ others := fun member =>
        distinct.1 (List.mem_map.mpr ⟨_, member, rfl⟩)
      refine .cons ?_ (hypothesis names distinct.2 ?_)
      · obtain ⟨item, member, same⟩ := found name value List.mem_cons_self
        rcases List.mem_cons.mp member with here | there
        · exact (Prod.mk.inj here).2 ▸ same
        · exact absurd there (absent item)
      · intro field item listed
        obtain ⟨found, member, same⟩ := found field item (List.mem_cons_of_mem _ listed)
        rcases List.mem_cons.mp member with here | there
        · -- the name of a later field is not the first one
          have later : field ∈ others.map Prod.fst := by
            rw [← names]
            exact List.mem_map.mpr ⟨_, listed, rfl⟩
          rw [(Prod.mk.inj here).1] at later
          exact absurd later distinct.1
        · exact ⟨found, there, same⟩

/-- Records with the same names in the same order that are the same up to the order of fields have
the same values. -/
theorem values_of_stabilize {left right : List (String × JsonValue)}
    (same : (JsonValue.object left).stabilize = (JsonValue.object right).stabilize)
    (names : left.map Prod.fst = right.map Prod.fst) (distinct : (right.map Prod.fst).Nodup) :
    List.Forall₂ (fun first second => first.2.stabilize = second.2.stabilize) left right := by
  refine forall₂_of_names (fun value other => value.stabilize = other.stabilize) names distinct ?_
  intro name value member
  obtain ⟨other, listed, stable⟩ := field_of_stabilize same member
  exact ⟨other, listed, stable.symm⟩

end Crewon.Js
