import Crewon.Domain.ExtensionJson
import Crewon.Js.JsonInjective
import Crewon.Js.JsonSize
import Mathlib.Algebra.Order.BigOperators.Group.List

/-!
# Values within the bounds

How many nodes, bytes of text and bytes of JSON a value has at most. A value whose extent is within
the limits is copied.
-/

namespace Crewon.Verif.ExtensionJson

open Crewon.Js Crewon.Checked Crewon.Domain

/-- What a value takes at most. -/
structure JsonExtent where
  nodes : Nat
  textBytes : Nat
  size : Nat

/-- The sum of what values take. -/
def JsonExtent.sum (extents : List JsonExtent) : JsonExtent :=
  ⟨(extents.map JsonExtent.nodes).sum, (extents.map JsonExtent.textBytes).sum,
    (extents.map JsonExtent.size).sum⟩

/-- A part of a value is visited within its extent. -/
def Visits (height : Nat) (extent : JsonExtent)
    (visit : Nat → Nat → JsonVisit → Checked JsonVisit) : Prop :=
  ∀ maxBytes depth before, depth + height ≤ 24 → before.nodes + extent.nodes ≤ 8192 →
    before.textBytes + extent.textBytes ≤ maxBytes →
      ∃ after, visit maxBytes depth before = .ok after ∧
        after.nodes ≤ before.nodes + extent.nodes ∧
          after.textBytes ≤ before.textBytes + extent.textBytes

/-- A value takes at most its extent. -/
structure Fits (height : Nat) (extent : JsonExtent) (value : JsonValue) : Prop where
  size : value.stabilize.encodedSize ≤ extent.size
  visits : Visits height extent fun maxBytes depth => visitJson maxBytes depth value.stabilize

/-- A field takes at most its extent, its name included. -/
structure FieldFits (height : Nat) (extent : JsonExtent) (field : String × JsonValue) : Prop where
  size : field.1.length + 3 + field.2.stabilize.encodedSize ≤ extent.size
  visits : Visits height extent fun maxBytes depth before => do
    let middle ← visitText maxBytes depth (js field.1) before
    visitJson maxBytes depth field.2.stabilize middle

/-- A text is visited within its length. -/
theorem visits_text {text : JsString} {bytes : Nat} (whole : text.hasLoneSurrogate = false)
    (short : text.byteLength ≤ bytes) : Visits 0 ⟨1, bytes, 0⟩ fun maxBytes depth =>
      visitText maxBytes depth text := by
  intro maxBytes depth before shallow few small
  simp only at shallow few small
  refine ⟨⟨before.nodes + 1, before.textBytes + text.byteLength⟩, ?_, le_rfl, ?_⟩
  · have room : ¬ (8192 < before.nodes + 1 ∨ 24 < depth) := by omega
    have fitting : ¬ maxBytes < before.textBytes + text.byteLength := by omega
    have visited : visitNode depth before = .ok ⟨before.nodes + 1, before.textBytes⟩ := by
      rw [visitNode, rejectIf, if_neg room]
      rfl
    simp only [visitText, visited, ok_bind, whole, rejectIf, if_neg fitting]
    rfl
  · simp only
    omega

/-- A text takes its length and its JSON. -/
theorem fits_string {text : JsString} {bytes size : Nat} (whole : text.hasLoneSurrogate = false)
    (short : text.byteLength ≤ bytes) (quoted : quotedWidth text ≤ size) :
    Fits 0 ⟨1, bytes, size⟩ (.string text) :=
  ⟨quoted, visits_text whole short⟩

/-- A value without parts is one node. -/
theorem visits_node : Visits 0 ⟨1, 0, 0⟩ fun _ => visitNode := by
  intro maxBytes depth before shallow few small
  simp only at shallow few
  refine ⟨⟨before.nodes + 1, before.textBytes⟩, ?_, le_rfl, le_rfl⟩
  have room : ¬ (8192 < before.nodes + 1 ∨ 24 < depth) := by omega
  simp only [visitNode, rejectIf, room, if_false, ok_bind]
  rfl

/-- The absent value takes one node. -/
theorem fits_null : Fits 0 ⟨1, 0, 4⟩ .null := ⟨le_rfl, visits_node⟩

/-- A truth value takes one node. -/
theorem fits_bool (value : Bool) : Fits 0 ⟨1, 0, 5⟩ (.bool value) := by
  refine ⟨?_, visits_node⟩
  cases value <;> decide

/-- A safe integer takes one node. -/
theorem fits_number {value : Int} (safe : isSafeInteger value = true) :
    Fits 0 ⟨1, 0, 17⟩ (.number value) :=
  ⟨decimalWidth_le safe, visits_node⟩

/-- A part stays within a larger extent and a larger height. -/
theorem Visits.mono {height larger : Nat} {extent wider : JsonExtent}
    {visit : Nat → Nat → JsonVisit → Checked JsonVisit} (visits : Visits height extent visit)
    (higher : height ≤ larger) (nodes : extent.nodes ≤ wider.nodes)
    (bytes : extent.textBytes ≤ wider.textBytes) : Visits larger wider visit := by
  intro maxBytes depth before shallow few small
  obtain ⟨after, done, counted, measured⟩ :=
    visits maxBytes depth before (by omega) (by omega) (by omega)
  exact ⟨after, done, by omega, by omega⟩

/-- A value stays within a larger extent and a larger height. -/
theorem Fits.mono {height larger : Nat} {extent wider : JsonExtent} {value : JsonValue}
    (fits : Fits height extent value) (higher : height ≤ larger)
    (nodes : extent.nodes ≤ wider.nodes) (bytes : extent.textBytes ≤ wider.textBytes)
    (size : extent.size ≤ wider.size) : Fits larger wider value :=
  ⟨fits.size.trans size, fits.visits.mono higher nodes bytes⟩

/-- A value that may be absent takes what it takes when it is there. -/
theorem fits_ofOption {α : Type} {height : Nat} {extent : JsonExtent} {write : α → JsonValue}
    {value : Option α} (one : 1 ≤ extent.nodes) (null : 4 ≤ extent.size)
    (fits : ∀ present ∈ value, Fits height extent (write present)) :
    Fits height extent (.ofOption write value) := by
  cases value with
  | none => exact fits_null.mono (by omega) one (Nat.zero_le _) null
  | some present => exact fits present rfl

/-- A name of a field is short and plain. -/
def NameFits (name : String) : Prop :=
  (js name).hasLoneSurrogate = false ∧ (js name).byteLength ≤ 32 ∧ name.length ≤ 32

/-- A name fits if it takes few bytes. -/
theorem nameFits_iff {name : String} : NameFits name ↔ name.utf8ByteSize ≤ 32 := by
  have short : name.length ≤ name.utf8ByteSize := by
    rw [← byteLength_js, JsString.byteLength, codePoints_js, ← String.length_toList]
    have wide := List.length_le_sum_of_one_le ((name.toList.map Char.toNat).map JsString.utf8Width)
    simp only [List.length_map] at wide
    refine wide ?_
    intro i member
    obtain ⟨point, _, rfl⟩ := List.mem_map.mp member
    unfold JsString.utf8Width
    split_ifs <;> omega
  rw [NameFits, whole_js, byteLength_js]
  exact ⟨fun fits => fits.2.1, fun small => ⟨rfl, small, short.trans small⟩⟩

instance (name : String) : Decidable (NameFits name) := decidable_of_iff _ nameFits_iff.symm

/-- Two parts in order are visited within both extents. -/
theorem Visits.bind {height : Nat} {first second : JsonExtent}
    {visit next : Nat → Nat → JsonVisit → Checked JsonVisit} (visits : Visits height first visit)
    (more : Visits height second next) :
    Visits height ⟨first.nodes + second.nodes, first.textBytes + second.textBytes, 0⟩
      (fun maxBytes depth before => do
        let middle ← visit maxBytes depth before
        next maxBytes depth middle) := by
  intro maxBytes depth before shallow few small
  simp only at few small
  obtain ⟨middle, done, counted, measured⟩ :=
    visits maxBytes depth before shallow (by omega) (by omega)
  obtain ⟨after, finished, nodes, bytes⟩ :=
    more maxBytes depth middle shallow (by omega) (by omega)
  refine ⟨after, ?_, ?_, ?_⟩
  · simp only [done, ok_bind, finished]
  · simp only
    omega
  · simp only
    omega

/-- A field takes its name and its value. -/
theorem fits_field {height : Nat} {extent : JsonExtent} {name : String} {value : JsonValue}
    (named : NameFits name) (fits : Fits height extent value) :
    FieldFits height ⟨extent.nodes + 1, extent.textBytes + 32, extent.size + 35⟩ (name, value) := by
  obtain ⟨whole, bytes, short⟩ := named
  have size := fits.size
  have both := ((visits_text whole bytes).mono (Nat.zero_le height) le_rfl le_rfl).bind fits.visits
  constructor
  · simp only
    omega
  · exact both.mono le_rfl (by simp only; omega) (by simp only; omega)

/-- The fields of a record with sorted fields inside them. -/
theorem stabilizeFields_eq (fields : List (String × JsonValue)) :
    JsonValue.stabilizeFields fields = fields.map fun field => (field.1, field.2.stabilize) := by
  induction fields with
  | nil => rfl
  | cons field rest hypothesis =>
    obtain ⟨name, value⟩ := field
    rw [JsonValue.stabilizeFields, hypothesis, List.map_cons]

/-- The size of fields is the sum of theirs. -/
theorem fieldsSize_eq (fields : List (String × JsonValue)) : JsonValue.fieldsSize fields =
    (fields.map fun field => field.1.length + 3 + field.2.encodedSize).sum := by
  induction fields with
  | nil => rfl
  | cons field rest hypothesis =>
    obtain ⟨name, value⟩ := field
    rw [JsonValue.fieldsSize, hypothesis, List.map_cons, List.sum_cons]

/-- A field with its extent. -/
abbrev Measured : Type := JsonExtent × String × JsonValue

/-- Fields that are visited in order. -/
theorem visits_fields {height : Nat} {measured : List Measured}
    (fits : ∀ field ∈ measured, FieldFits height field.1 field.2) :
    Visits height (JsonExtent.sum (measured.map Prod.fst)) fun maxBytes depth =>
      visitFields maxBytes depth
        (measured.map fun field => (field.2.1, field.2.2.stabilize)) := by
  induction measured with
  | nil =>
    intro maxBytes depth before _ _ _
    exact ⟨before, rfl, Nat.le_add_right _ _, Nat.le_add_right _ _⟩
  | cons field rest hypothesis =>
    have first := (fits field List.mem_cons_self).visits
    have behind := hypothesis fun other listed => fits other (List.mem_cons_of_mem _ listed)
    intro maxBytes depth before shallow few small
    obtain ⟨after, done, nodes, bytes⟩ := first.bind behind maxBytes depth before shallow
      (by simpa [JsonExtent.sum] using few) (by simpa [JsonExtent.sum] using small)
    refine ⟨after, ?_, ?_, ?_⟩
    · simpa only [List.map_cons, visitFields, bind_assoc] using done
    · simpa [JsonExtent.sum] using nodes
    · simpa [JsonExtent.sum] using bytes

/-- The sum of extents does not depend on their order. -/
theorem sum_perm {left right : List JsonExtent} (same : left.Perm right) :
    JsonExtent.sum left = JsonExtent.sum right := by
  unfold JsonExtent.sum
  rw [(same.map JsonExtent.nodes).sum_eq, (same.map JsonExtent.textBytes).sum_eq,
    (same.map JsonExtent.size).sum_eq]

/-- The extent of a record of these fields. -/
def recordExtent (extents : List JsonExtent) : JsonExtent :=
  ⟨1 + (JsonExtent.sum extents).nodes, (JsonExtent.sum extents).textBytes,
    2 + extents.length + (JsonExtent.sum extents).size⟩

/-- A record takes what its fields take. -/
theorem fits_record {height : Nat} {extents : List JsonExtent} {fields : List (String × JsonValue)}
    (fits : List.Forall₂ (FieldFits height) extents fields) (few : extents.length ≤ 256) :
    Fits (height + 1) (recordExtent extents) (.object fields) := by
  have long := fits.length_eq
  let measured : List Measured := extents.zip fields
  have firsts : measured.map Prod.fst = extents := List.map_fst_zip (by omega)
  have seconds : measured.map Prod.snd = fields := List.map_snd_zip (by omega)
  have each : ∀ field ∈ measured, FieldFits height field.1 field.2 := by
    intro field member
    exact List.forall₂_zip fits member
  -- the fields are sorted together with their extents
  let ordered := measured.mergeSort fun left right => !JsString.before (js right.2.1) (js left.2.1)
  have permuted : ordered.Perm measured := List.mergeSort_perm _ _
  have sorted : (JsonValue.object fields).stabilize =
      .object (ordered.map fun field => (field.2.1, field.2.2.stabilize)) := by
    rw [JsonValue.stabilize, stabilizeFields_eq, ← seconds, List.map_map]
    congr 1
    symm
    apply List.map_mergeSort
    intro left _ right _
    rfl
  have kept : ∀ field ∈ ordered, FieldFits height field.1 field.2 :=
    fun field member => each field (permuted.mem_iff.mp member)
  have total : JsonExtent.sum (ordered.map Prod.fst) = JsonExtent.sum extents := by
    rw [sum_perm (permuted.map Prod.fst), firsts]
  have count : ordered.length = extents.length := by
    rw [permuted.length_eq, ← firsts, List.length_map]
  constructor
  · rw [sorted, JsonValue.encodedSize, fieldsSize_eq, List.map_map, List.length_map, count]
    have sizes : (ordered.map fun field : Measured =>
        field.2.1.length + 3 + field.2.2.stabilize.encodedSize).sum ≤
          (ordered.map fun field => field.1.size).sum :=
      List.sum_le_sum fun field member => (kept field member).size
    have same : (ordered.map fun field => field.1.size).sum =
        (extents.map JsonExtent.size).sum := by
      simpa only [JsonExtent.sum, List.map_map, Function.comp_def] using
        congrArg JsonExtent.size total
    simp only [recordExtent, JsonExtent.sum, Function.comp_def]
    omega
  · intro maxBytes depth before shallow small bytes
    simp only [recordExtent] at small bytes
    have inside := visits_fields kept
    rw [total] at inside
    obtain ⟨after, done, nodes, texts⟩ := inside maxBytes (depth + 1)
      ⟨before.nodes + 1, before.textBytes⟩ (by omega) (by simp only; omega) (by simp only; omega)
    simp only at nodes texts
    refine ⟨after, ?_, ?_, ?_⟩
    · have room : ¬ (8192 < before.nodes + 1 ∨ 24 < depth) := by omega
      have short : ¬ 256 < extents.length := by omega
      simp only [sorted, visitJson, visitNode, rejectIf, room, short, if_false, List.length_map,
        count]
      exact done
    · simp only [recordExtent]
      omega
    · simp only [recordExtent]
      omega

/-- A value whose extent is within the limits is copied. -/
theorem copyExtensionJson_of_fits {height : Nat} {extent : JsonExtent} {value : JsonValue}
    {maxBytes : Nat} (fits : Fits height extent value) (shallow : height ≤ 24)
    (few : extent.nodes ≤ 8192) (texts : extent.textBytes ≤ maxBytes)
    (small : extent.size ≤ maxBytes) : copyExtensionJson value maxBytes = .ok value.stabilize := by
  obtain ⟨after, done, _, _⟩ := fits.visits maxBytes 0 ⟨0, 0⟩ (by omega) (by simpa using few)
    (by simpa using texts)
  have size := fits.size
  simp only [copyExtensionJson, bind_eq_ok, exists_unit, rejectIf_eq_ok, pure_eq_ok, and_true]
  exact ⟨after, done, by omega⟩

/-- Items that are visited in order. -/
theorem visits_items {height : Nat} {extents : List JsonExtent} {items : List JsonValue}
    (fits : List.Forall₂ (Fits height) extents items) :
    Visits height (JsonExtent.sum extents) fun maxBytes depth =>
      visitItems maxBytes depth (JsonValue.stabilizeItems items) := by
  induction fits with
  | nil =>
    intro maxBytes depth before _ _ _
    exact ⟨before, rfl, Nat.le_add_right _ _, Nat.le_add_right _ _⟩
  | cons first rest hypothesis =>
    intro maxBytes depth before shallow few small
    obtain ⟨after, done, nodes, bytes⟩ := first.visits.bind hypothesis maxBytes depth before shallow
      (by simpa [JsonExtent.sum] using few) (by simpa [JsonExtent.sum] using small)
    refine ⟨after, ?_, ?_, ?_⟩
    · simpa only [JsonValue.stabilizeItems, visitItems] using done
    · simpa [JsonExtent.sum] using nodes
    · simpa [JsonExtent.sum] using bytes

/-- The size of items is at most the sum of theirs. -/
theorem itemsSize_le {height : Nat} {extents : List JsonExtent} {items : List JsonValue}
    (fits : List.Forall₂ (Fits height) extents items) :
    JsonValue.itemsSize (JsonValue.stabilizeItems items) ≤ (JsonExtent.sum extents).size ∧
      (JsonValue.stabilizeItems items).length = extents.length := by
  induction fits with
  | nil => exact ⟨Nat.zero_le _, rfl⟩
  | @cons extent item extents items first rest hypothesis =>
    obtain ⟨small, long⟩ := hypothesis
    have size := first.size
    have total : (JsonExtent.sum (extent :: extents)).size =
        extent.size + (JsonExtent.sum extents).size := by
      simp [JsonExtent.sum]
    rw [JsonValue.stabilizeItems, JsonValue.itemsSize, List.length_cons, List.length_cons, total]
    exact ⟨by omega, by omega⟩

/-- A list takes what its items take. -/
theorem fits_array {height : Nat} {extents : List JsonExtent} {items : List JsonValue}
    (fits : List.Forall₂ (Fits height) extents items) (few : extents.length ≤ 8192) :
    Fits (height + 1) (recordExtent extents) (.array items) := by
  obtain ⟨small, long⟩ := itemsSize_le fits
  constructor
  · rw [JsonValue.stabilize, JsonValue.encodedSize, long]
    simp only [recordExtent]
    omega
  · intro maxBytes depth before shallow nodes bytes
    simp only [recordExtent] at nodes bytes
    obtain ⟨after, done, counted, measured⟩ := visits_items fits maxBytes (depth + 1)
      ⟨before.nodes + 1, before.textBytes⟩ (by omega) (by simp only; omega) (by simp only; omega)
    simp only at counted measured
    refine ⟨after, ?_, ?_, ?_⟩
    · have room : ¬ (8192 < before.nodes + 1 ∨ 24 < depth) := by omega
      have short : ¬ 8192 < extents.length := by omega
      simp only [JsonValue.stabilize, visitJson, visitNode, rejectIf, room, short, if_false, long]
      exact done
    · simp only [recordExtent]
      omega
    · simp only [recordExtent]
      omega

mutual

/-- How deep a value is. -/
def heightOf : JsonValue → Nat
  | .array items => itemsHeight items + 1
  | .object fields => fieldsHeight fields + 1
  | .null | .bool _ | .number _ | .string _ => 0

/-- How deep items are. -/
def itemsHeight : List JsonValue → Nat
  | [] => 0
  | item :: rest => max (heightOf item) (itemsHeight rest)

/-- How deep the values of fields are. -/
def fieldsHeight : List (String × JsonValue) → Nat
  | [] => 0
  | (_, value) :: rest => max (heightOf value) (fieldsHeight rest)

end

mutual

/-- An extent of a value. -/
def extentOf : JsonValue → JsonExtent
  | .null => ⟨1, 0, 4⟩
  | .bool _ => ⟨1, 0, 5⟩
  | .number _ => ⟨1, 0, 17⟩
  | .string text => ⟨1, text.byteLength, quotedWidth text⟩
  | .array items => recordExtent (itemExtents items)
  | .object fields => recordExtent (fieldExtents fields)

/-- Extents of items. -/
def itemExtents : List JsonValue → List JsonExtent
  | [] => []
  | item :: rest => extentOf item :: itemExtents rest

/-- Extents of fields. -/
def fieldExtents : List (String × JsonValue) → List JsonExtent
  | [] => []
  | (_, value) :: rest =>
    ⟨(extentOf value).nodes + 1, (extentOf value).textBytes + 32, (extentOf value).size + 35⟩ ::
      fieldExtents rest

end

mutual

/-- A value has whole texts, safe integers, short names, and not too many parts at one place. -/
def isPlain : JsonValue → Bool
  | .null | .bool _ => true
  | .number value => isSafeInteger value
  | .string text => !text.hasLoneSurrogate
  | .array items => decide ((itemExtents items).length ≤ 8192) && areItemsPlain items
  | .object fields => decide ((fieldExtents fields).length ≤ 256) && areFieldsPlain fields

/-- Items are plain. -/
def areItemsPlain : List JsonValue → Bool
  | [] => true
  | item :: rest => isPlain item && areItemsPlain rest

/-- Fields are plain. -/
def areFieldsPlain : List (String × JsonValue) → Bool
  | [] => true
  | (name, value) :: rest => decide (NameFits name) && isPlain value && areFieldsPlain rest

end

mutual

/-- A plain value takes its extent. -/
theorem fits_of_plain : ∀ value : JsonValue, isPlain value = true →
    Fits (heightOf value) (extentOf value) value
  | .null, _ => by
    rw [heightOf, extentOf]
    exact fits_null
  | .bool value, _ => by
    rw [heightOf, extentOf]
    exact fits_bool value
  | .number value, plain => by
    rw [isPlain] at plain
    rw [heightOf, extentOf]
    exact fits_number plain
  | .string text, plain => by
    rw [isPlain, Bool.not_eq_true'] at plain
    rw [heightOf, extentOf]
    exact fits_string plain le_rfl le_rfl
  | .array items, plain => by
    rw [isPlain, Bool.and_eq_true, decide_eq_true_eq] at plain
    rw [heightOf, extentOf]
    exact fits_array (fits_of_plain_items items plain.2 le_rfl) plain.1
  | .object fields, plain => by
    rw [isPlain, Bool.and_eq_true, decide_eq_true_eq] at plain
    rw [heightOf, extentOf]
    exact fits_record (fits_of_plain_fields fields plain.2 le_rfl) plain.1

/-- Plain items take their extents. -/
theorem fits_of_plain_items : ∀ items : List JsonValue, areItemsPlain items = true →
    ∀ {height : Nat}, itemsHeight items ≤ height →
      List.Forall₂ (Fits height) (itemExtents items) items
  | [], _, _, _ => by
    rw [itemExtents]
    exact .nil
  | item :: rest, plain, height, high => by
    rw [areItemsPlain, Bool.and_eq_true] at plain
    rw [itemsHeight] at high
    rw [itemExtents]
    exact .cons ((fits_of_plain item plain.1).mono (le_of_max_le_left high) le_rfl le_rfl le_rfl)
      (fits_of_plain_items rest plain.2 (le_of_max_le_right high))

/-- Plain fields take their extents. -/
theorem fits_of_plain_fields : ∀ fields : List (String × JsonValue), areFieldsPlain fields = true →
    ∀ {height : Nat}, fieldsHeight fields ≤ height →
      List.Forall₂ (FieldFits height) (fieldExtents fields) fields
  | [], _, _, _ => by
    rw [fieldExtents]
    exact .nil
  | (name, value) :: rest, plain, height, high => by
    rw [areFieldsPlain, Bool.and_eq_true, Bool.and_eq_true, decide_eq_true_eq] at plain
    rw [fieldsHeight] at high
    rw [fieldExtents]
    have value := (fits_of_plain value plain.1.2).mono (le_of_max_le_left high) le_rfl le_rfl le_rfl
    exact .cons (fits_field plain.1.1 value)
      (fits_of_plain_fields rest plain.2 (le_of_max_le_right high))

end

/-- A value is within the bounds of a record, as far as its parts tell. -/
def isSmall (value : JsonValue) (maxBytes : Nat) : Bool :=
  isPlain value && heightOf value ≤ 24 && (extentOf value).nodes ≤ 8192 &&
    (extentOf value).textBytes ≤ maxBytes && (extentOf value).size ≤ maxBytes

/-- A small value is copied. -/
theorem copyExtensionJson_of_small {value : JsonValue} {maxBytes : Nat}
    (small : isSmall value maxBytes = true) :
    copyExtensionJson value maxBytes = .ok value.stabilize := by
  simp only [isSmall, Bool.and_eq_true, decide_eq_true_eq] at small
  obtain ⟨⟨⟨⟨plain, shallow⟩, few⟩, texts⟩, size⟩ := small
  exact copyExtensionJson_of_fits (fits_of_plain value plain) shallow few texts size

end Crewon.Verif.ExtensionJson
