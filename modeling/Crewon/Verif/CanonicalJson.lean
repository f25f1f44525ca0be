import Crewon.Js.CanonicalJson
import Crewon.Lib.StableSort
import Mathlib.Data.List.Perm.Basic

/-!
# Values that differ only in the order of their keys

Two values have the same text after their keys are put in order exactly when they differ only in the
order of their keys, and in the sign of zeros. The order of the fields of a record is told by their
names alone when no two have the same.
-/

namespace Crewon.Js.Json

open Crewon.Js

/-! ## Fields in order -/

section Order

variable {α β : Type}

/-- The names of fields. -/
abbrev names (fields : List (JsString × α)) : List JsString := fields.map Prod.fst

/-- A record that is built from entries in the order of their names. -/
def inOrder (fields : List (JsString × α)) : List (JsString × α) := ownOrder (sortByName fields)

/-- The order in which a record lists its fields is told by their names. -/
theorem ownOrder_map (change : α → β) (fields : List (JsString × α)) :
    (ownOrder fields).map (Prod.map id change) = ownOrder (fields.map (Prod.map id change)) := by
  unfold ownOrder
  rw [List.map_append, List.filter_map, List.filter_map]
  congr 1
  exact List.map_insertionSort _ _ _ _ fun _ _ _ _ => Iff.rfl

/-- The order of the fields is told by their names. -/
theorem inOrder_map (change : α → β) (fields : List (JsString × α)) :
    (inOrder fields).map (Prod.map id change) = inOrder (fields.map (Prod.map id change)) := by
  unfold inOrder sortByName
  rw [ownOrder_map]
  congr 1
  exact List.map_insertionSort _ _ _ _ fun _ _ _ _ => Iff.rfl

/-- A record lists all its fields. -/
theorem perm_ownOrder (fields : List (JsString × α)) : (ownOrder fields).Perm fields := by
  refine ((List.perm_insertionSort _ _).append_right _).trans ?_
  have parts := List.filter_append_perm (fun field => (arrayIndex field.1).isSome) fields
  simpa only [Option.not_isSome] using parts

/-- A record is built from all the fields. -/
theorem perm_inOrder (fields : List (JsString × α)) : (inOrder fields).Perm fields :=
  (perm_ownOrder _).trans (List.perm_insertionSort _ _)

/-- The same fields in another order are sorted to the same list when their names differ. -/
theorem sortByName_congr {left right : List (JsString × α)} (same : left.Perm right)
    (distinct : (names left).Nodup) : sortByName left = sortByName right := by
  have sorts (fields : List (JsString × α)) :
      (sortByName fields).Pairwise fun first second => first.1 ≤ second.1 :=
    List.pairwise_insertionSort _ _
  have sorted : (sortByName left).Perm (sortByName right) :=
    (List.perm_insertionSort _ _).trans (same.trans (List.perm_insertionSort _ _).symm)
  refine sorted.eq_of_pairwise ?_ (sorts left) (sorts right)
  intro first second firstIn secondIn le ge
  have firstHeld : first ∈ left := (List.perm_insertionSort _ _).mem_iff.mp firstIn
  have secondHeld : second ∈ left :=
    same.mem_iff.mpr ((List.perm_insertionSort _ _).mem_iff.mp secondIn)
  exact List.inj_on_of_nodup_map distinct firstHeld secondHeld (le_antisymm le ge)

/-- Records that are built from fields are the same exactly when the fields are, in any order. -/
theorem inOrder_eq_iff {left right : List (JsString × α)} (distinct : (names left).Nodup) :
    inOrder left = inOrder right ↔ left.Perm right := by
  constructor
  · intro same
    have listed := perm_inOrder left
    rw [same] at listed
    exact listed.symm.trans (perm_inOrder right)
  · intro same
    rw [inOrder, inOrder, sortByName_congr same distinct]

/-- Fields with something else of their values are the same in another order exactly when they have
the same names and the same of the values under each. -/
theorem perm_map_iff {left right : List (JsString × α)} (change : α → β)
    (leftDistinct : (names left).Nodup) (rightDistinct : (names right).Nodup) :
    (left.map (Prod.map id change)).Perm (right.map (Prod.map id change)) ↔
      (names left).Perm (names right) ∧ ∀ field ∈ left, ∃ other, (field.1, other) ∈ right ∧
        change field.2 = change other := by
  constructor
  · intro same
    constructor
    · have mapped := same.map Prod.fst
      simpa only [List.map_map, Prod.map_comp_map, Function.comp_def, Prod.map_fst, id_eq] using
        mapped
    · intro field member
      have listed := same.mem_iff.mp (List.mem_map_of_mem member)
      obtain ⟨⟨name, other⟩, held, equal⟩ := List.mem_map.mp listed
      obtain ⟨sameName, sameValue⟩ := Prod.mk.inj equal
      have named : name = field.1 := sameName
      exact ⟨other, named ▸ held, sameValue.symm⟩
  · rintro ⟨sameNames, found⟩
    have apart {fields : List (JsString × α)} (distinct : (names fields).Nodup) :
        (fields.map (Prod.map id change)).Nodup := by
      refine List.Nodup.of_map Prod.fst ?_
      simpa only [List.map_map, Function.comp_def, Prod.map_fst, id_eq] using distinct
    refine (List.perm_ext_iff_of_nodup (apart leftDistinct) (apart rightDistinct)).mpr ?_
    intro entry
    constructor
    · intro member
      obtain ⟨field, held, rfl⟩ := List.mem_map.mp member
      obtain ⟨other, listed, equal⟩ := found field held
      exact List.mem_map.mpr ⟨(field.1, other), listed, Prod.ext rfl equal.symm⟩
    · intro member
      obtain ⟨⟨name, other⟩, listed, rfl⟩ := List.mem_map.mp member
      have named : name ∈ names left := sameNames.mem_iff.mpr (List.mem_map_of_mem listed)
      obtain ⟨field, held, rfl⟩ := List.mem_map.mp named
      obtain ⟨another, placed, equal⟩ := found field held
      have one : (field.1, another) = (field.1, other) :=
        List.inj_on_of_nodup_map rightDistinct placed listed rfl
      refine List.mem_map.mpr ⟨field, held, Prod.ext rfl ?_⟩
      exact equal.trans (congrArg (fun entry => change entry.2) one)

end Order

/-! ## Values up to the order of their keys -/

mutual

/-- No record has two fields of the same name. -/
def Proper : Json → Prop
  | .array items => ProperItems items
  | .object fields => (names fields).Nodup ∧ ProperFields fields
  | .null | .bool _ | .number _ | .string _ => True

/-- No record in the items has two fields of the same name. -/
def ProperItems : List Json → Prop
  | [] => True
  | item :: rest => Proper item ∧ ProperItems rest

/-- No record in the fields has two fields of the same name. -/
def ProperFields : Fields → Prop
  | [] => True
  | (_, value) :: rest => Proper value ∧ ProperFields rest

end

mutual

/-- Two values are the same up to the order of keys and the sign of zeros. -/
def SameUpToOrder : Json → Json → Prop
  | .null, .null => True
  | .bool left, .bool right => left = right
  | .number left, .number right => left.value = right.value
  | .string left, .string right => left = right
  | .array left, .array right => SameItems left right
  | .object left, .object right => (names left).Perm (names right) ∧ FieldsIn right left
  | _, _ => False

/-- Two lists have the same items, each up to the order of keys. -/
def SameItems : List Json → List Json → Prop
  | [], [] => True
  | left :: lefts, right :: rights => SameUpToOrder left right ∧ SameItems lefts rights
  | _, _ => False

/-- Every field has the same value in other fields, up to the order of keys. -/
def FieldsIn (others : Fields) : Fields → Prop
  | [] => True
  | (key, value) :: rest =>
    (∃ other, (key, other) ∈ others ∧ SameUpToOrder value other) ∧ FieldsIn others rest

end

/-- The value with its keys in order and the values of its numbers. -/
def canonical (value : Json) : JsonForm ℚ JsString :=
  (rebuilt fromEntries value).mapNumber FiniteNumber.value

/-- A value of proper fields is proper. -/
theorem proper_of_mem {fields : Fields} (proper : ProperFields fields) {key : JsString}
    {value : Json} (member : (key, value) ∈ fields) : Proper value := by
  induction fields with
  | nil => cases member
  | cons field rest hypothesis =>
    rcases List.mem_cons.mp member with rfl | later
    · exact proper.1
    · exact hypothesis proper.2 later

/-- A field has the same value in the other fields. -/
theorem fieldsIn_mem {others fields : Fields} (found : FieldsIn others fields) {key : JsString}
    {value : Json} (member : (key, value) ∈ fields) :
    ∃ other, (key, other) ∈ others ∧ SameUpToOrder value other := by
  induction fields with
  | nil => cases member
  | cons field rest hypothesis =>
    rcases List.mem_cons.mp member with rfl | later
    · exact found.1
    · exact hypothesis found.2 later

/-- Fields are rebuilt one by one. -/
theorem rebuiltFields_eq_map (build : Fields → Fields) (fields : Fields) :
    rebuiltFields build fields = fields.map (Prod.map id (rebuilt build)) := by
  induction fields with
  | nil => rfl
  | cons field rest hypothesis =>
    obtain ⟨key, value⟩ := field
    rw [rebuiltFields, hypothesis, List.map_cons, Prod.map_apply, id_eq]

/-- Numbers are read field by field. -/
theorem mapFields_eq_map {ν μ : Type} (number : ν → μ)
    (fields : List (JsString × JsonForm ν JsString)) :
    JsonForm.mapFields number fields = fields.map (Prod.map id (JsonForm.mapNumber number)) := by
  induction fields with
  | nil => rfl
  | cons field rest hypothesis =>
    obtain ⟨key, value⟩ := field
    rw [JsonForm.mapFields, hypothesis, List.map_cons, Prod.map_apply, id_eq]

/-- A record with its keys in order. -/
theorem canonical_object (fields : Fields) :
    canonical (.object fields) = .object (inOrder (fields.map (Prod.map id canonical))) := by
  rw [canonical, rebuilt, JsonForm.mapNumber, mapFields_eq_map, rebuiltFields_eq_map]
  congr 1
  exact (inOrder_map _ _).trans (by rw [List.map_map, Prod.map_comp_map]; rfl)

mutual

/-- Values are the same up to the order of keys exactly when they are with their keys in order. -/
theorem sameUpToOrder_iff : ∀ left right : Json, Proper left → Proper right →
    (SameUpToOrder left right ↔ canonical left = canonical right)
  | .null, right, _, _ => by
    cases right <;> simp [SameUpToOrder, canonical, rebuilt, JsonForm.mapNumber]
  | .bool left, right, _, _ => by
    cases right <;> simp [SameUpToOrder, canonical, rebuilt, JsonForm.mapNumber]
  | .number left, right, _, _ => by
    cases right <;> simp [SameUpToOrder, canonical, rebuilt, JsonForm.mapNumber]
  | .string left, right, _, _ => by
    cases right <;> simp [SameUpToOrder, canonical, rebuilt, JsonForm.mapNumber]
  | .array left, right, leftProper, rightProper => by
    cases right with
    | array right =>
      rw [SameUpToOrder, sameItems_iff left right leftProper rightProper]
      simp [canonical, rebuilt, JsonForm.mapNumber]
    | null | bool | number | string | object =>
      simp [SameUpToOrder, canonical, rebuilt, JsonForm.mapNumber]
  | .object left, right, leftProper, rightProper => by
    cases right with
    | object right =>
      have distinct : (names (left.map (Prod.map id canonical))).Nodup := by
        simpa only [names, List.map_map, Function.comp_def, Prod.map_fst, id_eq] using leftProper.1
      rw [SameUpToOrder, fieldsIn_iff right left rightProper.2 leftProper.2, canonical_object,
        canonical_object, JsonForm.object.injEq, inOrder_eq_iff distinct,
        perm_map_iff canonical leftProper.1 rightProper.1]
    | null | bool | number | string | array =>
      simp [SameUpToOrder, canonical, rebuilt, JsonForm.mapNumber]

/-- Items are the same up to the order of keys exactly when they are with their keys in order. -/
theorem sameItems_iff : ∀ left right : List Json, ProperItems left → ProperItems right →
    (SameItems left right ↔
      JsonForm.mapItems FiniteNumber.value (rebuiltItems fromEntries left) =
        JsonForm.mapItems FiniteNumber.value (rebuiltItems fromEntries right))
  | [], right, _, _ => by cases right <;> simp [SameItems, rebuiltItems, JsonForm.mapItems]
  | left :: lefts, right, leftProper, rightProper => by
    cases right with
    | nil => simp [SameItems, rebuiltItems, JsonForm.mapItems]
    | cons right rights =>
      rw [SameItems, sameUpToOrder_iff left right leftProper.1 rightProper.1,
        sameItems_iff lefts rights leftProper.2 rightProper.2]
      simp [canonical, rebuiltItems, JsonForm.mapItems]

/-- Fields have their values in other fields exactly when they have them with their keys in
order. -/
theorem fieldsIn_iff (others : Fields) : ∀ fields : Fields, ProperFields others →
    ProperFields fields →
    (FieldsIn others fields ↔ ∀ field ∈ fields, ∃ other, (field.1, other) ∈ others ∧
      canonical field.2 = canonical other)
  | [], _, _ => by simp [FieldsIn]
  | (key, value) :: rest, othersProper, proper => by
    have each (other : Json) (listed : (key, other) ∈ others) :
        SameUpToOrder value other ↔ canonical value = canonical other :=
      sameUpToOrder_iff value other proper.1 (proper_of_mem othersProper listed)
    rw [FieldsIn, fieldsIn_iff others rest othersProper proper.2, List.forall_mem_cons]
    refine and_congr_left fun _ => exists_congr fun other => and_congr_right fun listed => ?_
    exact each other listed

end

/-- Values have the same text with their keys in order exactly when they are the same up to the
order of keys and the sign of zeros. -/
theorem stringify_eq_iff {left right : Json} (leftProper : Proper left)
    (rightProper : Proper right) :
    stringify (rebuilt fromEntries left) = stringify (rebuilt fromEntries right) ↔
      SameUpToOrder left right := by
  rw [sameUpToOrder_iff left right leftProper rightProper]
  constructor
  · intro same
    exact JsonForm.write_inj FiniteNumber.readable_text (congrArg JsString.units same)
  · intro same
    have text (value : Json) : stringify (rebuilt fromEntries value) =
        ⟨JsonForm.write (fun value : ℚ => (js (String.ofList (numberChars value))).units)
          (fun name => name) (canonical value)⟩ := by
      rw [canonical, JsonForm.write_mapNumber]
      rfl
    rw [text, text, same]

/-- A value is the same as itself. -/
theorem SameUpToOrder.refl {value : Json} (proper : Proper value) : SameUpToOrder value value :=
  (sameUpToOrder_iff value value proper proper).mpr rfl

/-! ## Fields under the key of the prototype -/

mutual

/-- The value without the fields under the key of the prototype. -/
def withoutProto : Json → Json
  | .array items => .array (withoutProtoItems items)
  | .object fields => .object (withoutProtoFields fields)
  | value => value

/-- The items without the fields under the key of the prototype. -/
def withoutProtoItems : List Json → List Json
  | [] => []
  | item :: rest => withoutProto item :: withoutProtoItems rest

/-- The fields without those under the key of the prototype. -/
def withoutProtoFields : Fields → Fields
  | [] => []
  | (key, value) :: rest =>
    if key = protoKey then withoutProtoFields rest
    else (key, withoutProto value) :: withoutProtoFields rest

end

mutual

/-- A record in the value has a field under the key of the prototype. -/
def hasProto : Json → Bool
  | .array items => hasProtoItems items
  | .object fields => hasProtoFields fields
  | .null | .bool _ | .number _ | .string _ => false

/-- A record in the items has a field under the key of the prototype. -/
def hasProtoItems : List Json → Bool
  | [] => false
  | item :: rest => hasProto item || hasProtoItems rest

/-- The fields, or a record in them, have one under the key of the prototype. -/
def hasProtoFields : Fields → Bool
  | [] => false
  | (key, value) :: rest => key = protoKey || hasProto value || hasProtoFields rest

end

/-- The fields without those under the key of the prototype, one by one. -/
theorem withoutProtoFields_eq (fields : Fields) : withoutProtoFields fields =
    (fields.filter fun field => field.1 ≠ protoKey).map (Prod.map id withoutProto) := by
  induction fields with
  | nil => rfl
  | cons field rest hypothesis =>
    obtain ⟨key, value⟩ := field
    rw [withoutProtoFields, hypothesis]
    by_cases proto : key = protoKey
    · rw [if_pos proto, List.filter_cons_of_neg (by simp [proto])]
    · rw [if_neg proto, List.filter_cons_of_pos (by simp [proto]), List.map_cons]
      rfl

mutual

/-- Leaving fields away keeps a value proper. -/
theorem proper_withoutProto : ∀ value : Json, Proper value → Proper (withoutProto value)
  | .null, _ | .bool _, _ | .number _, _ | .string _, _ => trivial
  | .array items, proper => properItems_withoutProto items proper
  | .object fields, proper => by
    refine ⟨?_, properFields_withoutProto fields proper.2⟩
    have kept := (List.filter_sublist (p := fun field => field.1 ≠ protoKey)
      (l := fields)).map Prod.fst
    rw [withoutProtoFields_eq]
    simpa only [names, List.map_map, Function.comp_def, Prod.map_fst, id_eq] using
      proper.1.sublist kept

/-- Leaving fields away keeps items proper. -/
theorem properItems_withoutProto : ∀ items : List Json, ProperItems items →
    ProperItems (withoutProtoItems items)
  | [], _ => trivial
  | item :: rest, proper =>
    ⟨proper_withoutProto item proper.1, properItems_withoutProto rest proper.2⟩

/-- Leaving fields away keeps fields proper. -/
theorem properFields_withoutProto : ∀ fields : Fields, ProperFields fields →
    ProperFields (withoutProtoFields fields)
  | [], _ => trivial
  | (key, value) :: rest, proper => by
    rw [withoutProtoFields]
    split_ifs
    · exact properFields_withoutProto rest proper.2
    · exact ⟨proper_withoutProto value proper.1, properFields_withoutProto rest proper.2⟩

end

mutual

/-- Assigning the fields of every record leaves those under the key of the prototype away. -/
theorem rebuilt_assignEach : ∀ value : Json,
    rebuilt assignEach value = rebuilt fromEntries (withoutProto value)
  | .null | .bool _ | .number _ | .string _ => rfl
  | .array items => by
    rw [rebuilt, withoutProto, rebuilt, rebuiltItems_assignEach items]
  | .object fields => by
    rw [rebuilt, withoutProto, rebuilt, ← rebuiltFields_assignEach fields, assignEach, fromEntries,
      sortByName, sortByName, Lib.insertionSort_filter]

/-- Assigning the fields of every record of items. -/
theorem rebuiltItems_assignEach : ∀ items : List Json,
    rebuiltItems assignEach items = rebuiltItems fromEntries (withoutProtoItems items)
  | [] => rfl
  | item :: rest => by
    rw [rebuiltItems, withoutProtoItems, rebuiltItems, rebuilt_assignEach item,
      rebuiltItems_assignEach rest]

/-- Assigning the fields of every record of fields. -/
theorem rebuiltFields_assignEach : ∀ fields : Fields,
    (rebuiltFields assignEach fields).filter (fun field => field.1 ≠ protoKey) =
      rebuiltFields fromEntries (withoutProtoFields fields)
  | [] => rfl
  | (key, value) :: rest => by
    rw [rebuiltFields, withoutProtoFields]
    by_cases proto : key = protoKey
    · rw [if_pos proto, List.filter_cons_of_neg (by simp [proto]), rebuiltFields_assignEach rest]
    · rw [if_neg proto, List.filter_cons_of_pos (by simp [proto]), rebuiltFields_assignEach rest,
        rebuiltFields, rebuilt_assignEach value]

end

mutual

/-- Values that are the same up to the order of keys are so after fields are left away. -/
theorem SameUpToOrder.withoutProto : ∀ {left right : Json}, SameUpToOrder left right →
    SameUpToOrder (Json.withoutProto left) (Json.withoutProto right)
  | .null, right, same | .bool _, right, same | .number _, right, same | .string _, right, same => by
    cases right <;> exact same
  | .array left, right, same => by
    cases right with
    | array right => exact SameItems.withoutProto same
    | null | bool | number | string | object => exact same.elim
  | .object left, right, same => by
    cases right with
    | object right =>
      refine ⟨?_, FieldsIn.withoutProto same.2⟩
      have kept := same.1.filter fun key => key ≠ protoKey
      rw [withoutProtoFields_eq, withoutProtoFields_eq]
      simpa only [names, List.map_map, Function.comp_def, Prod.map_fst, id_eq, List.filter_map]
        using kept
    | null | bool | number | string | array => exact same.elim

/-- Items that are the same up to the order of keys are so after fields are left away. -/
theorem SameItems.withoutProto : ∀ {left right : List Json}, SameItems left right →
    SameItems (withoutProtoItems left) (withoutProtoItems right)
  | [], right, same => by
    cases right with
    | nil => trivial
    | cons => exact same.elim
  | left :: lefts, right, same => by
    cases right with
    | nil => exact same.elim
    | cons right rights =>
      exact ⟨SameUpToOrder.withoutProto same.1, SameItems.withoutProto same.2⟩

/-- Fields that have their values in others have them after fields are left away. -/
theorem FieldsIn.withoutProto {others : Fields} : ∀ {fields : Fields}, FieldsIn others fields →
    FieldsIn (withoutProtoFields others) (withoutProtoFields fields)
  | [], _ => trivial
  | (key, value) :: rest, found => by
    rw [withoutProtoFields]
    split_ifs with proto
    · exact FieldsIn.withoutProto found.2
    · obtain ⟨other, listed, same⟩ := found.1
      refine ⟨⟨Json.withoutProto other, ?_, SameUpToOrder.withoutProto same⟩,
        FieldsIn.withoutProto found.2⟩
      rw [withoutProtoFields_eq]
      exact List.mem_map.mpr ⟨(key, other), List.mem_filter.mpr ⟨listed, by simp [proto]⟩, rfl⟩

end

mutual

/-- A value without fields under the key of the prototype is kept. -/
theorem withoutProto_eq_self : ∀ value : Json, hasProto value = false → withoutProto value = value
  | .null, _ | .bool _, _ | .number _, _ | .string _, _ => rfl
  | .array items, plain => by rw [withoutProto, withoutProtoItems_eq_self items plain]
  | .object fields, plain => by rw [withoutProto, withoutProtoFields_eq_self fields plain]

/-- Items without fields under the key of the prototype are kept. -/
theorem withoutProtoItems_eq_self : ∀ items : List Json, hasProtoItems items = false →
    withoutProtoItems items = items
  | [], _ => rfl
  | item :: rest, plain => by
    obtain ⟨first, others⟩ := Bool.or_eq_false_iff.mp plain
    rw [withoutProtoItems, withoutProto_eq_self item first, withoutProtoItems_eq_self rest others]

/-- Fields without one under the key of the prototype are kept. -/
theorem withoutProtoFields_eq_self : ∀ fields : Fields, hasProtoFields fields = false →
    withoutProtoFields fields = fields
  | [], _ => rfl
  | (key, value) :: rest, plain => by
    obtain ⟨first, others⟩ := Bool.or_eq_false_iff.mp plain
    obtain ⟨other, inside⟩ := Bool.or_eq_false_iff.mp first
    rw [withoutProtoFields, if_neg (of_decide_eq_false other), withoutProto_eq_self value inside,
      withoutProtoFields_eq_self rest others]

end

mutual

/-- A value that leaving fields away does not change has none under the key of the prototype. -/
theorem hasProto_of_same : ∀ value : Json, Proper value →
    SameUpToOrder (withoutProto value) value → hasProto value = false
  | .null, _, _ | .bool _, _, _ | .number _, _, _ | .string _, _, _ => rfl
  | .array items, proper, same => hasProtoItems_of_same items proper same
  | .object fields, proper, same => by
    obtain ⟨sameNames, found⟩ := same
    -- no field has been left away
    have lengths := sameNames.length_eq
    rw [withoutProtoFields_eq, List.length_map, List.length_map, List.length_map] at lengths
    have kept := List.length_filter_eq_length_iff.mp lengths
    refine hasProtoFields_of_same fields proper.2 fun field member => ?_
    have other := of_decide_eq_true (kept field member)
    have listed : (field.1, withoutProto field.2) ∈ withoutProtoFields fields := by
      rw [withoutProtoFields_eq]
      exact List.mem_map.mpr ⟨field, List.mem_filter.mpr ⟨member, kept field member⟩, rfl⟩
    obtain ⟨value, held, equal⟩ := fieldsIn_mem found listed
    have one : (field.1, value) = field := List.inj_on_of_nodup_map proper.1 held member rfl
    obtain rfl : value = field.2 := congrArg Prod.snd one
    exact ⟨other, equal⟩

/-- Items that leaving fields away does not change have none under the key of the prototype. -/
theorem hasProtoItems_of_same : ∀ items : List Json, ProperItems items →
    SameItems (withoutProtoItems items) items → hasProtoItems items = false
  | [], _, _ => rfl
  | item :: rest, proper, same =>
    Bool.or_eq_false_iff.mpr ⟨hasProto_of_same item proper.1 same.1,
      hasProtoItems_of_same rest proper.2 same.2⟩

/-- Fields that leaving fields away does not change have none under the key of the prototype. -/
theorem hasProtoFields_of_same : ∀ fields : Fields, ProperFields fields →
    (∀ field ∈ fields, field.1 ≠ protoKey ∧ SameUpToOrder (withoutProto field.2) field.2) →
    hasProtoFields fields = false
  | [], _, _ => rfl
  | (key, value) :: rest, proper, same => by
    obtain ⟨other, inside⟩ := same _ List.mem_cons_self
    refine Bool.or_eq_false_iff.mpr ⟨Bool.or_eq_false_iff.mpr ⟨decide_eq_false other, ?_⟩, ?_⟩
    · exact hasProto_of_same value proper.1 inside
    · exact hasProtoFields_of_same rest proper.2 fun field member =>
        same field (List.mem_cons_of_mem _ member)

end

end Crewon.Js.Json
