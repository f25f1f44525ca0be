import Crewon.Js.JsonText

/-!
# JSON values of any numbers and names

The values of JSON, with any numbers and any names of fields, and their text. A value is read back
from its text: what a text begins with tells which kind of value it is, and a number ends where its
characters end. How a number is written only has to tell what is read of it.
-/

namespace Crewon.Js

/-- A value of JSON. -/
inductive JsonForm (ν κ : Type) where
  /-- The absent value. -/
  | null
  /-- A truth value. -/
  | bool (value : Bool)
  /-- A number. -/
  | number (value : ν)
  /-- A text. -/
  | string (value : JsString)
  /-- A list of values. -/
  | array (items : List (JsonForm ν κ))
  /-- A record, as its fields in order. -/
  | object (fields : List (κ × JsonForm ν κ))

namespace JsonForm

variable {ν κ μ : Type}

section Same

variable [DecidableEq ν] [DecidableEq κ]

mutual

/-- Two values are the same. -/
def same : JsonForm ν κ → JsonForm ν κ → Bool
  | .null, .null => true
  | .bool left, .bool right => left = right
  | .number left, .number right => left = right
  | .string left, .string right => left = right
  | .array left, .array right => sameItems left right
  | .object left, .object right => sameFields left right
  | _, _ => false

/-- Two lists have the same values. -/
def sameItems : List (JsonForm ν κ) → List (JsonForm ν κ) → Bool
  | [], [] => true
  | left :: lefts, right :: rights => same left right && sameItems lefts rights
  | _, _ => false

/-- Two lists of fields have the same names and values. -/
def sameFields : List (κ × JsonForm ν κ) → List (κ × JsonForm ν κ) → Bool
  | [], [] => true
  | (name, left) :: lefts, (other, right) :: rights =>
    decide (name = other) && same left right && sameFields lefts rights
  | _, _ => false

end

mutual

theorem same_iff : ∀ left right : JsonForm ν κ, same left right = true ↔ left = right
  | .null, right => by cases right <;> simp [same]
  | .bool left, right => by cases right <;> simp [same]
  | .number left, right => by cases right <;> simp [same]
  | .string left, right => by cases right <;> simp [same]
  | .array left, right => by cases right <;> simp [same, sameItems_iff left]
  | .object left, right => by cases right <;> simp [same, sameFields_iff left]

theorem sameItems_iff :
    ∀ left right : List (JsonForm ν κ), sameItems left right = true ↔ left = right
  | [], right => by cases right <;> simp [sameItems]
  | left :: lefts, right => by cases right <;> simp [sameItems, same_iff left, sameItems_iff lefts]

theorem sameFields_iff :
    ∀ left right : List (κ × JsonForm ν κ), sameFields left right = true ↔ left = right
  | [], right => by cases right <;> simp [sameFields]
  | (name, left) :: lefts, right => by
    cases right with
    | nil => simp [sameFields]
    | cons first rest => simp [sameFields, same_iff left, sameFields_iff lefts, Prod.ext_iff]

end

instance : DecidableEq (JsonForm ν κ) := fun left right =>
  decidable_of_iff (same left right = true) (same_iff left right)

end Same

mutual

/-- The value with something else of every number. -/
def mapNumber (number : ν → μ) : JsonForm ν κ → JsonForm μ κ
  | .null => .null
  | .bool value => .bool value
  | .number value => .number (number value)
  | .string value => .string value
  | .array items => .array (mapItems number items)
  | .object fields => .object (mapFields number fields)

/-- The items with something else of every number. -/
def mapItems (number : ν → μ) : List (JsonForm ν κ) → List (JsonForm μ κ)
  | [] => []
  | item :: rest => mapNumber number item :: mapItems number rest

/-- The fields with something else of every number. -/
def mapFields (number : ν → μ) : List (κ × JsonForm ν κ) → List (κ × JsonForm μ κ)
  | [] => []
  | (name, value) :: rest => (name, mapNumber number value) :: mapFields number rest

end

/-! ## The text of a value -/

section Write

variable (numeral : ν → List UInt16) (spelled : κ → JsString)

mutual

/-- The units of a value written as JSON. -/
def write : JsonForm ν κ → List UInt16
  | .null => (js "null").units
  | .bool value => if value then (js "true").units else (js "false").units
  | .number value => numeral value
  | .string value => quote value
  | .array items => unit '[' :: writeItems items ++ [unit ']']
  | .object fields => unit '{' :: writeFields fields ++ [unit '}']

/-- The units of items with a comma between them. -/
def writeItems : List (JsonForm ν κ) → List UInt16
  | [] => []
  | [item] => write item
  | item :: rest => write item ++ unit ',' :: writeItems rest

/-- The units of fields with a comma between them. -/
def writeFields : List (κ × JsonForm ν κ) → List UInt16
  | [] => []
  | [(name, value)] => quote (spelled name) ++ unit ':' :: write value
  | (name, value) :: rest =>
    quote (spelled name) ++ unit ':' :: write value ++ unit ',' :: writeFields rest

end

/-- What follows an item of a list. -/
def writeItemsRest : List (JsonForm ν κ) → List UInt16
  | [] => []
  | item :: rest => unit ',' :: writeItems numeral spelled (item :: rest)

/-- What follows a field of a record. -/
def writeFieldsRest : List (κ × JsonForm ν κ) → List UInt16
  | [] => []
  | field :: rest => unit ',' :: writeFields numeral spelled (field :: rest)

/-- Items are the first one and what follows it. -/
theorem writeItems_cons (item : JsonForm ν κ) (rest : List (JsonForm ν κ)) :
    writeItems numeral spelled (item :: rest) =
      write numeral spelled item ++ writeItemsRest numeral spelled rest := by
  cases rest with
  | nil => simp [writeItems, writeItemsRest]
  | cons next others => simp [writeItems, writeItemsRest]

/-- Fields are the first one and what follows it. -/
theorem writeFields_cons (name : κ) (value : JsonForm ν κ) (rest : List (κ × JsonForm ν κ)) :
    writeFields numeral spelled ((name, value) :: rest) =
      quote (spelled name) ++ unit ':' :: write numeral spelled value ++
        writeFieldsRest numeral spelled rest := by
  cases rest with
  | nil => simp [writeFields, writeFieldsRest]
  | cons next others => simp [writeFields, writeFieldsRest]

mutual

/-- How a value is written only depends on what is written of its numbers. -/
theorem write_mapNumber (text : μ → List UInt16) (number : ν → μ) : ∀ value : JsonForm ν κ,
    write text spelled (value.mapNumber number) =
      write (fun value => text (number value)) spelled value
  | .null | .bool _ | .number _ | .string _ => rfl
  | .array items => by
    rw [mapNumber, write, write, writeItems_mapItems text number items]
  | .object fields => by
    rw [mapNumber, write, write, writeFields_mapFields text number fields]

/-- How items are written only depends on what is written of their numbers. -/
theorem writeItems_mapItems (text : μ → List UInt16) (number : ν → μ) :
    ∀ items : List (JsonForm ν κ), writeItems text spelled (mapItems number items) =
      writeItems (fun value => text (number value)) spelled items
  | [] => rfl
  | item :: rest => by
    have others := writeItems_mapItems text number rest
    have follows : writeItemsRest text spelled (mapItems number rest) =
        writeItemsRest (fun value => text (number value)) spelled rest := by
      cases rest with
      | nil => rfl
      | cons next behind =>
        rw [mapItems] at others
        rw [mapItems, writeItemsRest, writeItemsRest, others]
    rw [mapItems, writeItems_cons, writeItems_cons, write_mapNumber text number item, follows]

/-- How fields are written only depends on what is written of their numbers. -/
theorem writeFields_mapFields (text : μ → List UInt16) (number : ν → μ) :
    ∀ fields : List (κ × JsonForm ν κ), writeFields text spelled (mapFields number fields) =
      writeFields (fun value => text (number value)) spelled fields
  | [] => rfl
  | (name, value) :: rest => by
    have others := writeFields_mapFields text number rest
    have follows : writeFieldsRest text spelled (mapFields number rest) =
        writeFieldsRest (fun value => text (number value)) spelled rest := by
      cases rest with
      | nil => rfl
      | cons next behind =>
        obtain ⟨key, item⟩ := next
        rw [mapFields] at others
        rw [mapFields, writeFieldsRest, writeFieldsRest, others]
    rw [mapFields, writeFields_cons, writeFields_cons, write_mapNumber text number value, follows]

end

end Write

/-! ## What a text begins with -/

/-- The unit of a digit, of a sign, of a point or of an exponent. -/
def isNumeral (point : UInt16) : Bool :=
  isDigit point || point == unit '-' || point == unit '+' || point == unit '.' || point == unit 'e'

/-- A text does not go on with a numeral. -/
def Ends (tail : List UInt16) : Prop := ∀ first ∈ tail.head?, isNumeral first = false

/-- Which kind of value a text begins with. -/
def startKind (first : UInt16) : Nat :=
  if first = unit 'n' then 0
  else if first = unit 't' then 1
  else if first = unit 'f' then 2
  else if first = unit '"' then 3
  else if first = unit '[' then 4
  else if first = unit '{' then 5
  else if isNumeral first then 6
  else 7

/-- The kind of a value. -/
def kind : JsonForm ν κ → Nat
  | .null => 0
  | .bool value => if value then 1 else 2
  | .string _ => 3
  | .array _ => 4
  | .object _ => 5
  | .number _ => 6

/-- A closing bracket or a comma is no numeral. -/
theorem ends_rest {first : UInt16} {rest : List UInt16} (plain : isNumeral first = false) :
    Ends (first :: rest) := by
  rintro other ⟨⟩
  exact plain

/-- A value of the kind of a truth value is one. -/
theorem bool_of_kind {flag : Bool} {value : JsonForm ν κ}
    (same : (JsonForm.bool flag : JsonForm ν κ).kind = value.kind) : value = .bool flag := by
  cases value with
  | bool other => cases flag <;> cases other <;> first | rfl | cases same
  | null | number | string | array | object => cases flag <;> cases same

/-- A value of the kind of a list is one. -/
theorem array_of_kind {value : JsonForm ν κ} (same : value.kind = 4) :
    ∃ items, value = .array items := by
  cases value with
  | array items => exact ⟨items, rfl⟩
  | bool flag => cases flag <;> cases same
  | null | number | string | object => cases same

/-- A value of the kind of a record is one. -/
theorem object_of_kind {value : JsonForm ν κ} (same : value.kind = 5) :
    ∃ fields, value = .object fields := by
  cases value with
  | object fields => exact ⟨fields, rfl⟩
  | bool flag => cases flag <;> cases same
  | null | number | string | array => cases same

/-- Numbers and names are written so that they can be read: a number has a character and only
characters of numbers, its text tells what is read of it, and names have different texts. -/
structure Readable (numeral : ν → List UInt16) (spelled : κ → JsString) (number : ν → μ) :
    Prop where
  written : ∀ value, numeral value ≠ []
  numerals : ∀ value, ∀ point ∈ numeral value, isNumeral point = true
  tells : ∀ left right, numeral left = numeral right → number left = number right
  names : Function.Injective spelled

/-! ## Reading a value back -/

section Read

variable {numeral : ν → List UInt16} {spelled : κ → JsString}

/-- A text that goes on after the items of a list does not go on with a numeral. -/
theorem ends_writeItemsRest (rest : List (JsonForm ν κ)) (tail : List UInt16) :
    Ends (writeItemsRest numeral spelled rest ++ unit ']' :: tail) := by
  cases rest with
  | nil => exact ends_rest (by decide)
  | cons item others => exact ends_rest (by decide)

/-- A text that goes on after the fields of a record does not go on with a numeral. -/
theorem ends_writeFieldsRest (rest : List (κ × JsonForm ν κ)) (tail : List UInt16) :
    Ends (writeFieldsRest numeral spelled rest ++ unit '}' :: tail) := by
  cases rest with
  | nil => exact ends_rest (by decide)
  | cons field others => exact ends_rest (by decide)

/-- What follows an item tells the items behind it. -/
theorem writeItems_of_rest {left right : List (JsonForm ν κ)} {leftTail rightTail : List UInt16}
    (same : writeItemsRest numeral spelled left ++ unit ']' :: leftTail =
      writeItemsRest numeral spelled right ++ unit ']' :: rightTail) :
    writeItems numeral spelled left ++ unit ']' :: leftTail =
      writeItems numeral spelled right ++ unit ']' :: rightTail := by
  cases left with
  | nil =>
    cases right with
    | nil => exact same
    | cons item rest => exact absurd (List.cons.inj same).1 (by decide)
  | cons first others =>
    cases right with
    | nil => exact absurd (List.cons.inj same).1 (by decide)
    | cons item rest => exact (List.cons.inj same).2

/-- What follows a field tells the fields behind it. -/
theorem writeFields_of_rest {left right : List (κ × JsonForm ν κ)}
    {leftTail rightTail : List UInt16}
    (same : writeFieldsRest numeral spelled left ++ unit '}' :: leftTail =
      writeFieldsRest numeral spelled right ++ unit '}' :: rightTail) :
    writeFields numeral spelled left ++ unit '}' :: leftTail =
      writeFields numeral spelled right ++ unit '}' :: rightTail := by
  cases left with
  | nil =>
    cases right with
    | nil => exact same
    | cons field rest => exact absurd (List.cons.inj same).1 (by decide)
  | cons first others =>
    cases right with
    | nil => exact absurd (List.cons.inj same).1 (by decide)
    | cons field rest => exact (List.cons.inj same).2

/-- Fields in front of a closing brace are fields behind the first one, or none. -/
theorem writeFields_ne_close {field : κ × JsonForm ν κ} {rest : List (κ × JsonForm ν κ)}
    {tail closed : List UInt16} :
    writeFields numeral spelled (field :: rest) ++ tail ≠ unit '}' :: closed := by
  obtain ⟨name, value⟩ := field
  intro same
  rw [writeFields_cons, quote, List.cons_append, List.cons_append, List.cons_append,
    List.cons_append] at same
  exact absurd (List.cons.inj same).1 (by decide)

variable {number : ν → μ} (readable : Readable numeral spelled number)

include readable

/-- The text of a value begins with its kind. -/
theorem write_start (value : JsonForm ν κ) :
    ∃ first rest, write numeral spelled value = first :: rest ∧ startKind first = value.kind := by
  cases value with
  | null => exact ⟨_, _, rfl, rfl⟩
  | bool value => cases value <;> exact ⟨_, _, rfl, rfl⟩
  | string text => exact ⟨_, _, rfl, rfl⟩
  | array items => exact ⟨_, _, rfl, rfl⟩
  | object fields => exact ⟨_, _, rfl, rfl⟩
  | number value =>
    obtain ⟨first, rest, units⟩ := List.exists_cons_of_ne_nil (readable.written value)
    have numerals : isNumeral first = true :=
      readable.numerals value first (by rw [units]; exact List.mem_cons_self)
    have other (c : Char) (letter : isNumeral (unit c) = false) : first ≠ unit c := by
      intro same
      rw [same, letter] at numerals
      cases numerals
    refine ⟨first, rest, units, ?_⟩
    rw [startKind, if_neg (other 'n' (by decide)), if_neg (other 't' (by decide)),
      if_neg (other 'f' (by decide)), if_neg (other '"' (by decide)),
      if_neg (other '[' (by decide)), if_neg (other '{' (by decide)), if_pos numerals]
    rfl

/-- Texts that go on in the same way begin with values of the same kind. -/
theorem kind_of_write {left right : JsonForm ν κ} {leftTail rightTail : List UInt16}
    (same : write numeral spelled left ++ leftTail = write numeral spelled right ++ rightTail) :
    left.kind = right.kind := by
  obtain ⟨first, rest, written, starts⟩ := write_start readable left
  obtain ⟨other, others, otherWritten, otherStarts⟩ := write_start readable right
  rw [written, otherWritten, List.cons_append, List.cons_append] at same
  rw [← starts, ← otherStarts, (List.cons.inj same).1]

/-- Items in front of a closing bracket are items behind the first one, or none. -/
theorem writeItems_ne_close {item : JsonForm ν κ} {rest : List (JsonForm ν κ)}
    {tail closed : List UInt16} :
    writeItems numeral spelled (item :: rest) ++ tail ≠ unit ']' :: closed := by
  intro same
  obtain ⟨first, others, written, starts⟩ := write_start readable item
  rw [writeItems_cons, written, List.cons_append, List.cons_append] at same
  rw [(List.cons.inj same).1] at starts
  have other : startKind (unit ']') = 7 := rfl
  rw [other] at starts
  cases item with
  | bool value => cases value <;> cases starts
  | null | number | string | array | object => cases starts

/-- A number is read back from a text that does not go on with a numeral. -/
theorem numeral_append_inj {left right : ν} {leftTail rightTail : List UInt16}
    (leftEnds : Ends leftTail) (rightEnds : Ends rightTail)
    (same : numeral left ++ leftTail = numeral right ++ rightTail) :
    number left = number right ∧ leftTail = rightTail := by
  have numerals {value : ν} {tail : List UInt16} (ends : Ends tail) :
      (numeral value ++ tail).takeWhile isNumeral = numeral value := by
    rw [List.takeWhile_append_of_pos (readable.numerals value)]
    cases tail with
    | nil => simp
    | cons first rest =>
      rw [List.takeWhile_cons_of_neg (by simp [ends first rfl]), List.append_nil]
  have units : numeral left = numeral right := by
    rw [← numerals leftEnds, same, numerals rightEnds]
  refine ⟨readable.tells left right units, ?_⟩
  rw [units] at same
  exact List.append_cancel_left same

/-- A value that is no list and no record is read back from its text. -/
theorem scalar_append_inj {left right : JsonForm ν κ} {leftTail rightTail : List UInt16}
    (leftEnds : Ends leftTail) (rightEnds : Ends rightTail)
    (same : write numeral spelled left ++ leftTail = write numeral spelled right ++ rightTail)
    (list : left.kind ≠ 4) (record : left.kind ≠ 5) :
    left.mapNumber number = right.mapNumber number ∧ leftTail = rightTail := by
  have kinds := kind_of_write readable same
  cases left with
  | array => exact absurd rfl list
  | object => exact absurd rfl record
  | bool flag =>
    obtain rfl := bool_of_kind kinds
    exact ⟨rfl, List.append_cancel_left same⟩
  | null =>
    cases right with
    | null => exact ⟨rfl, List.append_cancel_left same⟩
    | bool flag => cases flag <;> cases kinds
    | number | string | array | object => cases kinds
  | number first =>
    cases right with
    | number second =>
      obtain ⟨values, tails⟩ := numeral_append_inj readable leftEnds rightEnds same
      exact ⟨congrArg JsonForm.number values, tails⟩
    | bool flag => cases flag <;> cases kinds
    | null | string | array | object => cases kinds
  | string first =>
    cases right with
    | string second =>
      obtain ⟨rfl, tails⟩ := quote_inj same
      exact ⟨rfl, tails⟩
    | bool flag => cases flag <;> cases kinds
    | null | number | array | object => cases kinds

mutual

/-- A value is read back from its text, whatever follows it. -/
theorem write_append_inj (left right : JsonForm ν κ) {leftTail rightTail : List UInt16}
    (leftEnds : Ends leftTail) (rightEnds : Ends rightTail)
    (same : write numeral spelled left ++ leftTail = write numeral spelled right ++ rightTail) :
    left.mapNumber number = right.mapNumber number ∧ leftTail = rightTail := by
  have kinds := kind_of_write readable same
  match left with
  | .array first =>
    obtain ⟨second, rfl⟩ := array_of_kind kinds.symm
    simp only [write, List.cons_append, List.append_assoc, List.nil_append, List.cons.injEq,
      true_and] at same
    obtain ⟨items, tails⟩ := writeItems_append_inj first second same
    exact ⟨by rw [mapNumber, mapNumber, items], tails⟩
  | .object first =>
    obtain ⟨second, rfl⟩ := object_of_kind kinds.symm
    simp only [write, List.cons_append, List.append_assoc, List.nil_append, List.cons.injEq,
      true_and] at same
    obtain ⟨fields, tails⟩ := writeFields_append_inj first second same
    exact ⟨by rw [mapNumber, mapNumber, fields], tails⟩
  | .null => exact scalar_append_inj readable leftEnds rightEnds same (nofun) (nofun)
  | .number _ => exact scalar_append_inj readable leftEnds rightEnds same (nofun) (nofun)
  | .string _ => exact scalar_append_inj readable leftEnds rightEnds same (nofun) (nofun)
  | .bool flag =>
    exact scalar_append_inj readable leftEnds rightEnds same (by cases flag <;> exact nofun)
      (by cases flag <;> exact nofun)
termination_by sizeOf left

/-- Items are read back from the text of a list. -/
theorem writeItems_append_inj (left right : List (JsonForm ν κ)) {leftTail rightTail : List UInt16}
    (same : writeItems numeral spelled left ++ unit ']' :: leftTail =
      writeItems numeral spelled right ++ unit ']' :: rightTail) :
    mapItems number left = mapItems number right ∧ leftTail = rightTail := by
  match left, right with
  | [], [] => exact ⟨rfl, (List.cons.inj same).2⟩
  | [], item :: rest => exact absurd same.symm (writeItems_ne_close readable)
  | item :: rest, [] => exact absurd same (writeItems_ne_close readable)
  | first :: rest, second :: others =>
    rw [writeItems_cons, writeItems_cons, List.append_assoc, List.append_assoc] at same
    obtain ⟨item, tails⟩ := write_append_inj first second (ends_writeItemsRest rest _)
      (ends_writeItemsRest others _) same
    obtain ⟨items, ends⟩ := writeItems_append_inj rest others (writeItems_of_rest tails)
    exact ⟨by rw [mapItems, mapItems, item, items], ends⟩
termination_by sizeOf left

/-- Fields are read back from the text of a record. -/
theorem writeFields_append_inj (left right : List (κ × JsonForm ν κ))
    {leftTail rightTail : List UInt16}
    (same : writeFields numeral spelled left ++ unit '}' :: leftTail =
      writeFields numeral spelled right ++ unit '}' :: rightTail) :
    mapFields number left = mapFields number right ∧ leftTail = rightTail := by
  match left, right with
  | [], [] => exact ⟨rfl, (List.cons.inj same).2⟩
  | [], field :: rest => exact absurd same.symm writeFields_ne_close
  | field :: rest, [] => exact absurd same writeFields_ne_close
  | (name, first) :: rest, (other, second) :: others =>
    rw [writeFields_cons, writeFields_cons] at same
    simp only [List.append_assoc, List.cons_append] at same
    obtain ⟨names, values⟩ := quote_inj same
    obtain ⟨value, tails⟩ := write_append_inj first second (ends_writeFieldsRest rest _)
      (ends_writeFieldsRest others _) (List.cons.inj values).2
    obtain ⟨fields, ends⟩ := writeFields_append_inj rest others (writeFields_of_rest tails)
    exact ⟨by rw [mapFields, mapFields, readable.names names, value, fields], ends⟩
termination_by sizeOf left

end

/-- Values with the same text are the same as far as their numbers are read. -/
theorem write_inj {left right : JsonForm ν κ}
    (same : write numeral spelled left = write numeral spelled right) :
    left.mapNumber number = right.mapNumber number := by
  have none : Ends [] := by
    rintro first ⟨⟩
  refine (write_append_inj readable left right none none ?_).1
  rw [same]

end Read

end JsonForm

end Crewon.Js
