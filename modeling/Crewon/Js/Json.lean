import Crewon.Js.Number
import Crewon.Js.Text

/-!
# The size of a value written as JSON

The program bounds records by the length of their JSON text in UTF-8. Only that length
matters to it, so the values here carry what the length depends on.
-/

namespace Crewon.Js

/-- A value as the host's JSON writer sees it. Field names are plain ASCII. -/
inductive JsonValue where
  /-- The absent value. -/
  | null
  /-- A truth value. -/
  | bool (value : Bool)
  /-- A number; every number the program measures is an integer. -/
  | number (value : Int)
  /-- A text. -/
  | string (value : JsString)
  /-- A list of values. -/
  | array (items : List JsonValue)
  /-- A record, as its fields in order. -/
  | object (fields : List (String × JsonValue))

/-- The bytes of one code point inside a JSON text. -/
def escapedWidth (point : Nat) : Nat :=
  if point = 0x22 ∨ point = 0x5C ∨ point = 8 ∨ point = 9 ∨ point = 10 ∨ point = 12 ∨ point = 13
  then 2
  else if point < 0x20 ∨ (0xD800 ≤ point ∧ point < 0xE000) then 6
  else JsString.utf8Width point

/-- The bytes of a text with its quotes. -/
def quotedWidth (text : JsString) : Nat := 2 + (text.codePoints.map escapedWidth).sum

mutual

/-- The length of the JSON text in UTF-8. -/
def JsonValue.encodedSize : JsonValue → Nat
  | .null => 4
  | .bool value => if value then 4 else 5
  | .number value => decimalWidth value
  | .string value => quotedWidth value
  | .array items => 2 + (items.length - 1) + JsonValue.itemsSize items
  | .object fields => 2 + (fields.length - 1) + JsonValue.fieldsSize fields

/-- The bytes of the items without the separators. -/
def JsonValue.itemsSize : List JsonValue → Nat
  | [] => 0
  | item :: rest => item.encodedSize + JsonValue.itemsSize rest

/-- The bytes of the fields without the separators. -/
def JsonValue.fieldsSize : List (String × JsonValue) → Nat
  | [] => 0
  | (name, value) :: rest =>
    name.length + 3 + value.encodedSize + JsonValue.fieldsSize rest

end

/-- A text that may be absent. -/
def JsonValue.ofOption {α : Type} (write : α → JsonValue) : Option α → JsonValue
  | none => .null
  | some value => write value

/-- A field that may be missing, as the fields of its JSON. -/
def JsonValue.optionalField {α : Type} (name : String) (write : α → JsonValue) :
    Option (Option α) → List (String × JsonValue)
  | none => []
  | some value => [(name, .ofOption write value)]

example : (JsonValue.object [("a", .number 12), ("b", .array [.null, .bool true])]).encodedSize =
    24 := by decide

end Crewon.Js
