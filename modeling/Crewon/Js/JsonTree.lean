import Crewon.Js.Json
import Crewon.Js.JsonForm

/-!
# The size of a JSON text

The bytes of the JSON text of a value whose fields have any names, with the bytes of its numbers as
a parameter.
-/

namespace Crewon.Js

namespace JsonForm

variable {ν : Type} (numberWidth : ν → Nat)

mutual

/-- The length of the JSON text in UTF-8. -/
def encodedSize : JsonForm ν JsString → Nat
  | .null => 4
  | .bool value => if value then 4 else 5
  | .number value => numberWidth value
  | .string value => quotedWidth value
  | .array items => 2 + (items.length - 1) + itemsSize items
  | .object fields => 2 + (fields.length - 1) + fieldsSize fields

/-- The bytes of the items without the separators. -/
def itemsSize : List (JsonForm ν JsString) → Nat
  | [] => 0
  | item :: rest => encodedSize item + itemsSize rest

/-- The bytes of the fields without the separators. -/
def fieldsSize : List (JsString × JsonForm ν JsString) → Nat
  | [] => 0
  | (name, value) :: rest => quotedWidth name + 1 + encodedSize value + fieldsSize rest

end

end JsonForm

end Crewon.Js
