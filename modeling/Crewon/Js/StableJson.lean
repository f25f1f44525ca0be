import Crewon.Js.Json
import Crewon.Js.JsonText

/-!
# JSON texts with sorted fields

The program writes a value with the fields of every record in the order of their names, so that
equal values have equal texts.
-/

namespace Crewon.Js

/-- An integer in decimal. -/
def decimal (value : Int) : JsString := js (toString value)

mutual

/-- The value with the fields of every record in the order of their names. -/
def JsonValue.stabilize : JsonValue → JsonValue
  | .array items => .array (JsonValue.stabilizeItems items)
  | .object fields => .object ((JsonValue.stabilizeFields fields).mergeSort fun left right =>
      !JsString.before (js right.1) (js left.1))
  | value => value

/-- The items with sorted fields. -/
def JsonValue.stabilizeItems : List JsonValue → List JsonValue
  | [] => []
  | item :: rest => item.stabilize :: JsonValue.stabilizeItems rest

/-- The fields with sorted fields inside them. -/
def JsonValue.stabilizeFields : List (String × JsonValue) → List (String × JsonValue)
  | [] => []
  | (name, value) :: rest => (name, value.stabilize) :: JsonValue.stabilizeFields rest

end

mutual

/-- The units of a value written as JSON. -/
def JsonValue.write : JsonValue → List UInt16
  | .null => (js "null").units
  | .bool value => if value then (js "true").units else (js "false").units
  | .number value => (decimal value).units
  | .string value => quote value
  | .array items => unit '[' :: JsonValue.writeItems items ++ [unit ']']
  | .object fields => unit '{' :: JsonValue.writeFields fields ++ [unit '}']

/-- The units of items with a comma between them. -/
def JsonValue.writeItems : List JsonValue → List UInt16
  | [] => []
  | [item] => item.write
  | item :: rest => item.write ++ unit ',' :: JsonValue.writeItems rest

/-- The units of fields with a comma between them. -/
def JsonValue.writeFields : List (String × JsonValue) → List UInt16
  | [] => []
  | [(name, value)] => quote (js name) ++ unit ':' :: value.write
  | (name, value) :: rest =>
    quote (js name) ++ unit ':' :: value.write ++ unit ',' :: JsonValue.writeFields rest

end

/-- The JSON text of a value with sorted fields. -/
def stableJson (value : JsonValue) : JsString := ⟨value.stabilize.write⟩

/-- Keys of a pair are its stable JSON text. -/
theorem stableJson_pair (first second : JsString) :
    stableJson (.array [.string first, .string second]) = stringifyPair (some first) second := by
  simp [stableJson, JsonValue.stabilize, JsonValue.stabilizeItems, JsonValue.write,
    JsonValue.writeItems, stringifyPair, quoteNullable]

end Crewon.Js
