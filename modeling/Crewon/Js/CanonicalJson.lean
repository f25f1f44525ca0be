import Crewon.Domain.Failure
import Crewon.Js.FiniteNumber
import Crewon.Js.TextOrder
import Mathlib.Data.List.Sort

/-!
# JSON texts of values with their keys in order

The program rebuilds a value with the keys of every record in order before it writes it, so that
values that differ only in the order of their keys have the same text. A record lists the keys that
are array indices first, whatever order they were set in.
-/

namespace Crewon.Js

open Crewon.Checked Crewon.Domain

/-- A JSON value of the host language. -/
abbrev Json := JsonForm FiniteNumber JsString

namespace Json

/-- The fields of a record. -/
abbrev Fields := List (JsString × Json)

/-- The JSON text of a value. -/
def stringify (value : Json) : JsString :=
  ⟨JsonForm.write (fun number : FiniteNumber => number.text.units) (fun name => name) value⟩

/-! ## The order of keys -/

/-- The largest array index, and one more. -/
def maxArrayLength : Nat := 2 ^ 32 - 1

/-- The array index that a key is. -/
def arrayIndex (key : JsString) : Option Nat :=
  let number := key.units.foldl (fun read point => 10 * read + (point.toNat - 48)) 0
  if key.units.all isDigit then
    if js (Nat.repr number) = key ∧ number < maxArrayLength then some number else none
  else none

section Order

variable {α : Type}

/-- Fields in the order of their names. -/
def sortByName (fields : List (JsString × α)) : List (JsString × α) :=
  fields.insertionSort fun left right => left.1 ≤ right.1

/-- Fields in the order in which a record lists them that they were set in. -/
def ownOrder (fields : List (JsString × α)) : List (JsString × α) :=
  ((fields.filter fun field => (arrayIndex field.1).isSome).insertionSort fun left right =>
      (arrayIndex left.1).getD 0 ≤ (arrayIndex right.1).getD 0) ++
    fields.filter fun field => (arrayIndex field.1).isNone

/-- The record of entries: every key becomes a field of its own. -/
def fromEntries (entries : List (JsString × α)) : List (JsString × α) := ownOrder entries

/-- The key that stands for the prototype of a record when it is assigned to. -/
def protoKey : JsString := js "__proto__"

/-- An empty record that entries are assigned to: the key of the prototype becomes no field. -/
def assignEach (entries : List (JsString × α)) : List (JsString × α) :=
  ownOrder (entries.filter fun entry => entry.1 ≠ protoKey)

end Order

/-! ## Rebuilding a value -/

/-- The deepest nesting of a value. -/
def maxDepth : Nat := 32

/-- How a value is rebuilt: which texts are accepted, what a record is built from its entries, and
the rejection of other values. -/
structure Rebuilding where
  accepts : JsString → Bool
  build : Fields → Fields
  failure : Failure

mutual

/-- The value with the keys of every record in order, at a depth. -/
def stabilize (rules : Rebuilding) (value : Json) (depth : Nat) : Checked Json :=
  if maxDepth < depth then .error rules.failure
  else
    match value with
    | .null => .ok .null
    | .bool flag => .ok (.bool flag)
    | .string text => do
      rejectIf (rules.accepts text = false) rules.failure
      return .string text
    | .number number => .ok (.number number)
    | .array items => (stabilizeItems rules items (depth + 1)).map .array
    | .object fields => do
      let entries ← stabilizeFields rules fields (depth + 1)
      return .object (rules.build (sortByName entries))

/-- The items at a depth. -/
def stabilizeItems (rules : Rebuilding) (items : List Json) (depth : Nat) : Checked (List Json) :=
  match items with
  | [] => .ok []
  | item :: rest => do
    let first ← stabilize rules item depth
    let others ← stabilizeItems rules rest depth
    return first :: others

/-- The fields at a depth. -/
def stabilizeFields (rules : Rebuilding) (fields : Fields) (depth : Nat) : Checked Fields :=
  match fields with
  | [] => .ok []
  | (key, value) :: rest => do
    rejectIf (rules.accepts key = false) rules.failure
    let first ← stabilize rules value depth
    let others ← stabilizeFields rules rest depth
    return (key, first) :: others

end

mutual

/-- The value that is rebuilt. -/
def rebuilt (build : Fields → Fields) : Json → Json
  | .array items => .array (rebuiltItems build items)
  | .object fields => .object (build (sortByName (rebuiltFields build fields)))
  | value => value

/-- The items that are rebuilt. -/
def rebuiltItems (build : Fields → Fields) : List Json → List Json
  | [] => []
  | item :: rest => rebuilt build item :: rebuiltItems build rest

/-- The fields that are rebuilt. -/
def rebuiltFields (build : Fields → Fields) : Fields → Fields
  | [] => []
  | (key, value) :: rest => (key, rebuilt build value) :: rebuiltFields build rest

end

mutual

/-- What is rebuilt of an accepted value does not depend on what is accepted. -/
theorem rebuilt_of_stabilize {rules : Rebuilding} : ∀ (value : Json) {depth : Nat} {result : Json},
    stabilize rules value depth = .ok result → result = rebuilt rules.build value
  | .null, depth, result, accepted | .bool _, depth, result, accepted
  | .number _, depth, result, accepted => by
    rw [stabilize] at accepted
    split_ifs at accepted
    cases accepted
    rfl
  | .string text, depth, result, accepted => by
    rw [stabilize] at accepted
    split_ifs at accepted
    simp only [bind_eq_ok, exists_unit, pure_eq_ok] at accepted
    exact accepted.2.symm
  | .array items, depth, result, accepted => by
    rw [stabilize] at accepted
    split_ifs at accepted
    cases rest : stabilizeItems rules items (depth + 1) with
    | error => simp [rest, Except.map] at accepted
    | ok rebuiltRest =>
      rw [rest] at accepted
      cases accepted
      rw [rebuilt, rebuiltItems_of_stabilize items rest]
  | .object fields, depth, result, accepted => by
    rw [stabilize] at accepted
    split_ifs at accepted
    simp only [bind_eq_ok, pure_eq_ok] at accepted
    obtain ⟨entries, rest, rfl⟩ := accepted
    rw [rebuilt, rebuiltFields_of_stabilize fields rest]

/-- What is rebuilt of accepted items. -/
theorem rebuiltItems_of_stabilize {rules : Rebuilding} : ∀ (items : List Json) {depth : Nat}
    {result : List Json}, stabilizeItems rules items depth = .ok result →
      result = rebuiltItems rules.build items
  | [], depth, result, accepted => by
    rw [stabilizeItems] at accepted
    cases accepted
    rfl
  | item :: rest, depth, result, accepted => by
    rw [stabilizeItems] at accepted
    simp only [bind_eq_ok, pure_eq_ok] at accepted
    obtain ⟨first, head, others, tail, rfl⟩ := accepted
    rw [rebuiltItems, rebuilt_of_stabilize item head, rebuiltItems_of_stabilize rest tail]

/-- What is rebuilt of accepted fields. -/
theorem rebuiltFields_of_stabilize {rules : Rebuilding} : ∀ (fields : Fields) {depth : Nat}
    {result : Fields}, stabilizeFields rules fields depth = .ok result →
      result = rebuiltFields rules.build fields
  | [], depth, result, accepted => by
    rw [stabilizeFields] at accepted
    cases accepted
    rfl
  | (key, value) :: rest, depth, result, accepted => by
    rw [stabilizeFields] at accepted
    simp only [bind_eq_ok, exists_unit, pure_eq_ok] at accepted
    obtain ⟨_, first, head, others, tail, rfl⟩ := accepted
    rw [rebuiltFields, rebuilt_of_stabilize value head, rebuiltFields_of_stabilize rest tail]

end

end Json

end Crewon.Js
