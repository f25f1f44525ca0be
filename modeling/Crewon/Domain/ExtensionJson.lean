import Crewon.Domain.Failure
import Crewon.Js.StableJson
import Mathlib.Algebra.BigOperators.Group.List.Basic

/-!
# Bounded JSON

A value is walked before it is written: its nodes, its depth, its texts and the length of what is
written are bounded. The fields of every record are visited and written in the order of their names.
-/

namespace Crewon.Domain

open Crewon.Js Crewon.Checked

/-- A rejection of a value. -/
def extensionError (code : String) : Failure := ⟨.extensionManifest, code⟩

/-- How many nodes were visited, and how many bytes their texts have. -/
structure JsonVisit where
  nodes : Nat
  textBytes : Nat
deriving DecidableEq

/-- Visit one more node. -/
def visitNode (depth : Nat) (visit : JsonVisit) : Checked JsonVisit := do
  rejectIf (8192 < visit.nodes + 1 ∨ 24 < depth) (extensionError "extension_json_limit")
  return ⟨visit.nodes + 1, visit.textBytes⟩

/-- Visit a text. -/
def visitText (maxBytes depth : Nat) (text : JsString) (visit : JsonVisit) : Checked JsonVisit := do
  let visit ← visitNode depth visit
  rejectIf (text.hasLoneSurrogate = true) (extensionError "extension_json_invalid")
  rejectIf (maxBytes < visit.textBytes + text.byteLength) (extensionError "extension_json_limit")
  return ⟨visit.nodes, visit.textBytes + text.byteLength⟩

mutual

/-- Visit a value. -/
def visitJson (maxBytes depth : Nat) : JsonValue → JsonVisit → Checked JsonVisit
  | .string text, visit => visitText maxBytes depth text visit
  | .array items, visit => do
    let visit ← visitNode depth visit
    rejectIf (8192 < items.length) (extensionError "extension_json_invalid")
    visitItems maxBytes (depth + 1) items visit
  | .object fields, visit => do
    let visit ← visitNode depth visit
    rejectIf (256 < fields.length) (extensionError "extension_json_limit")
    visitFields maxBytes (depth + 1) fields visit
  | .null, visit => visitNode depth visit
  | .bool _, visit => visitNode depth visit
  | .number _, visit => visitNode depth visit

/-- Visit the items of a list. -/
def visitItems (maxBytes depth : Nat) : List JsonValue → JsonVisit → Checked JsonVisit
  | [], visit => return visit
  | item :: rest, visit => do
    let visit ← visitJson maxBytes depth item visit
    visitItems maxBytes depth rest visit

/-- Visit the fields of a record. -/
def visitFields (maxBytes depth : Nat) : List (String × JsonValue) → JsonVisit → Checked JsonVisit
  | [], visit => return visit
  | (name, value) :: rest, visit => do
    let visit ← visitText maxBytes depth (js name) visit
    let visit ← visitJson maxBytes depth value visit
    visitFields maxBytes depth rest visit

end

/-- A copy of a value with sorted fields, if it is within the bounds. -/
def copyExtensionJson (input : JsonValue) (maxBytes : Nat) : Checked JsonValue := do
  let _ ← visitJson maxBytes 0 input.stabilize ⟨0, 0⟩
  rejectIf (maxBytes < input.stabilize.encodedSize) (extensionError "extension_json_limit")
  return input.stabilize

/-- The JSON text of a value with sorted fields, if it is within the bounds. -/
def extensionCanonicalJson (value : JsonValue) : Checked JsString := do
  let copied ← copyExtensionJson value 65536
  return ⟨copied.write⟩

end Crewon.Domain
