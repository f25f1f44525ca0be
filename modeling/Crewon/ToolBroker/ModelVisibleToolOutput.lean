import Crewon.Context.GovernedContext

/-!
# What a model sees of the output of a tool

An output that is too long is cut in the middle: a beginning and an end of whole characters stay,
with a line between them that says how many bytes are left out.
-/

namespace Crewon.ToolBroker

open Crewon.Js Crewon.Domain Crewon.Context

/-- What a model sees. -/
structure ModelVisibleToolOutput where
  output : JsString
  truncated : Bool
deriving DecidableEq

/-- The most bytes that a model sees. -/
def maxModelVisibleToolOutputBytes : Nat := 40000

/-- Characters in a row. -/
def join (values : List JsString) : JsString := ⟨values.flatMap JsString.units⟩

/-- Their bytes. -/
def bytesOf (values : List JsString) : Nat := (values.map JsString.byteLength).sum

/-- Take entries as long as their bytes fit the budget. -/
def takeFitting (budget : Nat) : Nat → List JsString → List JsString
  | _, [] => []
  | bytes, value :: rest =>
    if bytes + value.byteLength ≤ budget then
      value :: takeFitting budget (bytes + value.byteLength) rest
    else []

/-- The line in the place of what is left out. -/
def omissionMarker (omittedBytes : Int) : JsString :=
  js "\n…" ++ decimal omittedBytes ++ js " bytes truncated…\n"

/-- What a model sees of an output. -/
def modelVisibleToolOutput (output : JsString) : Checked ModelVisibleToolOutput :=
  let totalBytes := output.byteLength
  if totalBytes ≤ maxModelVisibleToolOutputBytes then .ok ⟨output, false⟩
  else
    let entries := characters output
    let contentBudget := maxModelVisibleToolOutputBytes - 64
    let halfBudget := contentBudget / 2
    let head := takeFitting halfBudget 0 entries
    let headBytes := bytesOf head
    -- the end is taken from behind, out of what the beginning has left
    let tail :=
      (takeFitting (contentBudget - headBytes) 0 (entries.drop head.length).reverse).reverse
    let tailBytes := bytesOf tail
    let omittedBytes : Int := (totalBytes : Int) - headBytes - tailBytes
    let visible := join head ++ omissionMarker omittedBytes ++ join tail
    if maxModelVisibleToolOutputBytes < visible.byteLength then
      .error ⟨.toolBroker, "tool_output_truncation_failed"⟩
    else .ok ⟨visible, true⟩

end Crewon.ToolBroker
