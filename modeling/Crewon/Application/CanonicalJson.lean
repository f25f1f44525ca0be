import Crewon.Js.CanonicalJson

/-!
# Canonical JSON of the application

The application compares commands by their JSON texts with the keys in order. A record is rebuilt
from its entries, and a text with a lone surrogate is rejected.
-/

namespace Crewon.Application.CanonicalJson

open Crewon.Js Crewon.Checked Crewon.Domain Json

/-- Every surrogate of the units is one of a pair. -/
def isWellFormedUnits : List UInt16 → Bool
  | [] => true
  | codeUnit :: rest =>
    if JsString.isHigh codeUnit then
      match rest with
      | [] => false
      | next :: others => JsString.isLow next && isWellFormedUnits others
    else !JsString.isLow codeUnit && isWellFormedUnits rest

/-- Every surrogate of a text is one of a pair. -/
def isWellFormedUnicode (value : JsString) : Bool := isWellFormedUnits value.units

/-- How the application rebuilds a value. -/
def rules : Rebuilding where
  accepts := isWellFormedUnicode
  build := fromEntries
  failure := ⟨.applicationValidation, "command_non_json_value"⟩

/-- The value with its keys in order, at a depth. -/
def stabilize (value : Json) (depth : Nat) : Checked Json := Json.stabilize rules value depth

/-- The text of a value with its keys in order. -/
def canonicalJson (value : Json) : Checked JsString := (stabilize value 0).map stringify

end Crewon.Application.CanonicalJson
