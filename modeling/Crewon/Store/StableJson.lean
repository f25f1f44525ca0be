import Crewon.Js.CanonicalJson

/-!
# Stable JSON of the store

The store compares requests by their JSON texts with the keys in order. A record is rebuilt by
assigning to an empty one, so a key that stands for the prototype becomes no field.
-/

namespace Crewon.Store.StoreInvariants

open Crewon.Js Crewon.Checked Crewon.Domain Json

/-- How the store rebuilds a value. -/
def rules : Rebuilding where
  accepts _ := true
  build := assignEach
  failure := ⟨.store, "non_json_value"⟩

/-- The value with its keys in order, at a depth. -/
def stabilize (value : Json) (depth : Nat) : Checked Json := Json.stabilize rules value depth

/-- The text of a value with its keys in order. -/
def stableJson (value : Json) : Checked JsString := (stabilize value 0).map stringify

end Crewon.Store.StoreInvariants
