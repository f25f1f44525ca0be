import Crewon.Contracts.DeviceProtocol
import Crewon.Lib.OrderedMap
import Crewon.Lib.Trace

/-!
# The kinds of device executions

All kinds of commands share one space of execution ids. Which kind an id belongs to is said once and
stays so after the execution has ended.
-/

namespace Crewon.Gateway

open Crewon.Js Crewon.Checked Crewon.Domain Crewon.Contracts Crewon.Lib

/-- A rejection of the gateway. -/
def gatewayError (code : String) : Failure := ⟨.deviceGateway, code⟩

/-- The kinds of commands. -/
inductive DeviceExecutionCommandKind where
  | tool
  | workspaceList
  | workspaceRead
deriving DecidableEq

/-- The kinds of the ids that are taken. -/
abbrev DeviceExecutionKinds := OrderedMap JsString DeviceExecutionCommandKind

/-- Reject a text that is no execution id. -/
def requireExecutionId (value : JsString) : Checked Unit :=
  rejectIf (isWireId value = false) (gatewayError "device_execution_id_invalid")

namespace DeviceExecutionKinds

/-- Take an id for a kind. -/
def claim (kinds : DeviceExecutionKinds) (executionId : JsString)
    (kind : DeviceExecutionCommandKind) : Checked DeviceExecutionKinds := do
  requireExecutionId executionId
  whenPresent (kinds.find executionId) fun current =>
    rejectIf (current ≠ kind) (gatewayError "device_dispatch_kind_conflict")
  return OrderedMap.set kinds executionId kind

/-- The kind of an id. -/
def kind (kinds : DeviceExecutionKinds) (executionId : JsString) :
    Checked (Option DeviceExecutionCommandKind) := do
  requireExecutionId executionId
  return kinds.find executionId

/-- An id is taken when it was free or belongs to the same kind. -/
theorem claim_eq_ok {kinds result : DeviceExecutionKinds} {executionId : JsString}
    {kind : DeviceExecutionCommandKind} :
    kinds.claim executionId kind = .ok result ↔ isWireId executionId = true ∧
      (∀ current, kinds.find executionId = some current → current = kind) ∧
        OrderedMap.set kinds executionId kind = result := by
  simp only [claim, requireExecutionId, bind_eq_ok, exists_unit, rejectIf_eq_ok, whenPresent_eq_ok,
    pure_eq_ok, Bool.not_eq_false, ne_eq, not_not]

/-- The kind of an id is read off the ids that are taken. -/
theorem kind_eq_ok {kinds : DeviceExecutionKinds} {executionId : JsString}
    {result : Option DeviceExecutionCommandKind} :
    kinds.kind executionId = .ok result ↔
      isWireId executionId = true ∧ kinds.find executionId = result := by
  simp only [kind, requireExecutionId, bind_eq_ok, exists_unit, rejectIf_eq_ok, pure_eq_ok,
    Bool.not_eq_false]

end DeviceExecutionKinds

end Crewon.Gateway
