import Crewon.Contracts.DeviceProtocol
import Crewon.Js.TextOrder
import Crewon.Lib.DepthFirst
import Crewon.Lib.OrderedMap

/-!
# The composition of plugins

Plugins declare the services that they provide and require, by name and version. A composition is
accepted when every service has one provider, what has to be there is there, and no plugin needs
itself; it is activated in an order in which providers come before consumers.
-/

namespace Crewon.Contracts.PluginComposition

open Crewon.Js Crewon.Checked Crewon.Domain Crewon.Lib

/-- A service that a plugin requires. -/
structure PluginServiceRequirement where
  service : JsString
  apiVersion : JsString
  optional : Bool
deriving DecidableEq

/-- A service that a plugin provides. -/
structure PluginServiceProvision where
  service : JsString
  apiVersion : JsString
deriving DecidableEq

/-- A plugin of a composition. It is parsed before it gets here, and then provides no service
twice. -/
structure PluginCompositionNode where
  pluginId : JsString
  packageDigest : JsString
  requires : List PluginServiceRequirement
  provides : List PluginServiceProvision
  providesOnce : (provides.map PluginServiceProvision.service).Nodup
deriving DecidableEq

/-- A service of the host. -/
structure PluginCompositionHostService where
  service : JsString
  apiVersion : JsString
  implementationId : JsString
  implementationRevision : Int
deriving DecidableEq

/-- Who provides a required service. -/
inductive Provider where
  | plugin (pluginId packageDigest : JsString)
  | host (implementationId : JsString) (implementationRevision : Int)
  | absent
deriving DecidableEq

/-- A requirement of a plugin and who meets it. -/
structure PluginCompositionEdge where
  consumerPluginId : JsString
  service : JsString
  apiVersion : JsString
  provider : Provider
deriving DecidableEq

/-- A rejection of a composition. -/
def compositionFail (code : String) : Failure := contractError code

/-- The key of a service and a version. -/
def hostKey (service apiVersion : JsString) : JsString := stringifyPair (some service) apiVersion

/-- Declare keys one after the other, each for the first time and none that is reserved. -/
def declareEach {ν : Type} (reserved : JsString → Bool) :
    List (JsString × ν) → OrderedMap JsString ν → Checked (OrderedMap JsString ν)
  | [], declared => .ok declared
  | (key, value) :: rest, declared => do
    rejectIf (reserved key = true ∨ (declared.find key).isSome = true)
      (compositionFail "plugin_composition_service_conflict")
    declareEach reserved rest (declared.set key value)

/-- The services of the host by service and version. -/
def hostsOf (hostServices : List PluginCompositionHostService) :
    Checked (OrderedMap JsString PluginCompositionHostService) :=
  declareEach (fun _ => false)
    (hostServices.map fun host => (hostKey host.service host.apiVersion, host)) .empty

/-- What every plugin provides, by service. -/
def provisions (nodes : List PluginCompositionNode) :
    List (JsString × PluginCompositionNode × JsString) :=
  nodes.flatMap fun node =>
    node.provides.map fun provision => (provision.service, node, provision.apiVersion)

/-- The plugins that provide services, by service; the host provides no service of theirs. -/
def providersOf (nodes : List PluginCompositionNode)
    (hostServices : List PluginCompositionHostService) :
    Checked (OrderedMap JsString (PluginCompositionNode × JsString)) :=
  declareEach (fun service => decide (service ∈ hostServices.map (·.service))) (provisions nodes)
    .empty

/-- Who meets a requirement. -/
def providerFor (hosts : OrderedMap JsString PluginCompositionHostService)
    (providers : OrderedMap JsString (PluginCompositionNode × JsString))
    (requirement : PluginServiceRequirement) : Checked Provider :=
  match hosts.find (hostKey requirement.service requirement.apiVersion) with
  | some host => .ok (.host host.implementationId host.implementationRevision)
  | none =>
    match providers.find requirement.service with
    | some (node, apiVersion) =>
      if apiVersion = requirement.apiVersion then .ok (.plugin node.pluginId node.packageDigest)
      else if requirement.optional then .ok .absent
      else .error (compositionFail "plugin_composition_dependency_unavailable")
    | none =>
      if requirement.optional then .ok .absent
      else .error (compositionFail "plugin_composition_dependency_unavailable")

/-- The edges of requirements, each with the plugin that has it. -/
def edgesFor (hosts : OrderedMap JsString PluginCompositionHostService)
    (providers : OrderedMap JsString (PluginCompositionNode × JsString)) :
    List (PluginCompositionNode × PluginServiceRequirement) → Checked (List PluginCompositionEdge)
  | [] => .ok []
  | (node, requirement) :: rest => do
    let provider ← providerFor hosts providers requirement
    let others ← edgesFor hosts providers rest
    return ⟨node.pluginId, requirement.service, requirement.apiVersion, provider⟩ :: others

/-- What every plugin requires. -/
def requirements (nodes : List PluginCompositionNode) :
    List (PluginCompositionNode × PluginServiceRequirement) :=
  nodes.flatMap fun node => node.requires.map fun requirement => (node, requirement)

/-- The plugin of an edge that is provided by one. -/
def pluginOf (edge : PluginCompositionEdge) : Option JsString :=
  match edge.provider with
  | .plugin pluginId _ => some pluginId
  | .host _ _ | .absent => none

/-- The error of reading a plugin that is none. -/
def missingPlugin : Failure := ⟨.plain, "TypeError"⟩

/-- The error of calls that are nested too deep. -/
def callStackExceeded : Failure := ⟨.range, "RangeError"⟩

/-- The plugins that a plugin needs, in order. -/
def dependenciesOf (nodes : List PluginCompositionNode) (edges : List PluginCompositionEdge)
    (pluginId : JsString) : Checked (List JsString) :=
  if pluginId ∈ nodes.map (·.pluginId) then
    .ok (((edges.filter fun edge => edge.consumerPluginId = pluginId).filterMap
      pluginOf).dedup.insertionSort (· ≤ ·))
  else .error missingPlugin

/-- The plugins in the order in which they are activated. -/
def compositionActivationOrder (nodes : List PluginCompositionNode)
    (edges : List PluginCompositionEdge) : Checked (List JsString) := do
  rejectIf ((edges.any fun edge => (pluginOf edge).isSome &&
    decide (edge.consumerPluginId ∉ nodes.map (·.pluginId))) = true) missingPlugin
  DepthFirst.traverse (compositionFail "plugin_composition_dependency_cycle") callStackExceeded
    (dependenciesOf nodes edges) (nodes.map (·.pluginId))

/-- The edges of a composition. -/
def compositionEdges (nodes : List PluginCompositionNode)
    (hostServices : List PluginCompositionHostService) : Checked (List PluginCompositionEdge) := do
  rejectIf (¬ (nodes.map (·.pluginId)).Nodup ∨ ¬ (nodes.map (·.packageDigest)).Nodup)
    (compositionFail "plugin_composition_node_conflict")
  let hosts ← hostsOf hostServices
  let providers ← providersOf nodes hostServices
  let edges ← edgesFor hosts providers (requirements nodes)
  let _ ← compositionActivationOrder nodes edges
  return edges

end Crewon.Contracts.PluginComposition
