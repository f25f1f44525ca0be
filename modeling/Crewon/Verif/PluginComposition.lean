import Crewon.Contracts.PluginComposition
import Mathlib

/-!
# Which compositions of plugins are accepted

A composition is accepted exactly when its plugins and its services have no conflicts, everything
that has to be there is there, and no plugin needs itself, directly or through others. The order of
activation then names every plugin after those that it needs.
-/

namespace Crewon.Verif.PluginComposition

open Crewon.Js Crewon.Checked Crewon.Domain Crewon.Lib Crewon.Contracts.PluginComposition

/-- A plugin provides a service in a version. -/
def Provides (node : PluginCompositionNode) (service apiVersion : JsString) : Prop :=
  ⟨service, apiVersion⟩ ∈ node.provides

/-- The host provides a service in a version. -/
def HostProvides (hostServices : List PluginCompositionHostService)
    (service apiVersion : JsString) : Prop :=
  ∃ host ∈ hostServices, host.service = service ∧ host.apiVersion = apiVersion

/-- A plugin requires a service, optional or not, that another one provides in that version. -/
def Needs (nodes : List PluginCompositionNode) (consumerId providerId : JsString) : Prop :=
  ∃ consumer ∈ nodes, ∃ provider ∈ nodes, consumer.pluginId = consumerId ∧
    provider.pluginId = providerId ∧
    ∃ requirement ∈ consumer.requires,
      Provides provider requirement.service requirement.apiVersion

/-- What a composition that is accepted satisfies. -/
structure Composable (nodes : List PluginCompositionNode)
    (hostServices : List PluginCompositionHostService) : Prop where
  /-- No two plugins have the same id. -/
  pluginIds : (nodes.map (·.pluginId)).Nodup
  /-- No two plugins have the same package. -/
  digests : (nodes.map (·.packageDigest)).Nodup
  /-- The host provides no service twice in the same version. -/
  hosts : (hostServices.map fun host => (host.service, host.apiVersion)).Nodup
  /-- No two plugins provide the same service. -/
  single : nodes.Pairwise fun first second => ∀ service firstVersion secondVersion,
    Provides first service firstVersion → ¬ Provides second service secondVersion
  /-- No plugin provides a service of the host. -/
  apart : ∀ node ∈ nodes, ∀ service apiVersion, Provides node service apiVersion →
    ∀ host ∈ hostServices, host.service ≠ service
  /-- What a plugin has to have is provided by the host or by a plugin. -/
  available : ∀ node ∈ nodes, ∀ requirement ∈ node.requires, requirement.optional = false →
    HostProvides hostServices requirement.service requirement.apiVersion ∨
      ∃ provider ∈ nodes, Provides provider requirement.service requirement.apiVersion
  /-- No plugin needs itself, directly or through others. -/
  acyclic : ∀ pluginId, ¬ Relation.TransGen (Needs nodes) pluginId pluginId

/-! ## Declarations -/

/-- Keys are declared when none is reserved and each is new. -/
theorem declareEach_eq_ok {ν : Type} {reserved : JsString → Bool} {entries : List (JsString × ν)}
    {declared result : OrderedMap JsString ν} :
    declareEach reserved entries declared = .ok result ↔
      (∀ entry ∈ entries, reserved entry.1 = false ∧ declared.find entry.1 = none) ∧
        (entries.map Prod.fst).Nodup ∧ result = declared.setAll entries := by
  induction entries generalizing declared with
  | nil =>
    exact ⟨fun same => ⟨nofun, List.nodup_nil, (Except.ok.inj same).symm⟩,
      fun ⟨_, _, same⟩ => congrArg Except.ok same.symm⟩
  | cons entry rest hypothesis =>
    obtain ⟨key, value⟩ := entry
    simp only [declareEach, bind_eq_ok, exists_unit, rejectIf_eq_ok, hypothesis, not_or,
      Bool.not_eq_true, Option.isSome_eq_false_iff, Option.isNone_iff_eq_none,
      List.forall_mem_cons, List.map_cons, List.nodup_cons, OrderedMap.setAll_cons]
    constructor
    · rintro ⟨first, others, distinct, rfl⟩
      have new : key ∉ rest.map Prod.fst := by
        intro member
        obtain ⟨other, held, same⟩ := List.mem_map.mp member
        have absent := (others other held).2
        rw [same, OrderedMap.find_set_self] at absent
        cases absent
      refine ⟨⟨first, fun other held => ⟨(others other held).1, ?_⟩⟩, ⟨new, distinct⟩, rfl⟩
      have different : other.1 ≠ key := fun same => new (same ▸ List.mem_map_of_mem held)
      have absent := (others other held).2
      rwa [OrderedMap.find_set_of_ne different] at absent
    · rintro ⟨⟨first, others⟩, ⟨new, distinct⟩, rfl⟩
      refine ⟨first, fun other held => ⟨(others other held).1, ?_⟩, distinct, rfl⟩
      have different : other.1 ≠ key := fun same => new (same ▸ List.mem_map_of_mem held)
      rw [OrderedMap.find_set_of_ne different]
      exact (others other held).2

/-- What is found after keys are declared. -/
theorem find_setAll_iff {ν : Type} {entries : List (JsString × ν)}
    (distinct : (entries.map Prod.fst).Nodup) {key : JsString} {value : ν} :
    ((OrderedMap.empty : OrderedMap JsString ν).setAll entries).find key = some value ↔
      (key, value) ∈ entries := by
  constructor
  · intro found
    rcases OrderedMap.mem_or_find_of_setAll found with member | nothing
    · exact member
    · cases nothing
  · intro member
    have present : (((OrderedMap.empty : OrderedMap JsString ν).setAll entries).find key).isSome =
        true := OrderedMap.find_setAll_isSome.mpr (.inr (List.mem_map_of_mem member))
    obtain ⟨other, found⟩ := Option.isSome_iff_exists.mp present
    rcases OrderedMap.mem_or_find_of_setAll found with held | nothing
    · have same := List.inj_on_of_nodup_map distinct held member rfl
      rw [found, (Prod.mk.inj same).2]
    · cases nothing

/-- The services of the host are declared when none is there twice in the same version. -/
theorem hostsOf_eq_ok {hostServices : List PluginCompositionHostService}
    {hosts : OrderedMap JsString PluginCompositionHostService} :
    hostsOf hostServices = .ok hosts ↔
      (hostServices.map fun host => (host.service, host.apiVersion)).Nodup ∧
        hosts = OrderedMap.empty.setAll
          (hostServices.map fun host => (hostKey host.service host.apiVersion, host)) := by
  have keys : (hostServices.map fun host => (hostKey host.service host.apiVersion, host)).map
      Prod.fst = (hostServices.map fun host => (host.service, host.apiVersion)).map
        fun pair => hostKey pair.1 pair.2 := by
    rw [List.map_map, List.map_map]
    rfl
  have tells : Function.Injective fun pair : JsString × JsString => hostKey pair.1 pair.2 := by
    intro left right same
    obtain ⟨services, versions⟩ := stringifyPair_inj same
    exact Prod.ext (Option.some.inj services) versions
  rw [hostsOf, declareEach_eq_ok, keys, List.nodup_map_iff tells]
  simp

/-- The provisions of plugins are declared when no two of them, and none of the host, are of the
same service. -/
theorem providersOf_eq_ok {nodes : List PluginCompositionNode}
    {hostServices : List PluginCompositionHostService}
    {providers : OrderedMap JsString (PluginCompositionNode × JsString)} :
    providersOf nodes hostServices = .ok providers ↔
      (∀ node ∈ nodes, ∀ service apiVersion, Provides node service apiVersion →
        ∀ host ∈ hostServices, host.service ≠ service) ∧
      (nodes.Pairwise fun first second => ∀ service firstVersion secondVersion,
        Provides first service firstVersion → ¬ Provides second service secondVersion) ∧
      providers = OrderedMap.empty.setAll (provisions nodes) := by
  have services : (provisions nodes).map Prod.fst =
      nodes.flatMap fun node => node.provides.map (·.service) := by
    rw [provisions, List.map_flatMap]
    congr 1
    funext node
    rw [List.map_map]
    rfl
  have provided (node : PluginCompositionNode) (service : JsString) :
      service ∈ node.provides.map (·.service) ↔ ∃ apiVersion, Provides node service apiVersion := by
    constructor
    · intro member
      obtain ⟨provision, held, rfl⟩ := List.mem_map.mp member
      exact ⟨provision.apiVersion, held⟩
    · rintro ⟨apiVersion, held⟩
      exact List.mem_map.mpr ⟨_, held, rfl⟩
  have disjoint (first second : PluginCompositionNode) :
      List.Disjoint (first.provides.map (·.service)) (second.provides.map (·.service)) ↔
        ∀ service firstVersion secondVersion, Provides first service firstVersion →
          ¬ Provides second service secondVersion := by
    constructor
    · intro apart service firstVersion secondVersion left right
      exact apart ((provided _ _).mpr ⟨_, left⟩) ((provided _ _).mpr ⟨_, right⟩)
    · intro apart service left right
      obtain ⟨firstVersion, left⟩ := (provided _ _).mp left
      obtain ⟨secondVersion, right⟩ := (provided _ _).mp right
      exact apart service firstVersion secondVersion left right
  have reserved : (∀ entry ∈ provisions nodes,
      decide (entry.1 ∈ hostServices.map (·.service)) = false ∧
        (OrderedMap.empty : OrderedMap JsString (PluginCompositionNode × JsString)).find entry.1 =
          none) ↔
      ∀ node ∈ nodes, ∀ service apiVersion, Provides node service apiVersion →
        ∀ host ∈ hostServices, host.service ≠ service := by
    constructor
    · intro free node member service apiVersion held host listed same
      have entry : (service, node, apiVersion) ∈ provisions nodes :=
        List.mem_flatMap.mpr ⟨node, member, List.mem_map.mpr ⟨_, held, rfl⟩⟩
      exact of_decide_eq_false (free _ entry).1 (List.mem_map.mpr ⟨host, listed, same⟩)
    · intro apart entry member
      obtain ⟨node, held, inside⟩ := List.mem_flatMap.mp member
      obtain ⟨provision, listed, rfl⟩ := List.mem_map.mp inside
      refine ⟨decide_eq_false fun hosted => ?_, rfl⟩
      obtain ⟨host, present, same⟩ := List.mem_map.mp hosted
      exact apart node held _ _ listed host present same
  rw [providersOf, declareEach_eq_ok, reserved, services, List.nodup_flatMap]
  refine and_congr_right fun _ => and_congr_left fun _ => ?_
  constructor
  · exact fun distinct => distinct.2.imp fun apart => (disjoint _ _).mp apart
  · exact fun single => ⟨fun node _ => node.providesOnce,
      single.imp fun apart => (disjoint _ _).mpr apart⟩

/-! ## Edges -/

section Edges

variable {nodes : List PluginCompositionNode} {hostServices : List PluginCompositionHostService}
  {hosts : OrderedMap JsString PluginCompositionHostService}
  {providers : OrderedMap JsString (PluginCompositionNode × JsString)}

/-- What is known of the declared services when edges are made. -/
structure Declared (nodes : List PluginCompositionNode)
    (hostServices : List PluginCompositionHostService)
    (hosts : OrderedMap JsString PluginCompositionHostService)
    (providers : OrderedMap JsString (PluginCompositionNode × JsString)) : Prop where
  host : ∀ service apiVersion, (hosts.find (hostKey service apiVersion)).isSome = true ↔
    HostProvides hostServices service apiVersion
  plugin : ∀ service node apiVersion, providers.find service = some (node, apiVersion) ↔
    node ∈ nodes ∧ Provides node service apiVersion
  apart : ∀ node ∈ nodes, ∀ service apiVersion, Provides node service apiVersion →
    ∀ host ∈ hostServices, host.service ≠ service

/-- How a requirement is met: it is, unless it has to be there and is not, and by a plugin exactly
when one provides it. -/
structure MetBy (nodes : List PluginCompositionNode)
    (hostServices : List PluginCompositionHostService) (requirement : PluginServiceRequirement)
    (result : Checked Provider) : Prop where
  met : (∃ provider, result = .ok provider) ↔ (requirement.optional = false →
    HostProvides hostServices requirement.service requirement.apiVersion ∨
      ∃ provider ∈ nodes, Provides provider requirement.service requirement.apiVersion)
  plugin : ∀ provider, result = .ok provider → ∀ pluginId,
    (∃ packageDigest, provider = .plugin pluginId packageDigest) ↔
      ∃ node ∈ nodes, node.pluginId = pluginId ∧
        Provides node requirement.service requirement.apiVersion

/-- The services that are declared are those of the host and of the plugins. -/
theorem declared_of_ok (hostsRead : hostsOf hostServices = .ok hosts)
    (providersRead : providersOf nodes hostServices = .ok providers) :
    Declared nodes hostServices hosts providers := by
  obtain ⟨distinct, rfl⟩ := hostsOf_eq_ok.mp hostsRead
  obtain ⟨apart, single, rfl⟩ := providersOf_eq_ok.mp providersRead
  refine ⟨?_, ?_, apart⟩
  · intro service apiVersion
    rw [OrderedMap.find_setAll_isSome]
    constructor
    · rintro (nothing | member)
      · cases nothing
      · obtain ⟨entry, held, same⟩ := List.mem_map.mp member
        obtain ⟨host, listed, rfl⟩ := List.mem_map.mp held
        obtain ⟨services, versions⟩ := stringifyPair_inj same
        exact ⟨host, listed, Option.some.inj services, versions⟩
    · rintro ⟨host, listed, rfl, rfl⟩
      exact .inr (List.mem_map.mpr ⟨_, List.mem_map_of_mem listed, rfl⟩)
  · intro service node apiVersion
    have keys := (declareEach_eq_ok.mp providersRead).2.1
    rw [find_setAll_iff keys]
    constructor
    · intro member
      obtain ⟨found, held, inside⟩ := List.mem_flatMap.mp member
      obtain ⟨provision, listed, same⟩ := List.mem_map.mp inside
      obtain ⟨rfl, rest⟩ := Prod.mk.inj same
      obtain ⟨rfl, rfl⟩ := Prod.mk.inj rest
      exact ⟨held, listed⟩
    · rintro ⟨held, provided⟩
      exact List.mem_flatMap.mpr ⟨node, held, List.mem_map.mpr ⟨_, provided, rfl⟩⟩

variable (declared : Declared nodes hostServices hosts providers)

include declared

/-- The provider of a requirement meets it. -/
theorem providerFor_spec (requirement : PluginServiceRequirement) :
    MetBy nodes hostServices requirement (providerFor hosts providers requirement) := by
  have host := declared.host requirement.service requirement.apiVersion
  have plugin := declared.plugin requirement.service
  unfold providerFor
  cases hosted : hosts.find (hostKey requirement.service requirement.apiVersion) with
  | some found =>
    have provides : HostProvides hostServices requirement.service requirement.apiVersion := by
      rw [hosted] at host
      exact host.mp rfl
    refine ⟨⟨fun _ _ => .inl provides, fun _ => ⟨_, rfl⟩⟩, ?_⟩
    rintro provider same pluginId
    cases same
    constructor
    · rintro ⟨_, nothing⟩
      cases nothing
    · rintro ⟨node, member, _, provided⟩
      obtain ⟨other, listed, services, _⟩ := provides
      exact absurd services (declared.apart node member _ _ provided other listed)
  | none =>
    have noHost : ¬ HostProvides hostServices requirement.service requirement.apiVersion := by
      rw [hosted] at host
      exact fun provides => absurd (host.mpr provides) (by decide)
    dsimp only
    -- no plugin provides the service in the version
    have unmet (other : ∀ node ∈ nodes,
        ¬ Provides node requirement.service requirement.apiVersion) :
        MetBy nodes hostServices requirement
          (if requirement.optional then .ok .absent
          else .error (compositionFail "plugin_composition_dependency_unavailable")) := by
      have nobody : ¬ ∃ provider ∈ nodes,
          Provides provider requirement.service requirement.apiVersion :=
        fun ⟨node, member, provided⟩ => other node member provided
      cases optional : requirement.optional with
      | true =>
        refine ⟨⟨fun _ => by simp [optional], fun _ => ⟨_, rfl⟩⟩, ?_⟩
        rintro provider same pluginId
        cases same
        constructor
        · rintro ⟨_, nothing⟩
          cases nothing
        · exact fun ⟨node, member, _, provided⟩ => absurd provided (other node member)
      | false =>
        refine ⟨⟨?_, fun met => ?_⟩, nofun⟩
        · rintro ⟨provider, nothing⟩
          cases nothing
        · exact ((met optional).elim noHost nobody).elim
    cases found : providers.find requirement.service with
    | none =>
      refine unmet fun node member provided => ?_
      have present := (plugin node requirement.apiVersion).mpr ⟨member, provided⟩
      rw [found] at present
      cases present
    | some entry =>
      obtain ⟨provider, apiVersion⟩ := entry
      dsimp only
      obtain ⟨member, provided⟩ := (plugin provider apiVersion).mp found
      by_cases same : apiVersion = requirement.apiVersion
      · rw [if_pos same]
        subst same
        refine ⟨⟨fun _ _ => .inr ⟨provider, member, provided⟩, fun _ => ⟨_, rfl⟩⟩, ?_⟩
        rintro result equal pluginId
        cases equal
        constructor
        · rintro ⟨_, equal⟩
          cases equal
          exact ⟨provider, member, rfl, provided⟩
        · rintro ⟨node, held, rfl, offered⟩
          have one := (plugin node requirement.apiVersion).mpr ⟨held, offered⟩
          rw [found] at one
          obtain rfl := (Prod.mk.inj (Option.some.inj one)).1
          exact ⟨_, rfl⟩
      · rw [if_neg same]
        refine unmet fun node held offered => ?_
        have one := (plugin node requirement.apiVersion).mpr ⟨held, offered⟩
        rw [found] at one
        exact same (Prod.mk.inj (Option.some.inj one)).2

omit declared in
/-- Edges are made when every requirement is met, one for each. -/
theorem edgesFor_spec (list : List (PluginCompositionNode × PluginServiceRequirement)) :
    ((∃ edges, edgesFor hosts providers list = .ok edges) ↔
      ∀ entry ∈ list, ∃ provider, providerFor hosts providers entry.2 = .ok provider) ∧
    ∀ edges, edgesFor hosts providers list = .ok edges → ∀ edge, edge ∈ edges ↔
      ∃ entry ∈ list, ∃ provider, providerFor hosts providers entry.2 = .ok provider ∧
        edge = ⟨entry.1.pluginId, entry.2.service, entry.2.apiVersion, provider⟩ := by
  induction list with
  | nil =>
    refine ⟨⟨fun _ => nofun, fun _ => ⟨[], rfl⟩⟩, ?_⟩
    rintro edges made edge
    cases made
    simp
  | cons entry rest hypothesis =>
    obtain ⟨node, requirement⟩ := entry
    obtain ⟨made, listed⟩ := hypothesis
    constructor
    · rw [List.forall_mem_cons, ← made]
      simp only [edgesFor, bind_eq_ok, pure_eq_ok]
      constructor
      · rintro ⟨_, provider, first, others, rest, _⟩
        exact ⟨⟨provider, first⟩, others, rest⟩
      · rintro ⟨⟨provider, first⟩, others, rest⟩
        exact ⟨_, provider, first, others, rest, rfl⟩
    · intro edges all edge
      simp only [edgesFor, bind_eq_ok, pure_eq_ok] at all
      obtain ⟨provider, first, others, rest, rfl⟩ := all
      rw [List.mem_cons, listed others rest edge]
      simp [first]

end Edges

/-! ## The order of activation -/

section Order

variable {nodes : List PluginCompositionNode} {hostServices : List PluginCompositionHostService}
  {hosts : OrderedMap JsString PluginCompositionHostService}
  {providers : OrderedMap JsString (PluginCompositionNode × JsString)}
  {edges : List PluginCompositionEdge}
  (declared : Declared nodes hostServices hosts providers)
  (made : edgesFor hosts providers (requirements nodes) = .ok edges)

include declared made

/-- A plugin is the provider of an edge exactly when the consumer needs it. -/
theorem edge_iff_needs (consumerId providerId : JsString) :
    (∃ edge ∈ edges, edge.consumerPluginId = consumerId ∧ pluginOf edge = some providerId) ↔
      Needs nodes consumerId providerId := by
  have listed := (edgesFor_spec (requirements nodes)).2 edges made
  have plugin (provider : Provider) (edge : PluginCompositionEdge) (held : edge.provider = provider) :
      pluginOf edge = some providerId ↔
        ∃ packageDigest, provider = .plugin providerId packageDigest := by
    unfold pluginOf
    rw [held]
    cases provider <;> simp
  constructor
  · rintro ⟨edge, member, rfl, provided⟩
    obtain ⟨⟨consumer, requirement⟩, inside, provider, met, rfl⟩ := (listed edge).mp member
    obtain ⟨held, holder, within⟩ := List.mem_flatMap.mp inside
    obtain ⟨found, required, same⟩ := List.mem_map.mp within
    obtain ⟨rfl, rfl⟩ := Prod.mk.inj same
    have spec := (providerFor_spec declared found).plugin provider met providerId
    obtain ⟨node, here, name, offered⟩ := spec.mp ((plugin provider _ rfl).mp provided)
    exact ⟨held, holder, node, here, rfl, name, found, required, offered⟩
  · rintro ⟨consumer, held, provider, here, rfl, rfl, requirement, required, offered⟩
    have spec := providerFor_spec declared requirement
    obtain ⟨result, met⟩ := spec.met.mpr fun _ => .inr ⟨provider, here, offered⟩
    have inside : (consumer, requirement) ∈ requirements nodes :=
      List.mem_flatMap.mpr ⟨consumer, held, List.mem_map_of_mem required⟩
    refine ⟨_, (listed _).mpr ⟨_, inside, result, met, rfl⟩, rfl, ?_⟩
    refine (plugin result _ rfl).mpr ?_
    exact (spec.plugin result met provider.pluginId).mpr ⟨provider, here, rfl, offered⟩

omit declared in
/-- The consumer of an edge is a plugin. -/
theorem consumer_mem {edge : PluginCompositionEdge} (member : edge ∈ edges) :
    edge.consumerPluginId ∈ nodes.map (·.pluginId) := by
  have listed := (edgesFor_spec (requirements nodes)).2 edges made
  obtain ⟨⟨consumer, requirement⟩, inside, provider, _, rfl⟩ := (listed edge).mp member
  obtain ⟨held, holder, within⟩ := List.mem_flatMap.mp inside
  obtain ⟨found, _, same⟩ := List.mem_map.mp within
  obtain ⟨rfl, _⟩ := Prod.mk.inj same
  exact List.mem_map_of_mem holder

/-- The plugins that a plugin needs are read from the edges. -/
theorem mem_needed_iff (consumerId providerId : JsString) :
    providerId ∈ ((edges.filter fun edge => edge.consumerPluginId = consumerId).filterMap
      pluginOf).dedup.insertionSort (· ≤ ·) ↔ Needs nodes consumerId providerId := by
  rw [List.mem_insertionSort, List.mem_dedup, List.mem_filterMap,
    ← edge_iff_needs declared made]
  simp only [List.mem_filter, decide_eq_true_eq, and_assoc]

/-- The order of activation names all plugins, each after those it needs, unless one needs itself. -/
theorem activationOrder_spec (distinct : (nodes.map (·.pluginId)).Nodup) :
    (∃ order, compositionActivationOrder nodes edges = .ok order ∧
      order.Perm (nodes.map (·.pluginId)) ∧
      (∀ consumer provider, Needs nodes consumer provider →
        order.idxOf provider < order.idxOf consumer) ∧
      ∀ pluginId, ¬ Relation.TransGen (Needs nodes) pluginId pluginId) ∨
    ((¬ ∃ order, compositionActivationOrder nodes edges = .ok order) ∧
      ∃ pluginId, Relation.TransGen (Needs nodes) pluginId pluginId) := by
  let needed (pluginId : JsString) : List JsString :=
    ((edges.filter fun edge => edge.consumerPluginId = pluginId).filterMap
      pluginOf).dedup.insertionSort (· ≤ ·)
  let graph : TopologicalOrder.Graph JsString :=
    { nodes := nodes.map (·.pluginId)
      dependsOn := needed
      dependents := fun node => (nodes.map (·.pluginId)).filter fun other => node ∈ needed other
      distinct := distinct
      once := fun _ _ => (List.perm_insertionSort _ _).nodup_iff.mpr (List.nodup_dedup _)
      inverse := fun _ => .refl _ }
  have needs : graph.Needs = Needs nodes := by
    funext consumer provider
    exact propext (mem_needed_iff declared made consumer provider)
  have read : ∀ node ∈ graph.nodes, dependenciesOf nodes edges node = .ok (graph.dependsOn node) :=
    fun node member => if_pos member
  have named : ∀ node ∈ graph.nodes, ∀ dependency ∈ graph.dependsOn node,
      dependency ∈ graph.nodes := by
    intro node _ dependency inside
    obtain ⟨_, _, provider, held, _, rfl, _⟩ := (mem_needed_iff declared made _ _).mp inside
    exact List.mem_map_of_mem held
  have acyclic : graph.Acyclic ↔
      ∀ pluginId, ¬ Relation.TransGen (Needs nodes) pluginId pluginId := by
    unfold TopologicalOrder.Graph.Acyclic
    rw [needs]
    refine ⟨fun none pluginId cycle => ?_, fun none node _ => none node⟩
    obtain ⟨_, ⟨consumer, held, _, _, rfl, _⟩, _⟩ := Relation.TransGen.head'_iff.mp cycle
    exact none consumer.pluginId (List.mem_map_of_mem held) cycle
  have present : ¬ (edges.any fun edge => (pluginOf edge).isSome &&
      decide (edge.consumerPluginId ∉ nodes.map (·.pluginId))) = true := by
    intro missing
    obtain ⟨edge, member, absent⟩ := List.any_eq_true.mp missing
    have outside := of_decide_eq_true (Bool.and_eq_true_iff.mp absent).2
    exact outside (consumer_mem made member)
  have run : compositionActivationOrder nodes edges =
      DepthFirst.traverse (compositionFail "plugin_composition_dependency_cycle")
        callStackExceeded (dependenciesOf nodes edges) graph.nodes := by
    rw [compositionActivationOrder, rejectIf, if_neg present]
    rfl
  rw [run]
  rcases DepthFirst.traverse_spec read named with ⟨order, emitted, isOrder, none⟩ | ⟨failed, cyclic⟩
  · refine .inl ⟨order, emitted, isOrder.all, ?_, acyclic.mp none⟩
    intro consumer provider need
    have inside := (mem_needed_iff declared made consumer provider).mpr need
    obtain ⟨held, member, _, _, rfl, _⟩ := need
    have ordered : held.pluginId ∈ order := isOrder.all.mem_iff.mpr (List.mem_map_of_mem member)
    exact (isOrder.ordered.before (isOrder.all.nodup_iff.mpr distinct) ordered inside).2
  · refine .inr ⟨?_, ?_⟩
    · rintro ⟨order, emitted⟩
      rw [failed] at emitted
      cases emitted
    · by_contra none
      exact cyclic (acyclic.mpr fun pluginId cycle => none ⟨pluginId, cycle⟩)

end Order

/-- A composition of plugins is accepted exactly when it is composable, and its order of activation
then names every plugin once and every provider before its consumers. -/
theorem composition_sound (nodes : List PluginCompositionNode)
    (hostServices : List PluginCompositionHostService) :
    ((∃ edges, compositionEdges nodes hostServices = .ok edges) ↔
      Composable nodes hostServices) ∧
    ∀ edges, compositionEdges nodes hostServices = .ok edges →
      ∃ order, compositionActivationOrder nodes edges = .ok order ∧
        order.Perm (nodes.map (·.pluginId)) ∧
        ∀ consumer provider, Needs nodes consumer provider →
          order.idxOf provider < order.idxOf consumer := by
  have accepted (edges : List PluginCompositionEdge) :
      compositionEdges nodes hostServices = .ok edges ↔
        (nodes.map (·.pluginId)).Nodup ∧ (nodes.map (·.packageDigest)).Nodup ∧
          ∃ hosts, hostsOf hostServices = .ok hosts ∧
            ∃ providers, providersOf nodes hostServices = .ok providers ∧
              edgesFor hosts providers (requirements nodes) = .ok edges ∧
                ∃ order, compositionActivationOrder nodes edges = .ok order := by
    simp only [compositionEdges, bind_eq_ok, exists_unit, rejectIf_eq_ok, pure_eq_ok, not_or,
      not_not, and_assoc]
    constructor
    · rintro ⟨ids, digests, hosts, hosted, providers, provided, _, made, order, ordered, rfl⟩
      exact ⟨ids, digests, hosts, hosted, providers, provided, made, order, ordered⟩
    · rintro ⟨ids, digests, hosts, hosted, providers, provided, made, order, ordered⟩
      exact ⟨ids, digests, hosts, hosted, providers, provided, edges, made, order, ordered, rfl⟩
  constructor
  · constructor
    · rintro ⟨edges, run⟩
      obtain ⟨ids, digests, hosts, hosted, providers, provided, made, order, ordered⟩ :=
        (accepted edges).mp run
      have declared := declared_of_ok hosted provided
      obtain ⟨apart, single, _⟩ := providersOf_eq_ok.mp provided
      refine ⟨ids, digests, (hostsOf_eq_ok.mp hosted).1, single, apart, ?_, ?_⟩
      · intro node member requirement required
        have met := (edgesFor_spec (requirements nodes)).1.mp ⟨edges, made⟩
        exact (providerFor_spec declared requirement).met.mp (met (node, requirement)
          (List.mem_flatMap.mpr ⟨node, member, List.mem_map_of_mem required⟩))
      · rcases activationOrder_spec declared made ids with ⟨_, _, _, _, none⟩ | ⟨failed, _⟩
        · exact none
        · exact absurd ⟨order, ordered⟩ failed
    · intro composable
      have hosted := hostsOf_eq_ok.mpr ⟨composable.hosts, rfl⟩
      have provided := providersOf_eq_ok.mpr ⟨composable.apart, composable.single, rfl⟩
      have declared := declared_of_ok hosted provided
      obtain ⟨edges, made⟩ := (edgesFor_spec (requirements nodes)).1.mpr fun entry member => by
        obtain ⟨node, held, inside⟩ := List.mem_flatMap.mp member
        obtain ⟨requirement, required, rfl⟩ := List.mem_map.mp inside
        exact (providerFor_spec declared requirement).met.mpr
          (composable.available node held requirement required)
      refine ⟨edges, (accepted edges).mpr ⟨composable.pluginIds, composable.digests, _, hosted, _,
        provided, made, ?_⟩⟩
      rcases activationOrder_spec declared made composable.pluginIds with
        ⟨order, found, _⟩ | ⟨_, pluginId, cycle⟩
      · exact ⟨order, found⟩
      · exact absurd cycle (composable.acyclic pluginId)
  · intro edges run
    obtain ⟨ids, _, hosts, hosted, providers, provided, made, order, ordered⟩ :=
      (accepted edges).mp run
    have declared := declared_of_ok hosted provided
    rcases activationOrder_spec declared made ids with ⟨order, found, all, before, _⟩ | ⟨failed, _⟩
    · exact ⟨order, found, all, before⟩
    · exact absurd ⟨order, ordered⟩ failed

/-- A plugin that may use a service of another one. -/
def sampleNodes : List PluginCompositionNode :=
  [⟨js "a", js "x", [⟨js "s", js "1", true⟩], [], by decide⟩,
    ⟨js "b", js "y", [], [⟨js "s", js "1"⟩], by decide⟩]

/-- The edge of the two plugins. -/
def sampleEdges : List PluginCompositionEdge :=
  [⟨js "a", js "s", js "1", .plugin (js "b") (js "y")⟩]

/-- The two plugins have one edge. -/
theorem sampleEdges_made : compositionEdges sampleNodes [] = .ok sampleEdges := by
  decide_cbv

/-- The two plugins are activated in one order of theirs. -/
theorem composition_sound_sample :
    Composable sampleNodes [] ∧
      ∃ order, compositionActivationOrder sampleNodes sampleEdges = .ok order ∧
        order.Perm [js "a", js "b"] := by
  have sound := composition_sound sampleNodes []
  obtain ⟨order, ordered, all, _⟩ := sound.2 sampleEdges sampleEdges_made
  exact ⟨sound.1.mp ⟨sampleEdges, sampleEdges_made⟩, order, ordered, all⟩

end Crewon.Verif.PluginComposition
