import Crewon.Domain.WorkflowVersion

/-!
# The graph of a compiled workflow

The execution order of a compiled workflow names every node once, and after all the nodes it depends
on.
-/

namespace Crewon.Verif.WorkflowGraph

open Crewon.Js Crewon.Checked Crewon.Lib Crewon.Domain

/-- Sorting keeps the texts. -/
theorem sortTexts_perm (texts : List JsString) : (sortTexts texts).Perm texts :=
  List.perm_insertionSort _ texts

/-- Insertion adds one text. -/
theorem insertSorted_perm (value : JsString) (texts : List JsString) :
    (insertSorted value texts).Perm (value :: texts) := by
  induction texts with
  | nil => exact List.Perm.refl _
  | cons candidate rest hypothesis =>
    unfold insertSorted
    split
    case isTrue => exact List.Perm.refl _
    case isFalse => exact (hypothesis.cons candidate).trans (List.Perm.swap _ _ _)

/-- A node is found under its own id, unless another one has the same. -/
theorem findNode_of_mem {nodes : List WorkflowNodeDefinition} {node : WorkflowNodeDefinition}
    (distinct : (nodes.map (·.nodeId)).Nodup) (member : node ∈ nodes) :
    findNode nodes node.nodeId = some node := by
  induction nodes with
  | nil => simp at member
  | cons head rest hypothesis =>
    simp only [List.map_cons, List.nodup_cons, List.mem_map, not_exists, not_and] at distinct
    cases List.mem_cons.mp member with
    | inl same => simp [findNode, same]
    | inr later =>
      have other : head.nodeId ≠ node.nodeId := fun same => distinct.1 node later same.symm
      rw [findNode, List.find?_cons_of_neg (by simpa using other)]
      exact hypothesis distinct.2 later

/-- A node that is found has the id and is one of the nodes. -/
theorem findNode_eq_some {nodes : List WorkflowNodeDefinition} {nodeId : JsString}
    {node : WorkflowNodeDefinition} (found : findNode nodes nodeId = some node) :
    node ∈ nodes ∧ node.nodeId = nodeId := by
  refine ⟨List.mem_of_find?_eq_some found, ?_⟩
  simpa using List.find?_some found

/-- Every id of a node is found. -/
theorem findNode_isSome {nodes : List WorkflowNodeDefinition} {nodeId : JsString}
    (member : nodeId ∈ nodes.map (·.nodeId)) : ∃ node, findNode nodes nodeId = some node := by
  obtain ⟨node, listed, same⟩ := List.mem_map.mp member
  refine Option.isSome_iff_exists.mp ?_
  rw [findNode, List.find?_isSome]
  exact ⟨node, listed, by simpa using same⟩

/-- The dependencies of a node are those under its id. -/
theorem dependenciesOf_of_mem {nodes : List WorkflowNodeDefinition} {node : WorkflowNodeDefinition}
    (distinct : (nodes.map (·.nodeId)).Nodup) (member : node ∈ nodes) :
    dependenciesOf nodes node.nodeId = node.dependsOn := by
  rw [dependenciesOf, findNode_of_mem distinct member]
  rfl

/-- The ids of the nodes with a property of their dependencies. -/
theorem filter_dependencies {nodes : List WorkflowNodeDefinition}
    (distinct : (nodes.map (·.nodeId)).Nodup) (property : List JsString → Bool) :
    (nodes.map (·.nodeId)).filter (fun nodeId => property (dependenciesOf nodes nodeId)) =
      (nodes.filter fun node => property node.dependsOn).map (·.nodeId) := by
  rw [List.filter_map]
  congr 1
  refine List.filter_congr fun node member => ?_
  simp only [Function.comp_apply, dependenciesOf_of_mem distinct member]

/-- The graph of nodes that pass the checks of their dependencies. -/
def graphOf (nodes : List WorkflowNodeDefinition) (distinct : (nodes.map (·.nodeId)).Nodup)
    (once : ∀ node ∈ nodes, node.dependsOn.Nodup) : TopologicalOrder.Graph JsString where
  nodes := nodes.map (·.nodeId)
  dependsOn := dependenciesOf nodes
  dependents := dependentsOf nodes
  distinct := distinct
  once := by
    intro nodeId member
    obtain ⟨node, listed, rfl⟩ := List.mem_map.mp member
    rw [dependenciesOf_of_mem distinct listed]
    exact once node listed
  inverse := by
    intro nodeId
    rw [filter_dependencies distinct fun dependencies => decide (nodeId ∈ dependencies)]
    exact sortTexts_perm _

/-- The roots are ready first, and every node counts its dependencies. -/
theorem graphOf_start {nodes : List WorkflowNodeDefinition}
    (distinct : (nodes.map (·.nodeId)).Nodup) (once : ∀ node ∈ nodes, node.dependsOn.Nodup) :
    (graphOf nodes distinct once).Sound
      ⟨[], rootIds nodes, fun nodeId => (dependenciesOf nodes nodeId).length⟩ := by
  let graph := graphOf nodes distinct once
  have roots : (rootIds nodes).Perm
      (graph.nodes.filter fun nodeId => graph.dependsOn nodeId = []) := by
    refine (sortTexts_perm _).trans ?_
    have filtered := filter_dependencies distinct fun dependencies => decide (dependencies = [])
    have lengths : (nodes.filter fun node => decide (node.dependsOn.length = 0)) =
        nodes.filter fun node => decide (node.dependsOn = []) := by
      refine List.filter_congr fun node _ => ?_
      simp
    rw [lengths]
    exact List.Perm.of_eq filtered.symm
  exact graph.sound_start roots (fun _ _ => rfl)

/-- As many turns as there are nodes are enough to emit them. -/
theorem graphOf_enough {nodes : List WorkflowNodeDefinition}
    (distinct : (nodes.map (·.nodeId)).Nodup) (once : ∀ node ∈ nodes, node.dependsOn.Nodup) :
    (graphOf nodes distinct once).nodes.length ≤ ([] : List JsString).length + nodes.length := by
  show (nodes.map (·.nodeId)).length ≤ _
  simp

/-- The execution order of nodes that pass the checks of their dependencies never repeats a node and
names every node after its dependencies. -/
theorem executionOrderOf_ordered {nodes : List WorkflowNodeDefinition}
    (distinct : (nodes.map (·.nodeId)).Nodup) (once : ∀ node ∈ nodes, node.dependsOn.Nodup) :
    (executionOrderOf nodes).Nodup ∧ executionOrderOf nodes ⊆ nodes.map (·.nodeId) ∧
      TopologicalOrder.Ordered (dependenciesOf nodes) (executionOrderOf nodes) := by
  obtain ⟨sound, _⟩ := TopologicalOrder.Graph.drain_sound insertSorted_perm
    (graphOf_start distinct once) (graphOf_enough distinct once)
  refine ⟨(List.nodup_append.mp sound.distinct).1, ?_, sound.ordered⟩
  intro nodeId emitted
  exact ((sound.reached nodeId).mp (List.mem_append_left _ emitted)).1

/-- What compilation promises of the graph. -/
structure Compiled (workflow : CompiledWorkflowVersion) : Prop where
  /-- No two nodes have one id. -/
  distinct : (workflow.nodes.map (·.nodeId)).Nodup
  /-- The execution order names every node once. -/
  order : workflow.executionOrder.Perm (workflow.nodes.map (·.nodeId))
  /-- Every node is named after its dependencies. -/
  ordered : TopologicalOrder.Ordered (dependenciesOf workflow.nodes) workflow.executionOrder

/-- The order of a graph that passes its checks. -/
theorem validateWorkflowGraph_eq_ok {nodes : List WorkflowNodeDefinition}
    {entryNodeIds outputNodeIds order : List JsString}
    (validated : validateWorkflowGraph nodes entryNodeIds outputNodeIds = .ok order) :
    (nodes.map (·.nodeId)).Nodup ∧ order.Perm (nodes.map (·.nodeId)) ∧
      TopologicalOrder.Ordered (dependenciesOf nodes) order := by
  simp only [validateWorkflowGraph, bind_eq_ok, exists_unit, rejectIf_eq_ok, forEach_eq_ok,
    not_not] at validated
  obtain ⟨distinct, _, dependencies, whole, _, _, _, last⟩ := validated
  have once : ∀ node ∈ nodes, node.dependsOn.Nodup := by
    intro node member
    have checked := dependencies node member
    simp only [validateDependencies, bind_eq_ok, exists_unit, rejectIf_eq_ok, not_not] at checked
    exact checked.1
  obtain ⟨nodup, subset, ordered⟩ := executionOrderOf_ordered distinct once
  split at last
  case isFalse => simp at last
  case isTrue =>
    obtain rfl := Except.ok.inj last
    refine ⟨distinct, ?_, ordered⟩
    have enough : (nodes.map (·.nodeId)).length ≤ (executionOrderOf nodes).length := by
      rw [List.length_map, whole]
    exact (List.subperm_of_subset nodup subset).perm_of_length_le enough

/-- A compiled workflow is ordered by its dependencies. -/
theorem compileWorkflowVersion_compiled {digest : WorkflowVersionSource → JsString}
    {source : WorkflowVersionSource} {expectedDigest : Option JsString}
    {workflow : CompiledWorkflowVersion}
    (compiled : compileWorkflowVersion digest source expectedDigest = .ok workflow) :
    Compiled workflow := by
  simp only [compileWorkflowVersion, bind_eq_ok, exists_unit, pure_eq_ok] at compiled
  obtain ⟨_, _, _, _, _, _, _, _, _, _, _, _, _, _, validated, _, _, rfl⟩ := compiled
  obtain ⟨distinct, order, ordered⟩ := validateWorkflowGraph_eq_ok validated
  exact ⟨distinct, order, ordered⟩

/-- The id of every node is in the execution order, and the other way round. -/
theorem Compiled.mem_order {workflow : CompiledWorkflowVersion} (compiled : Compiled workflow)
    {nodeId : JsString} : nodeId ∈ workflow.executionOrder ↔
      ∃ node, findNode workflow.nodes nodeId = some node := by
  rw [compiled.order.mem_iff]
  constructor
  · exact findNode_isSome
  · rintro ⟨node, found⟩
    obtain ⟨member, rfl⟩ := findNode_eq_some found
    exact List.mem_map_of_mem member

end Crewon.Verif.WorkflowGraph
