import Crewon.Js.TextOrder
import Crewon.Lib.LeastOrder
import Crewon.Verif.WorkflowGraph
import Mathlib

/-!
# The validation of a workflow graph

A workflow graph is accepted exactly when it follows the rules of its nodes and is listed in order.
The execution order is then the least one of all orders that name every node after its
dependencies, so it is the same however the nodes are listed.
-/

namespace Crewon.Verif.WorkflowValidation

open Crewon.Js Crewon.Checked Crewon.Lib Crewon.Domain Crewon.Verif.WorkflowGraph

/-- A node names another one as a dependency. -/
def DependsOn (nodes : List WorkflowNodeDefinition)
    (node dependency : WorkflowNodeDefinition) : Prop :=
  node ∈ nodes ∧ dependency ∈ nodes ∧ dependency.nodeId ∈ node.dependsOn

/-- A node depends on another one, directly or through others. -/
def Ancestor (nodes : List WorkflowNodeDefinition)
    (node ancestor : WorkflowNodeDefinition) : Prop :=
  Relation.TransGen (DependsOn nodes) node ancestor

/-- The agent version that works on a node. -/
def agentVersionOf : WorkflowNodeWork → Option JsString
  | .agent agentVersionId => some agentVersionId
  | .humanGate _ => none
  | .verification verifierAgentVersionId => some verifierAgentVersionId

/-- The rules that the nodes of a workflow follow. -/
structure GraphRules (nodes : List WorkflowNodeDefinition)
    (entryNodeIds outputNodeIds : List JsString) : Prop where
  /-- No two nodes have one id. -/
  distinct : (nodes.map (·.nodeId)).Nodup
  /-- Every dependency names a node. -/
  named : ∀ node ∈ nodes, ∀ dependency ∈ node.dependsOn, dependency ∈ nodes.map (·.nodeId)
  /-- No node depends on itself, directly or through others. -/
  acyclic : ∀ node, ¬ Ancestor nodes node node
  /-- The entries are the nodes without dependencies. -/
  entries : ∀ nodeId, nodeId ∈ entryNodeIds ↔
    ∃ node ∈ nodes, node.nodeId = nodeId ∧ node.dependsOn = []
  /-- The outputs are the nodes nobody depends on. -/
  outputs : ∀ nodeId, nodeId ∈ outputNodeIds ↔
    ∃ node ∈ nodes, node.nodeId = nodeId ∧ ∀ other ∈ nodes, nodeId ∉ other.dependsOn
  /-- The outputs verify. -/
  verified : ∀ node ∈ nodes, node.nodeId ∈ outputNodeIds →
    ∃ verifierAgentVersionId, node.work = .verification verifierAgentVersionId
  /-- What verifies has something to verify. -/
  grounded : ∀ node ∈ nodes, ∀ verifierAgentVersionId,
    node.work = .verification verifierAgentVersionId → node.dependsOn ≠ []
  /-- No agent version verifies what it worked on. -/
  independent : ∀ node ∈ nodes, ∀ verifierAgentVersionId,
    node.work = .verification verifierAgentVersionId →
    ∀ ancestor, Ancestor nodes node ancestor →
      agentVersionOf ancestor.work ≠ some verifierAgentVersionId

/-- The dependencies, the entries and the outputs are listed without repetition, the last two in
ascending order. -/
structure GraphListing (nodes : List WorkflowNodeDefinition)
    (entryNodeIds outputNodeIds : List JsString) : Prop where
  /-- No node names a dependency twice. -/
  once : ∀ node ∈ nodes, node.dependsOn.Nodup
  /-- The entries ascend. -/
  entries : entryNodeIds.Pairwise (· < ·)
  /-- The outputs ascend. -/
  outputs : outputNodeIds.Pairwise (· < ·)

/-- An order of all nodes that names every node after its dependencies. -/
structure IsExecutionOrder (nodes : List WorkflowNodeDefinition) (order : List JsString) :
    Prop where
  /-- Every node is named once. -/
  all : order.Perm (nodes.map (·.nodeId))
  /-- Every node is named after its dependencies. -/
  ordered : ∀ node ∈ nodes, ∀ earlier later, order = earlier ++ node.nodeId :: later →
    node.dependsOn ⊆ earlier

/-- Texts are sorted in ascending order. -/
theorem sortTexts_ascends (texts : List JsString) : (sortTexts texts).Pairwise (· ≤ ·) := by
  have sorted : sortTexts texts = texts.insertionSort (· ≤ ·) := by
    simp only [sortTexts, JsString.before_eq_false]
  rw [sorted]
  exact List.pairwise_insertionSort _ texts

/-- Texts that ascend strictly are the sorted ones exactly when they are the same texts. -/
theorem sortTexts_eq_iff {texts : List JsString} (distinct : texts.Nodup) (listed : List JsString) :
    sortTexts texts = listed ↔ (∀ text, text ∈ listed ↔ text ∈ texts) ∧
      listed.Pairwise (· < ·) := by
  have nodup : (sortTexts texts).Nodup := (sortTexts_perm texts).nodup_iff.mpr distinct
  constructor
  · rintro rfl
    refine ⟨fun text => (sortTexts_perm texts).mem_iff, ?_⟩
    exact List.Pairwise.imp₂ (fun _ _ least different => lt_of_le_of_ne least different)
      (sortTexts_ascends texts) nodup
  · rintro ⟨same, ascending⟩
    have other : listed.Nodup := ascending.imp ne_of_lt
    have shuffled : (sortTexts texts).Perm listed :=
      (List.perm_ext_iff_of_nodup nodup other).mpr fun text =>
        (sortTexts_perm texts).mem_iff.trans (same text).symm
    exact shuffled.eq_of_pairwise' (sortTexts_ascends texts) (ascending.imp le_of_lt)

/-- Insertion in front of the first later text keeps texts ascending. -/
theorem insertSorted_ascends : TopologicalOrder.InsertsInOrder insertSorted := by
  intro value texts ascending
  induction texts with
  | nil => simp [insertSorted]
  | cons candidate rest hypothesis =>
    obtain ⟨least, ascending'⟩ := List.pairwise_cons.mp ascending
    unfold insertSorted
    split
    case isTrue before =>
      have first : value ≤ candidate := (JsString.before_iff.mp before).le
      refine List.pairwise_cons.mpr ⟨fun text later => ?_, ascending⟩
      rcases List.mem_cons.mp later with rfl | later
      · exact first
      · exact first.trans (least text later)
    case isFalse behind =>
      have first : candidate ≤ value := by
        rw [← JsString.before_eq_false]
        simpa using behind
      refine List.pairwise_cons.mpr ⟨fun text later => ?_, hypothesis ascending'⟩
      rcases List.mem_cons.mp ((insertSorted_perm value rest).mem_iff.mp later) with rfl | later
      · exact first
      · exact least text later

section
variable {nodes : List WorkflowNodeDefinition} (distinct : (nodes.map (·.nodeId)).Nodup)
  (once : ∀ node ∈ nodes, node.dependsOn.Nodup)

/-- Nodes with one id are one node. -/
theorem eq_of_nodeId (distinct : (nodes.map (·.nodeId)).Nodup) {node other : WorkflowNodeDefinition}
    (member : node ∈ nodes) (member' : other ∈ nodes) (same : node.nodeId = other.nodeId) :
    node = other := by
  have found := findNode_of_mem distinct member
  rw [same, findNode_of_mem distinct member'] at found
  exact (Option.some.inj found).symm

/-- What has dependencies is the id of a node. -/
theorem exists_of_dependency {nodeId dependency : JsString}
    (needed : dependency ∈ dependenciesOf nodes nodeId) :
    ∃ node ∈ nodes, node.nodeId = nodeId ∧ dependency ∈ node.dependsOn := by
  unfold dependenciesOf at needed
  cases found : findNode nodes nodeId with
  | none => simp [found] at needed
  | some node =>
    obtain ⟨member, same⟩ := findNode_eq_some found
    rw [found] at needed
    exact ⟨node, member, same, needed⟩

/-- The id of an ancestor is reached from the id of the node. -/
theorem Ancestor.needs {node ancestor : WorkflowNodeDefinition}
    (reached : Ancestor nodes node ancestor) :
    Relation.TransGen (graphOf nodes distinct once).Needs node.nodeId ancestor.nodeId := by
  refine Relation.TransGen.lift WorkflowNodeDefinition.nodeId ?_ node ancestor reached
  intro node dependency direct
  obtain ⟨member, _, needed⟩ := direct
  show dependency.nodeId ∈ dependenciesOf nodes node.nodeId
  rw [dependenciesOf_of_mem distinct member]
  exact needed

/-- What is reached from the id of a node is the id of an ancestor. -/
theorem ancestor_of_needs
    (named : ∀ node ∈ nodes, ∀ dependency ∈ node.dependsOn, dependency ∈ nodes.map (·.nodeId))
    {node : WorkflowNodeDefinition} (member : node ∈ nodes) {nodeId : JsString}
    (reached : Relation.TransGen (graphOf nodes distinct once).Needs node.nodeId nodeId) :
    ∃ ancestor ∈ nodes, ancestor.nodeId = nodeId ∧ Ancestor nodes node ancestor := by
  have next {node : WorkflowNodeDefinition} (member : node ∈ nodes) {nodeId : JsString}
      (needed : (graphOf nodes distinct once).Needs node.nodeId nodeId) :
      ∃ dependency ∈ nodes, dependency.nodeId = nodeId ∧ DependsOn nodes node dependency := by
    have listed : nodeId ∈ node.dependsOn := by
      rw [← dependenciesOf_of_mem distinct member]
      exact needed
    obtain ⟨dependency, inside, rfl⟩ := List.mem_map.mp (named node member nodeId listed)
    exact ⟨dependency, inside, rfl, member, inside, listed⟩
  induction reached with
  | single needed =>
    obtain ⟨dependency, inside, same, direct⟩ := next member needed
    exact ⟨dependency, inside, same, .single direct⟩
  | tail _ needed hypothesis =>
    obtain ⟨middle, inside, rfl, ahead⟩ := hypothesis
    obtain ⟨dependency, inside', same, direct⟩ := next inside needed
    exact ⟨dependency, inside', same, ahead.tail direct⟩

/-- The dependencies of an id are ids of nodes. -/
theorem ids_named
    (named : ∀ node ∈ nodes, ∀ dependency ∈ node.dependsOn, dependency ∈ nodes.map (·.nodeId)) :
    ∀ nodeId ∈ (graphOf nodes distinct once).nodes,
      ∀ dependency ∈ (graphOf nodes distinct once).dependsOn nodeId,
        dependency ∈ (graphOf nodes distinct once).nodes := by
  intro nodeId _ dependency needed
  obtain ⟨node, member, _, listed⟩ := exists_of_dependency needed
  exact named node member dependency listed

/-- The ids have no cycle exactly when the nodes have none. -/
theorem acyclic_iff
    (named : ∀ node ∈ nodes, ∀ dependency ∈ node.dependsOn, dependency ∈ nodes.map (·.nodeId)) :
    (graphOf nodes distinct once).Acyclic ↔ ∀ node, ¬ Ancestor nodes node node := by
  constructor
  · intro acyclic node cycle
    have member : node ∈ nodes := by
      obtain ⟨_, direct, _⟩ := Relation.TransGen.head'_iff.mp cycle
      exact direct.1
    exact acyclic node.nodeId (List.mem_map_of_mem member) (cycle.needs distinct once)
  · intro acyclic nodeId listed cycle
    obtain ⟨node, member, rfl⟩ := List.mem_map.mp listed
    obtain ⟨ancestor, inside, same, reached⟩ := ancestor_of_needs distinct once named member cycle
    obtain rfl := eq_of_nodeId distinct inside member same
    exact acyclic ancestor reached

/-- An order of the ids is an execution order of the nodes. -/
theorem isOrder_iff (order : List JsString) :
    (graphOf nodes distinct once).IsOrder order ↔ IsExecutionOrder nodes order := by
  constructor
  · rintro ⟨all, ordered⟩
    refine ⟨all, fun node member earlier later split dependency needed => ?_⟩
    refine ordered earlier node.nodeId later split dependency ?_
    show dependency ∈ dependenciesOf nodes node.nodeId
    rw [dependenciesOf_of_mem distinct member]
    exact needed
  · rintro ⟨all, ordered⟩
    refine ⟨all, fun earlier nodeId later split dependency needed => ?_⟩
    obtain ⟨node, member, rfl, listed⟩ := exists_of_dependency needed
    exact ordered node member earlier later split listed

include distinct once in
/-- The execution order names every node exactly when no node depends on itself. -/
theorem executionOrderOf_whole_iff
    (named : ∀ node ∈ nodes, ∀ dependency ∈ node.dependsOn, dependency ∈ nodes.map (·.nodeId)) :
    (executionOrderOf nodes).length = nodes.length ↔ ∀ node, ¬ Ancestor nodes node node := by
  rw [← acyclic_iff distinct once named]
  constructor
  · intro whole
    obtain ⟨nodup, subset, ordered⟩ := executionOrderOf_ordered distinct once
    have enough : (nodes.map (·.nodeId)).length ≤ (executionOrderOf nodes).length := by
      rw [List.length_map, whole]
    have all := (List.subperm_of_subset nodup subset).perm_of_length_le enough
    have isOrder : (graphOf nodes distinct once).IsOrder (executionOrderOf nodes) := ⟨all, ordered⟩
    exact isOrder.acyclic
  · intro acyclic
    have isOrder := TopologicalOrder.Graph.drain_isOrder insertSorted_perm acyclic
      (ids_named distinct once named) (graphOf_start distinct once) (graphOf_enough distinct once)
    exact isOrder.all.length_eq.trans (List.length_map _)

include distinct once in
/-- The execution order of a graph without cycles is the least one. -/
theorem executionOrderOf_least
    (named : ∀ node ∈ nodes, ∀ dependency ∈ node.dependsOn, dependency ∈ nodes.map (·.nodeId))
    (acyclic : ∀ node, ¬ Ancestor nodes node node) :
    IsLeast { order | IsExecutionOrder nodes order } (executionOrderOf nodes) := by
  have isOrder := TopologicalOrder.Graph.drain_isOrder insertSorted_perm
    ((acyclic_iff distinct once named).mpr acyclic) (ids_named distinct once named)
    (graphOf_start distinct once) (graphOf_enough distinct once)
  have least := (graphOf_start distinct once).drain_least insertSorted_perm insertSorted_ascends
    (sortTexts_ascends _) isOrder
  simp only [isOrder_iff] at least
  exact least

/-- An agent version worked on an ancestor of a node. -/
def WorkedBefore (nodes : List WorkflowNodeDefinition) (node : WorkflowNodeDefinition)
    (version : JsString) : Prop :=
  ∃ ancestor, Ancestor nodes node ancestor ∧ agentVersionOf ancestor.work = some version

/-- The agent versions of a node and of its ancestors are known. -/
def Known (nodes : List WorkflowNodeDefinition) (ancestorAgents : JsString → List JsString)
    (node : WorkflowNodeDefinition) : Prop :=
  ∀ version, version ∈ ancestorAgents node.nodeId ↔
    agentVersionOf node.work = some version ∨ WorkedBefore nodes node version

/-- The agent versions of the dependencies are those that worked before. -/
theorem mem_agents_iff
    (named : ∀ node ∈ nodes, ∀ dependency ∈ node.dependsOn, dependency ∈ nodes.map (·.nodeId))
    {ancestorAgents : JsString → List JsString} {node : WorkflowNodeDefinition}
    (member : node ∈ nodes)
    (known : ∀ dependency, DependsOn nodes node dependency → Known nodes ancestorAgents dependency)
    (version : JsString) :
    version ∈ node.dependsOn.flatMap ancestorAgents ↔ WorkedBefore nodes node version := by
  rw [List.mem_flatMap]
  constructor
  · rintro ⟨nodeId, needed, listed⟩
    obtain ⟨dependency, inside, rfl⟩ := List.mem_map.mp (named node member nodeId needed)
    have direct : DependsOn nodes node dependency := ⟨member, inside, needed⟩
    rcases (known dependency direct version).mp listed with own | ⟨ancestor, reached, works⟩
    · exact ⟨dependency, .single direct, own⟩
    · exact ⟨ancestor, .head direct reached, works⟩
  · rintro ⟨ancestor, reached, works⟩
    obtain ⟨dependency, direct, further⟩ := Relation.TransGen.head'_iff.mp reached
    refine ⟨dependency.nodeId, direct.2.2, (known dependency direct version).mpr ?_⟩
    rcases Relation.reflTransGen_iff_eq_or_transGen.mp further with rfl | further
    · exact .inl works
    · exact .inr ⟨ancestor, further, works⟩

/-- In an order, the verifiers are independent exactly when none of them worked before. -/
theorem validateIndependentVerifiers_eq_ok
    (named : ∀ node ∈ nodes, ∀ dependency ∈ node.dependsOn, dependency ∈ nodes.map (·.nodeId))
    {ancestorAgents : JsString → List JsString} {done rest : List WorkflowNodeDefinition}
    (known : ∀ node ∈ done, Known nodes ancestorAgents node) (inside : rest ⊆ nodes)
    (fresh : ((done ++ rest).map (·.nodeId)).Nodup)
    (ordered : ∀ earlier node later, rest = earlier ++ node :: later →
      ∀ dependency, DependsOn nodes node dependency → dependency ∈ done ++ earlier) :
    validateIndependentVerifiers ancestorAgents rest = .ok () ↔
      ∀ node ∈ rest, ∀ version, node.work = .verification version →
        ¬ WorkedBefore nodes node version := by
  induction rest generalizing ancestorAgents done with
  | nil => simp [validateIndependentVerifiers]
  | cons node rest hypothesis =>
    have member : node ∈ nodes := inside List.mem_cons_self
    have agents := mem_agents_iff named member fun dependency direct =>
      known dependency (by simpa using ordered [] node rest rfl dependency direct)
    -- what is remembered of the node keeps what is known of the nodes before it
    have going (own : List JsString)
        (remembered : ∀ version, version ∈ own ↔
          agentVersionOf node.work = some version ∨ WorkedBefore nodes node version) :
        validateIndependentVerifiers (Function.update ancestorAgents node.nodeId own) rest =
            .ok () ↔
          ∀ node ∈ rest, ∀ version, node.work = .verification version →
            ¬ WorkedBefore nodes node version := by
      refine hypothesis (?_ : ∀ other ∈ done ++ [node], Known nodes _ other)
        (fun other later => inside (List.mem_cons_of_mem _ later)) (by simpa using fresh) ?_
      · intro other earlier
        rcases List.mem_append.mp earlier with earlier | same
        · have different : other.nodeId ≠ node.nodeId := by
            rw [List.map_append, List.map_cons] at fresh
            exact (List.nodup_append.mp fresh).2.2 other.nodeId (List.mem_map_of_mem earlier)
              node.nodeId List.mem_cons_self
          intro version
          rw [Function.update_of_ne different]
          exact known other earlier version
        · obtain rfl := List.mem_singleton.mp same
          intro version
          rw [Function.update_self]
          exact remembered version
      · intro earlier other later split dependency direct
        have before := ordered (node :: earlier) other later (by rw [split]; rfl) dependency direct
        simpa using before
    cases work : node.work with
    | agent version =>
      simp only [validateIndependentVerifiers, work]
      rw [going _ (by simp [work, agentVersionOf, agents, eq_comm])]
      simp [work]
    | humanGate policy =>
      simp only [validateIndependentVerifiers, work]
      rw [going _ (by simp [work, agentVersionOf, agents])]
      simp [work]
    | verification version =>
      simp only [validateIndependentVerifiers, work, bind_eq_ok, exists_unit, rejectIf_eq_ok]
      rw [going _ (by simp [work, agentVersionOf, agents, eq_comm]), agents]
      simp [work]

/-- The nodes in the order of their ids have these ids. -/
theorem map_filterMap_findNode {order : List JsString} (inside : order ⊆ nodes.map (·.nodeId)) :
    (order.filterMap (findNode nodes)).map (·.nodeId) = order := by
  induction order with
  | nil => rfl
  | cons nodeId rest hypothesis =>
    obtain ⟨node, found⟩ := findNode_isSome (inside List.mem_cons_self)
    have others := hypothesis fun other later => inside (List.mem_cons_of_mem _ later)
    rw [List.filterMap_cons_some found, List.map_cons, others, (findNode_eq_some found).2]

/-- The verifiers pass in an execution order exactly when each of them is independent. -/
theorem verifiers_pass_iff (distinct : (nodes.map (·.nodeId)).Nodup)
    (named : ∀ node ∈ nodes, ∀ dependency ∈ node.dependsOn, dependency ∈ nodes.map (·.nodeId))
    {order : List JsString} (isOrder : IsExecutionOrder nodes order) :
    validateIndependentVerifiers (fun _ => []) (order.filterMap (findNode nodes)) = .ok () ↔
      ∀ node ∈ nodes, ∀ version, node.work = .verification version →
        ¬ WorkedBefore nodes node version := by
  have ids := map_filterMap_findNode isOrder.all.subset
  have inside : order.filterMap (findNode nodes) ⊆ nodes := by
    intro node listed
    obtain ⟨nodeId, _, found⟩ := List.mem_filterMap.mp listed
    exact (findNode_eq_some found).1
  have whole (node : WorkflowNodeDefinition) (member : node ∈ nodes) :
      node ∈ order.filterMap (findNode nodes) := by
    refine List.mem_filterMap.mpr ⟨node.nodeId, ?_, findNode_of_mem distinct member⟩
    exact isOrder.all.mem_iff.mpr (List.mem_map_of_mem member)
  have fresh : ((([] : List WorkflowNodeDefinition) ++ order.filterMap (findNode nodes)).map
      (·.nodeId)).Nodup := by
    rw [List.nil_append, ids]
    exact isOrder.all.nodup_iff.mpr distinct
  have passes := validateIndependentVerifiers_eq_ok named
    (List.forall_mem_nil (Known nodes fun _ => [])) inside fresh ?_
  · rw [passes]
    exact ⟨fun pass node member => pass node (whole node member),
      fun pass node listed => pass node (inside listed)⟩
  · intro earlier node later split dependency direct
    have member : node ∈ nodes := direct.1
    have placed : order = earlier.map (·.nodeId) ++ node.nodeId :: later.map (·.nodeId) := by
      rw [← ids, split, List.map_append, List.map_cons]
    obtain ⟨other, before, same⟩ := List.mem_map.mp
      (isOrder.ordered node member _ _ placed direct.2.2)
    have listed : other ∈ nodes := inside (by rw [split]; exact List.mem_append_left _ before)
    rw [List.nil_append, ← eq_of_nodeId distinct listed direct.2.1 same]
    exact before

/-- The roots are the entries exactly when these are the nodes without dependencies, in order. -/
theorem rootIds_eq_iff (distinct : (nodes.map (·.nodeId)).Nodup) (entryNodeIds : List JsString) :
    rootIds nodes = entryNodeIds ↔
      (∀ nodeId, nodeId ∈ entryNodeIds ↔
        ∃ node ∈ nodes, node.nodeId = nodeId ∧ node.dependsOn = []) ∧
      entryNodeIds.Pairwise (· < ·) := by
  have nodup : ((nodes.filter fun node => node.dependsOn.length = 0).map (·.nodeId)).Nodup :=
    distinct.sublist (List.filter_sublist.map _)
  rw [rootIds, sortTexts_eq_iff nodup]
  refine and_congr_left fun _ => forall_congr' fun nodeId => ?_
  simp only [List.mem_map, List.mem_filter, decide_eq_true_eq, List.length_eq_zero_iff, and_assoc,
    and_comm]

/-- Nobody depends on a node without dependents. -/
theorem dependentsOf_length_eq_zero (nodeId : JsString) :
    (dependentsOf nodes nodeId).length = 0 ↔ ∀ other ∈ nodes, nodeId ∉ other.dependsOn := by
  rw [dependentsOf, (sortTexts_perm _).length_eq, List.length_map, List.length_eq_zero_iff,
    List.filter_eq_nil_iff]
  simp

/-- The terminals are the outputs exactly when these are the nodes nobody depends on, in order. -/
theorem terminalIds_eq_iff (distinct : (nodes.map (·.nodeId)).Nodup)
    (outputNodeIds : List JsString) :
    terminalIds nodes = outputNodeIds ↔
      (∀ nodeId, nodeId ∈ outputNodeIds ↔
        ∃ node ∈ nodes, node.nodeId = nodeId ∧ ∀ other ∈ nodes, nodeId ∉ other.dependsOn) ∧
      outputNodeIds.Pairwise (· < ·) := by
  have nodup : ((nodes.filter fun node => (dependentsOf nodes node.nodeId).length = 0).map
      (·.nodeId)).Nodup := distinct.sublist (List.filter_sublist.map _)
  rw [terminalIds, sortTexts_eq_iff nodup]
  refine and_congr_left fun _ => forall_congr' fun nodeId => iff_congr Iff.rfl ?_
  simp only [List.mem_map, List.mem_filter, decide_eq_true_eq, dependentsOf_length_eq_zero]
  constructor
  · rintro ⟨node, ⟨member, free⟩, rfl⟩
    exact ⟨node, member, rfl, free⟩
  · rintro ⟨node, member, rfl, free⟩
    exact ⟨node, ⟨member, free⟩, rfl⟩

/-- The dependencies of a node pass exactly when they are distinct ids of nodes, and there are some
if the node verifies. -/
theorem validateDependencies_eq_ok (node : WorkflowNodeDefinition) :
    validateDependencies nodes node = .ok () ↔ node.dependsOn.Nodup ∧
      (∀ dependency ∈ node.dependsOn, dependency ∈ nodes.map (·.nodeId)) ∧
      ∀ version, node.work = .verification version → node.dependsOn ≠ [] := by
  simp only [validateDependencies, bind_eq_ok, exists_unit, rejectIf_eq_ok, not_not]
  refine and_congr_right fun _ => and_congr (by simp) ?_
  cases work : node.work <;> simp [rejectIf_eq_ok]

/-- The outputs all verify exactly when the nodes under their ids do. -/
theorem all_isVerification_iff (distinct : (nodes.map (·.nodeId)).Nodup)
    {outputNodeIds : List JsString} (inside : outputNodeIds ⊆ nodes.map (·.nodeId)) :
    outputNodeIds.all (isVerification nodes) = true ↔
      ∀ node ∈ nodes, node.nodeId ∈ outputNodeIds →
        ∃ version, node.work = .verification version := by
  have checks (node : WorkflowNodeDefinition) (member : node ∈ nodes) :
      isVerification nodes node.nodeId = true ↔ ∃ version, node.work = .verification version := by
    rw [isVerification, findNode_of_mem distinct member]
    obtain ⟨nodeId, dependsOn, work⟩ := node
    cases work <;> simp
  rw [List.all_eq_true]
  constructor
  · intro all node member listed
    exact (checks node member).mp (all node.nodeId listed)
  · intro all nodeId listed
    obtain ⟨node, member, rfl⟩ := List.mem_map.mp (inside listed)
    exact (checks node member).mpr (all node member listed)

end

/-- A graph passes exactly when it follows the rules and is listed in order. -/
theorem validateWorkflowGraph_eq_ok_iff (nodes : List WorkflowNodeDefinition)
    (entryNodeIds outputNodeIds order : List JsString) :
    validateWorkflowGraph nodes entryNodeIds outputNodeIds = .ok order ↔
      (GraphRules nodes entryNodeIds outputNodeIds ∧
        GraphListing nodes entryNodeIds outputNodeIds) ∧ order = executionOrderOf nodes := by
  simp only [validateWorkflowGraph, bind_eq_ok, exists_unit, rejectIf_eq_ok, forEach_eq_ok,
    validateDependencies_eq_ok, not_not]
  constructor
  · rintro ⟨distinct, _, dependencies, whole, pass, roots, terminals, last⟩
    have once := fun node member => (dependencies node member).1
    have named := fun node member => (dependencies node member).2.1
    have acyclic := (executionOrderOf_whole_iff distinct once named).mp whole
    have least := executionOrderOf_least distinct once named acyclic
    obtain ⟨entries, entriesAscend⟩ := (rootIds_eq_iff distinct entryNodeIds).mp roots
    obtain ⟨outputs, outputsAscend⟩ := (terminalIds_eq_iff distinct outputNodeIds).mp terminals
    split at last
    case isFalse => simp at last
    case isTrue verified =>
      have inside : outputNodeIds ⊆ nodes.map (·.nodeId) := by
        intro nodeId listed
        obtain ⟨node, member, rfl, _⟩ := (outputs nodeId).mp listed
        exact List.mem_map_of_mem member
      have pass := (verifiers_pass_iff distinct named least.1).mp pass
      refine ⟨⟨⟨distinct, named, acyclic, entries, outputs,
        (all_isVerification_iff distinct inside).mp verified,
        fun node member => (dependencies node member).2.2, ?_⟩, once, entriesAscend,
        outputsAscend⟩, (Except.ok.inj last).symm⟩
      intro node member version work ancestor reached works
      exact pass node member version work ⟨ancestor, reached, works⟩
  · rintro ⟨⟨rules, listing⟩, rfl⟩
    have least := executionOrderOf_least rules.distinct listing.once rules.named rules.acyclic
    have entriesInside : entryNodeIds ⊆ nodes.map (·.nodeId) := by
      intro nodeId listed
      obtain ⟨node, member, rfl, _⟩ := (rules.entries nodeId).mp listed
      exact List.mem_map_of_mem member
    have outputsInside : outputNodeIds ⊆ nodes.map (·.nodeId) := by
      intro nodeId listed
      obtain ⟨node, member, rfl, _⟩ := (rules.outputs nodeId).mp listed
      exact List.mem_map_of_mem member
    refine ⟨rules.distinct, ?_, fun node member => ⟨listing.once node member,
      rules.named node member, rules.grounded node member⟩,
      (executionOrderOf_whole_iff rules.distinct listing.once rules.named).mpr rules.acyclic,
      (verifiers_pass_iff rules.distinct rules.named least.1).mpr ?_,
      (rootIds_eq_iff rules.distinct entryNodeIds).mpr ⟨rules.entries, listing.entries⟩,
      (terminalIds_eq_iff rules.distinct outputNodeIds).mpr ⟨rules.outputs, listing.outputs⟩, ?_⟩
    · rintro (⟨nodeId, listed, outside⟩ | ⟨nodeId, listed, outside⟩)
      · exact outside (entriesInside listed)
      · exact outside (outputsInside listed)
    · rintro node member version work ⟨ancestor, reached, works⟩
      exact rules.independent node member version work ancestor reached works
    · rw [if_pos ((all_isVerification_iff rules.distinct outputsInside).mpr rules.verified)]

/-- The order of a graph that passes is the least execution order. -/
theorem least_of_passed {nodes : List WorkflowNodeDefinition}
    {entryNodeIds outputNodeIds order : List JsString}
    (passed : validateWorkflowGraph nodes entryNodeIds outputNodeIds = .ok order) :
    IsLeast { order | IsExecutionOrder nodes order } order := by
  obtain ⟨⟨rules, listing⟩, rfl⟩ := (validateWorkflowGraph_eq_ok_iff _ _ _ _).mp passed
  exact executionOrderOf_least rules.distinct listing.once rules.named rules.acyclic

section
variable {nodes others : List WorkflowNodeDefinition} (shuffled : others.Perm nodes)
include shuffled

/-- Ancestors do not depend on how the nodes are listed. -/
theorem ancestor_shuffled (node ancestor : WorkflowNodeDefinition) :
    Ancestor others node ancestor ↔ Ancestor nodes node ancestor := by
  have same : DependsOn others = DependsOn nodes := by
    funext node dependency
    simp only [DependsOn, shuffled.mem_iff]
  rw [Ancestor, Ancestor, same]

/-- The rules do not depend on how the nodes are listed. -/
theorem rules_shuffled {entryNodeIds outputNodeIds : List JsString}
    (rules : GraphRules nodes entryNodeIds outputNodeIds) :
    GraphRules others entryNodeIds outputNodeIds := by
  have ids : (others.map (·.nodeId)).Perm (nodes.map (·.nodeId)) := shuffled.map _
  obtain ⟨distinct, named, acyclic, entries, outputs, verified, grounded, independent⟩ := rules
  refine ⟨ids.nodup_iff.mpr distinct, ?_, ?_, ?_, ?_, ?_, ?_, ?_⟩
  · simpa only [shuffled.mem_iff, ids.mem_iff] using named
  · simpa only [ancestor_shuffled shuffled] using acyclic
  · simpa only [shuffled.mem_iff] using entries
  · simpa only [shuffled.mem_iff] using outputs
  · simpa only [shuffled.mem_iff] using verified
  · simpa only [shuffled.mem_iff] using grounded
  · simpa only [shuffled.mem_iff, ancestor_shuffled shuffled] using independent

/-- Execution orders do not depend on how the nodes are listed. -/
theorem isExecutionOrder_shuffled (order : List JsString) :
    IsExecutionOrder others order ↔ IsExecutionOrder nodes order := by
  have ids : (others.map (·.nodeId)).Perm (nodes.map (·.nodeId)) := shuffled.map _
  constructor
  · rintro ⟨all, ordered⟩
    exact ⟨all.trans ids, by simpa only [shuffled.mem_iff] using ordered⟩
  · rintro ⟨all, ordered⟩
    exact ⟨all.trans ids.symm, by simpa only [shuffled.mem_iff] using ordered⟩

/-- A graph passes with one order however its nodes are listed. -/
theorem passed_shuffled {entryNodeIds outputNodeIds order : List JsString}
    (passed : validateWorkflowGraph nodes entryNodeIds outputNodeIds = .ok order) :
    validateWorkflowGraph others entryNodeIds outputNodeIds = .ok order := by
  obtain ⟨⟨rules, listing⟩, _⟩ := (validateWorkflowGraph_eq_ok_iff _ _ _ _).mp passed
  have rules' := rules_shuffled shuffled rules
  have listing' : GraphListing others entryNodeIds outputNodeIds :=
    ⟨by simpa only [shuffled.mem_iff] using listing.once, listing.entries, listing.outputs⟩
  have other := (validateWorkflowGraph_eq_ok_iff others entryNodeIds outputNodeIds _).mpr
    ⟨⟨rules', listing'⟩, rfl⟩
  have least := least_of_passed other
  simp only [isExecutionOrder_shuffled shuffled] at least
  rw [other, least.unique (least_of_passed passed)]

end

/-- The validation of a workflow graph accepts exactly the graphs that follow the rules and are
listed in order. The order it returns is the least of all execution orders, texts being compared by
their units, and it is the same however the nodes are listed. -/
theorem validateWorkflowGraph_exact (nodes : List WorkflowNodeDefinition)
    (entryNodeIds outputNodeIds : List JsString) :
    ((∃ order, validateWorkflowGraph nodes entryNodeIds outputNodeIds = .ok order) ↔
      GraphRules nodes entryNodeIds outputNodeIds ∧
        GraphListing nodes entryNodeIds outputNodeIds) ∧
    ∀ order, validateWorkflowGraph nodes entryNodeIds outputNodeIds = .ok order →
      IsLeast { order | IsExecutionOrder nodes order } order ∧
      ∀ others, others.Perm nodes →
        validateWorkflowGraph others entryNodeIds outputNodeIds = .ok order := by
  refine ⟨?_, fun order passed => ⟨least_of_passed passed, fun others shuffled =>
    passed_shuffled shuffled passed⟩⟩
  constructor
  · rintro ⟨order, passed⟩
    exact ((validateWorkflowGraph_eq_ok_iff _ _ _ _).mp passed).1
  · rintro followed
    exact ⟨_, (validateWorkflowGraph_eq_ok_iff _ _ _ _).mpr ⟨followed, rfl⟩⟩

/-- Two agents whose work is verified by a third one. -/
def sampleNodes : List WorkflowNodeDefinition :=
  [⟨js "v", [js "a", js "b"], .verification (js "z")⟩, ⟨js "b", [], .agent (js "y")⟩,
    ⟨js "a", [], .agent (js "x")⟩]

/-- The sample graph passes with its entries in order, and not with its entries out of order. -/
theorem sampleNodes_runs :
    validateWorkflowGraph sampleNodes [js "a", js "b"] [js "v"] =
        .ok [js "a", js "b", js "v"] ∧
      validateWorkflowGraph sampleNodes [js "b", js "a"] [js "v"] =
        .error (workflowVersionError "workflow_entry_nodes_invalid") := by
  decide_cbv

theorem validateWorkflowGraph_exact_sample :
    GraphRules sampleNodes [js "a", js "b"] [js "v"] ∧
      IsLeast { order | IsExecutionOrder sampleNodes order } [js "a", js "b", js "v"] := by
  have exact := validateWorkflowGraph_exact sampleNodes [js "a", js "b"] [js "v"]
  exact ⟨(exact.1.mp ⟨_, sampleNodes_runs.1⟩).1, (exact.2 _ sampleNodes_runs.1).1⟩

/-- An agent. -/
def sampleAgent : WorkflowNodeDefinition := ⟨js "a", [], .agent (js "x")⟩

/-- The agent and its verifier, which names it twice. -/
def repeatedNodes : List WorkflowNodeDefinition :=
  [sampleAgent, ⟨js "v", [js "a", js "a"], .verification (js "z")⟩]

/-- The only ancestor is the agent, which has none. -/
theorem ancestor_repeated {node ancestor : WorkflowNodeDefinition}
    (reached : Ancestor repeatedNodes node ancestor) :
    ancestor = sampleAgent ∧ node ≠ sampleAgent := by
  have direct : ∀ node ∈ repeatedNodes, ∀ dependency ∈ repeatedNodes,
      dependency.nodeId ∈ node.dependsOn → dependency = sampleAgent ∧ node ≠ sampleAgent := by
    decide
  induction reached with
  | single step => exact direct _ step.1 _ step.2.1 step.2.2
  | tail _ step hypothesis => exact ⟨(direct _ step.1 _ step.2.1 step.2.2).1, hypothesis.2⟩

/-- Naming a dependency twice breaks none of the rules of the nodes. -/
theorem repeatedNodes_rules : GraphRules repeatedNodes [js "a"] [js "v"] := by
  have roots : ∀ node ∈ repeatedNodes, node.dependsOn = [] → node.nodeId ∈ [js "a"] := by decide
  have terminals : ∀ node ∈ repeatedNodes, (∀ other ∈ repeatedNodes,
      node.nodeId ∉ other.dependsOn) → node.nodeId ∈ [js "v"] := by decide
  have verifiers : ∀ node ∈ repeatedNodes, node.nodeId ∈ [js "v"] →
      node.work = .verification (js "z") := by decide
  have agents : ∀ node ∈ repeatedNodes, node.dependsOn = [] → node.work = .agent (js "x") := by
    decide
  have others : ∀ node ∈ repeatedNodes, node.work ≠ .verification (js "x") := by decide
  refine ⟨by decide, by decide, fun node cycle => ?_, fun nodeId => ?_, fun nodeId => ?_, ?_, ?_, ?_⟩
  · exact (ancestor_repeated cycle).2 (ancestor_repeated cycle).1
  · constructor
    · intro listed
      obtain rfl := List.mem_singleton.mp listed
      exact ⟨sampleAgent, by decide, rfl, rfl⟩
    · rintro ⟨node, member, rfl, free⟩
      exact roots node member free
  · constructor
    · intro listed
      obtain rfl := List.mem_singleton.mp listed
      exact ⟨⟨js "v", [js "a", js "a"], .verification (js "z")⟩, by decide, rfl, by decide⟩
    · rintro ⟨node, member, rfl, free⟩
      exact terminals node member free
  · intro node member listed
    exact ⟨js "z", verifiers node member listed⟩
  · intro node member version work free
    rw [agents node member free] at work
    cases work
  · intro node member version work ancestor reached works
    rw [(ancestor_repeated reached).1] at works
    obtain rfl := Option.some.inj works
    exact others node member work

/-- The rules alone do not decide: a graph that names a dependency twice follows them and is
rejected, and so is one whose entries are listed out of order. -/
theorem rules_are_not_enough :
    (GraphRules repeatedNodes [js "a"] [js "v"] ∧
      ¬ ∃ order, validateWorkflowGraph repeatedNodes [js "a"] [js "v"] = .ok order) ∧
    (GraphRules sampleNodes [js "b", js "a"] [js "v"] ∧
      ¬ ∃ order, validateWorkflowGraph sampleNodes [js "b", js "a"] [js "v"] = .ok order) := by
  have repeated : validateWorkflowGraph repeatedNodes [js "a"] [js "v"] =
      .error (workflowVersionError "workflow_dependencies_invalid") := by
    decide_cbv
  have rules := ((validateWorkflowGraph_eq_ok_iff _ _ _ _).mp sampleNodes_runs.1).1.1
  refine ⟨⟨repeatedNodes_rules, ?_⟩, { rules with entries := fun nodeId => ?_ }, ?_⟩
  · rintro ⟨order, passed⟩
    simp [repeated] at passed
  · rw [← rules.entries nodeId]
    simp [or_comm]
  · rintro ⟨order, passed⟩
    simp [sampleNodes_runs.2] at passed

end Crewon.Verif.WorkflowValidation
