import Crewon.Lib.TopologicalOrder
import Mathlib.Data.List.Lex
import Mathlib.Logic.Relation
import Mathlib.Order.WellFoundedSet

/-!
# Least topological orders

When the ready nodes are kept in order, the order in which they are emitted is the least one of all
orders that name every node after its dependencies. It names all nodes exactly when no node depends
on itself, directly or through others.
-/

namespace Crewon.Lib.TopologicalOrder

variable {α : Type} [LinearOrder α] {insert : α → List α → List α} {graph : Graph α}

/-- An order of all nodes that names every node after its dependencies. -/
structure Graph.IsOrder (graph : Graph α) (order : List α) : Prop where
  /-- Every node is named once. -/
  all : order.Perm graph.nodes
  /-- Every node is named after its dependencies. -/
  ordered : Ordered graph.dependsOn order

/-- A node names another one as a dependency. -/
def Graph.Needs (graph : Graph α) (node dependency : α) : Prop := dependency ∈ graph.dependsOn node

/-- No node depends on itself, directly or through others. -/
def Graph.Acyclic (graph : Graph α) : Prop :=
  ∀ node ∈ graph.nodes, ¬ Relation.TransGen graph.Needs node node

/-- Insertion keeps lists ascending. -/
def InsertsInOrder (insert : α → List α → List α) : Prop :=
  ∀ node ready, ready.Pairwise (· ≤ ·) → (insert node ready).Pairwise (· ≤ ·)

/-- Releasing dependents keeps the ready nodes ascending. -/
theorem release_ascends (ascends : InsertsInOrder insert) (dependents : List α) {ready : List α}
    (indegree : α → Int) (ascending : ready.Pairwise (· ≤ ·)) :
    (release insert dependents ready indegree).1.Pairwise (· ≤ ·) := by
  induction dependents generalizing ready indegree with
  | nil => exact ascending
  | cons dependent rest hypothesis =>
    rw [release]
    split
    · exact hypothesis _ (ascends dependent ready ascending)
    · exact hypothesis _ ascending

/-- In an order that goes on from what has been emitted, the next node is ready. -/
theorem Graph.Sound.next_ready {order ready : List α} {indegree : α → Int} {next : α}
    {rest : List α} (sound : graph.Sound ⟨order, ready, indegree⟩)
    (other : graph.IsOrder (order ++ next :: rest)) : next ∈ ready := by
  have member : next ∈ graph.nodes := other.all.mem_iff.mp (by simp)
  have met : graph.missing order next = [] := by
    simp only [Graph.missing, List.filter_eq_nil_iff, decide_eq_true_eq, not_not]
    exact fun dependency needed => other.ordered order next rest rfl dependency needed
  have reached : next ∈ order ++ ready := (sound.reached next).mpr ⟨member, met⟩
  have distinct : (order ++ next :: rest).Nodup := other.all.nodup_iff.mpr graph.distinct
  have fresh : next ∉ order := fun emitted =>
    (List.nodup_append.mp distinct).2.2 next emitted next List.mem_cons_self rfl
  exact (List.mem_append.mp reached).resolve_left fresh

/-- A longer list is at most another one when its rest is, behind a first node that is at most. -/
theorem cons_le_cons_of_le {first second : α} {left right : List α} (ahead : first ≤ second)
    (rest : first = second → left ≤ right) : first :: left ≤ second :: right := by
  refine not_lt.mp fun less => ?_
  rcases List.cons_lt_cons_iff.mp less with behind | ⟨same, later⟩
  · exact absurd ahead (not_le.mpr behind)
  · exact absurd (rest same.symm) (not_le.mpr later)

/-- What has been emitted stays, and more comes behind it. -/
theorem drain_extends (insert : α → List α → List α) (dependents : α → List α) (fuel : Nat)
    (progress : Progress α) :
    ∃ tail, (drain insert dependents fuel progress).order = progress.order ++ tail := by
  induction fuel generalizing progress with
  | zero => exact ⟨[], by simp [drain]⟩
  | succ fuel hypothesis =>
    obtain ⟨order, ready, indegree⟩ := progress
    cases ready with
    | nil => exact ⟨[], by simp [drain]⟩
    | cons node ready =>
      let released := release insert (dependents node) ready indegree
      obtain ⟨tail, emitted⟩ := hypothesis ⟨order ++ [node], released.1, released.2⟩
      refine ⟨node :: tail, ?_⟩
      have going : drain insert dependents (fuel + 1) ⟨order, node :: ready, indegree⟩ =
          drain insert dependents fuel ⟨order ++ [node], released.1, released.2⟩ := rfl
      rw [going, emitted, List.append_assoc, List.singleton_append]

/-- What is emitted from ready nodes that ascend goes on in a way that is at most any other one. -/
theorem Graph.Sound.drain_le (keeps : ∀ node ready, (insert node ready).Perm (node :: ready))
    (ascends : InsertsInOrder insert) {fuel : Nat} {progress : Progress α}
    (sound : graph.Sound progress) (ascending : progress.ready.Pairwise (· ≤ ·)) (rest : List α)
    (other : graph.IsOrder (progress.order ++ rest)) :
    ∃ tail, (drain insert graph.dependents fuel progress).order = progress.order ++ tail ∧
      tail ≤ rest := by
  have least (rest : List α) : [] ≤ rest := not_lt.mp (List.not_lt_nil rest)
  induction fuel generalizing progress rest with
  | zero => exact ⟨[], by simp [drain], least rest⟩
  | succ fuel hypothesis =>
    obtain ⟨order, ready, indegree⟩ := progress
    cases ready with
    | nil => exact ⟨[], by simp [drain], least rest⟩
    | cons node ready =>
      have member : node ∈ graph.nodes := ((sound.reached node).mp (by simp)).1
      have fresh : node ∉ order := fun emitted =>
        (List.nodup_append.mp sound.distinct).2.2 node emitted node List.mem_cons_self rfl
      have listed : node ∈ rest :=
        (List.mem_append.mp (other.all.mem_iff.mpr member)).resolve_left fresh
      obtain ⟨next, rest, rfl⟩ := List.exists_cons_of_ne_nil (List.ne_nil_of_mem listed)
      have first : node ≤ next := by
        rcases List.mem_cons.mp (sound.next_ready other) with rfl | later
        · exact le_rfl
        · exact (List.pairwise_cons.mp ascending).1 next later
      let released := release insert (graph.dependents node) ready indegree
      have going : drain insert graph.dependents (fuel + 1) ⟨order, node :: ready, indegree⟩ =
          drain insert graph.dependents fuel ⟨order ++ [node], released.1, released.2⟩ := rfl
      by_cases same : node = next
      · subst same
        have ready' : released.1.Pairwise (· ≤ ·) :=
          release_ascends ascends _ indegree (List.pairwise_cons.mp ascending).2
        obtain ⟨tail, emitted, behind⟩ := hypothesis (sound.step keeps) ready' rest
          (by simpa using other)
        refine ⟨node :: tail, ?_, cons_le_cons_of_le le_rfl fun _ => behind⟩
        rw [going, emitted, List.append_assoc, List.singleton_append]
      · obtain ⟨tail, emitted⟩ := drain_extends insert graph.dependents fuel
          ⟨order ++ [node], released.1, released.2⟩
        refine ⟨node :: tail, ?_, cons_le_cons_of_le first fun equal => absurd equal same⟩
        rw [going, emitted, List.append_assoc, List.singleton_append]

/-- What ready nodes that ascend emit is the least order, as soon as there is one. -/
theorem Graph.Sound.drain_least (keeps : ∀ node ready, (insert node ready).Perm (node :: ready))
    (ascends : InsertsInOrder insert) {fuel : Nat} {ready : List α} {indegree : α → Int}
    (sound : graph.Sound ⟨[], ready, indegree⟩) (ascending : ready.Pairwise (· ≤ ·))
    (whole : graph.IsOrder (drain insert graph.dependents fuel ⟨[], ready, indegree⟩).order) :
    IsLeast { order | graph.IsOrder order }
      (drain insert graph.dependents fuel ⟨[], ready, indegree⟩).order := by
  refine ⟨whole, fun other isOrder => ?_⟩
  obtain ⟨tail, emitted, behind⟩ := sound.drain_le keeps ascends ascending other isOrder
  rw [emitted]
  exact behind

/-- In an order without repetition, the dependencies of a node stand before it. -/
theorem Ordered.before {dependsOn : α → List α} {order : List α} (ordered : Ordered dependsOn order)
    (distinct : order.Nodup) {node dependency : α} (member : node ∈ order)
    (needed : dependency ∈ dependsOn node) :
    dependency ∈ order ∧ order.idxOf dependency < order.idxOf node := by
  obtain ⟨earlier, later, rfl⟩ := List.append_of_mem member
  have ahead : dependency ∈ earlier := ordered earlier node later rfl dependency needed
  have fresh : node ∉ earlier := fun twice =>
    (List.nodup_append.mp distinct).2.2 node twice node List.mem_cons_self rfl
  refine ⟨List.mem_append_left _ ahead, ?_⟩
  rw [List.idxOf_append_of_mem ahead, List.idxOf_append_of_notMem fresh]
  exact Nat.lt_add_right _ (List.idxOf_lt_length_iff.mpr ahead)

/-- A graph that has an order has no cycle. -/
theorem Graph.IsOrder.acyclic {order : List α} (isOrder : graph.IsOrder order) :
    graph.Acyclic := by
  have distinct : order.Nodup := isOrder.all.nodup_iff.mpr graph.distinct
  have needed {node dependency : α} (member : node ∈ order)
      (needs : Relation.TransGen graph.Needs node dependency) :
      dependency ∈ order ∧ order.idxOf dependency < order.idxOf node := by
    induction needs with
    | single direct => exact isOrder.ordered.before distinct member direct
    | tail _ direct hypothesis =>
      have earlier := isOrder.ordered.before distinct hypothesis.1 direct
      exact ⟨earlier.1, earlier.2.trans hypothesis.2⟩
  intro node member cycle
  exact lt_irrefl _ (needed (isOrder.all.mem_iff.mpr member) cycle).2

/-- Where no node depends on itself and every dependency is a node, there is a node to emit next
until all are emitted. -/
theorem Graph.exists_ready (acyclic : graph.Acyclic)
    (named : ∀ node ∈ graph.nodes, ∀ dependency ∈ graph.dependsOn node, dependency ∈ graph.nodes)
    {order : List α} {node : α} (member : node ∈ graph.nodes) (left : node ∉ order) :
    ∃ next ∈ graph.nodes, next ∉ order ∧ graph.missing order next = [] := by
  let below (dependency node : α) : Prop :=
    dependency ∈ graph.nodes ∧ node ∈ graph.nodes ∧ Relation.TransGen graph.Needs node dependency
  have : IsStrictOrder α below :=
    { irrefl := fun node cycle => acyclic node cycle.1 cycle.2.2
      trans := fun _ _ _ lower upper => ⟨lower.1, upper.2.1, upper.2.2.trans lower.2.2⟩ }
  let pending : Set α := { node | node ∈ graph.nodes ∧ node ∉ order }
  have finite : pending.Finite := (List.finite_toSet graph.nodes).subset fun _ inside => inside.1
  have founded : pending.WellFoundedOn below := finite.wellFoundedOn
  obtain ⟨⟨next, inside, fresh⟩, _, lowest⟩ :=
    founded.has_min Set.univ ⟨⟨node, member, left⟩, trivial⟩
  refine ⟨next, inside, fresh, ?_⟩
  rw [Graph.missing, List.filter_eq_nil_iff]
  intro dependency needed
  rw [decide_eq_true_eq, not_not]
  by_contra outside
  have listed : dependency ∈ graph.nodes := named next inside dependency needed
  exact lowest ⟨dependency, listed, outside⟩ trivial
    ⟨listed, inside, Relation.TransGen.single needed⟩

/-- A graph without cycles whose dependencies are nodes is emitted whole. -/
theorem Graph.drain_isOrder (keeps : ∀ node ready, (insert node ready).Perm (node :: ready))
    (acyclic : graph.Acyclic)
    (named : ∀ node ∈ graph.nodes, ∀ dependency ∈ graph.dependsOn node, dependency ∈ graph.nodes)
    {fuel : Nat} {progress : Progress α} (sound : graph.Sound progress)
    (enough : graph.nodes.length ≤ progress.order.length + fuel) :
    graph.IsOrder (drain insert graph.dependents fuel progress).order := by
  obtain ⟨done, empty⟩ := Graph.drain_sound keeps sound enough
  have reached := done.reached
  have distinct := done.distinct
  rw [empty, List.append_nil] at distinct
  simp only [empty, List.append_nil] at reached
  refine ⟨?_, done.ordered⟩
  refine (List.perm_ext_iff_of_nodup distinct graph.distinct).mpr fun node => ?_
  refine ⟨fun emitted => ((reached node).mp emitted).1, fun member => ?_⟩
  by_contra left
  obtain ⟨next, inside, fresh, met⟩ := graph.exists_ready acyclic named member left
  exact fresh ((reached next).mpr ⟨inside, met⟩)

end Crewon.Lib.TopologicalOrder
