import Crewon.Lib.Places
import Mathlib.Data.List.Nodup
import Mathlib.Data.List.Perm.Basic
import Mathlib.Data.List.Perm.Subperm
import Mathlib.Logic.Function.Basic

/-!
# Topological orders by counting open dependencies

Every node counts its dependencies that have not been emitted. A node whose count is zero is ready;
emitting a ready node lowers the counts of its dependents, some of which become ready. What is
emitted never repeats a node and names every node after its dependencies, in whatever order the
ready nodes are kept.
-/

namespace Crewon.Lib.TopologicalOrder

variable {α : Type}

/-- Every node comes after its dependencies. -/
def Ordered (dependsOn : α → List α) (order : List α) : Prop :=
  ∀ earlier node later, order = earlier ++ node :: later →
    ∀ dependency ∈ dependsOn node, dependency ∈ earlier

/-- A node whose dependencies were emitted can be emitted next. -/
theorem Ordered.concat {dependsOn : α → List α} {order : List α} {node : α}
    (ordered : Ordered dependsOn order) (met : ∀ dependency ∈ dependsOn node, dependency ∈ order) :
    Ordered dependsOn (order ++ [node]) := by
  intro earlier found later split dependency needed
  rcases concat_eq_append_cons split with ⟨rfl, rfl⟩ | ⟨init, inner⟩
  · exact met dependency needed
  · exact ordered earlier found init inner dependency needed

variable [DecidableEq α]

/-- The nodes emitted, the nodes that are ready and the counts of open dependencies. -/
structure Progress (α : Type) where
  /-- The nodes emitted so far, in order. -/
  order : List α
  /-- The nodes that are ready. -/
  ready : List α
  /-- The dependencies of each node that have not been emitted. -/
  indegree : α → Int

/-- Lower the counts of dependents, and keep those that become ready. -/
def release (insert : α → List α → List α) :
    List α → List α → (α → Int) → List α × (α → Int)
  | [], ready, indegree => (ready, indegree)
  | dependent :: rest, ready, indegree =>
    let remaining := indegree dependent - 1
    let lowered := Function.update indegree dependent remaining
    if remaining = 0 then release insert rest (insert dependent ready) lowered
    else release insert rest ready lowered

/-- Emit ready nodes until none is left, at most the given number. -/
def drain (insert : α → List α → List α) (dependents : α → List α) :
    Nat → Progress α → Progress α
  | 0, progress => progress
  | fuel + 1, progress =>
    match progress.ready with
    | [] => progress
    | node :: ready =>
      let released := release insert (dependents node) ready progress.indegree
      drain insert dependents fuel
        { order := progress.order ++ [node], ready := released.1, indegree := released.2 }

variable {insert : α → List α → List α}

/-- Releasing dependents lowers the count of each once, and keeps those whose count was one. -/
theorem release_spec (keeps : ∀ node ready, (insert node ready).Perm (node :: ready))
    {dependents : List α} (distinct : dependents.Nodup) (ready : List α) (indegree : α → Int) :
    (∀ node, (release insert dependents ready indegree).2 node =
      if node ∈ dependents then indegree node - 1 else indegree node) ∧
    (release insert dependents ready indegree).1.Perm
      (dependents.filter (fun node => indegree node = 1) ++ ready) := by
  induction dependents generalizing ready indegree with
  | nil => simp [release]
  | cons dependent rest hypothesis =>
    obtain ⟨fresh, distinct⟩ := List.nodup_cons.mp distinct
    let lowered := Function.update indegree dependent (indegree dependent - 1)
    have others (node : α) (other : node ∈ rest) : lowered node = indegree node := by
      have different : node ≠ dependent := by
        rintro rfl
        exact fresh other
      exact Function.update_of_ne different _ _
    have filtered : rest.filter (fun node => lowered node = 1) =
        rest.filter (fun node => indegree node = 1) :=
      List.filter_congr fun node other => by rw [others node other]
    have counts (node : α) : (if node ∈ rest then lowered node - 1 else lowered node) =
        if node ∈ dependent :: rest then indegree node - 1 else indegree node := by
      by_cases same : node = dependent
      · subst same
        simp [fresh, lowered]
      · have kept : lowered node = indegree node := Function.update_of_ne same _ _
        simp [same, kept]
    by_cases zero : indegree dependent - 1 = 0
    · obtain ⟨lower, kept⟩ := hypothesis distinct (insert dependent ready) lowered
      have one : indegree dependent = 1 := by omega
      simp only [release, zero, ↓reduceIte]
      rw [show Function.update indegree dependent 0 = lowered by simp [lowered, zero]]
      refine ⟨fun node => (lower node).trans (counts node), kept.trans ?_⟩
      rw [filtered, List.filter_cons_of_pos (by simp [one])]
      exact ((keeps dependent ready).append_left _).trans List.perm_middle
    · obtain ⟨lower, kept⟩ := hypothesis distinct ready lowered
      have other : ¬ indegree dependent = 1 := by omega
      simp only [release, zero, ↓reduceIte]
      refine ⟨fun node => (lower node).trans (counts node), kept.trans ?_⟩
      rw [filtered, List.filter_cons_of_neg (by simp [other])]

/-- A graph: distinct nodes, each with distinct dependencies. -/
structure Graph (α : Type) [DecidableEq α] where
  /-- The nodes. -/
  nodes : List α
  /-- The dependencies of a node. -/
  dependsOn : α → List α
  /-- The nodes that depend on a node. -/
  dependents : α → List α
  /-- No node occurs twice. -/
  distinct : nodes.Nodup
  /-- No node names a dependency twice. -/
  once : ∀ node ∈ nodes, (dependsOn node).Nodup
  /-- The dependents of a node are the nodes that name it. -/
  inverse : ∀ node, (dependents node).Perm (nodes.filter fun other => node ∈ dependsOn other)

/-- The dependencies of a node outside the nodes emitted. -/
def Graph.missing (graph : Graph α) (order : List α) (node : α) : List α :=
  (graph.dependsOn node).filter (· ∉ order)

/-- What holds of the emitted and the ready nodes at every turn. -/
structure Graph.Sound (graph : Graph α) (progress : Progress α) : Prop where
  /-- Nothing is emitted or ready twice. -/
  distinct : (progress.order ++ progress.ready).Nodup
  /-- Only nodes are emitted or ready, and of them those without a missing dependency. -/
  reached : ∀ node, node ∈ progress.order ++ progress.ready ↔
    node ∈ graph.nodes ∧ graph.missing progress.order node = []
  /-- Every count is the number of missing dependencies. -/
  counts : ∀ node ∈ graph.nodes,
    progress.indegree node = (graph.missing progress.order node).length
  /-- The nodes emitted come after their dependencies. -/
  ordered : Ordered graph.dependsOn progress.order

/-- Emitting a node takes it out of the missing dependencies of its dependents. -/
theorem Graph.missing_concat (graph : Graph α) {order : List α} {node other : α}
    (member : other ∈ graph.nodes) (fresh : node ∉ order) :
    (graph.missing (order ++ [node]) other).length =
      if node ∈ graph.dependsOn other then (graph.missing order other).length - 1
      else (graph.missing order other).length := by
  have erased : graph.missing (order ++ [node]) other = (graph.missing order other).erase node := by
    rw [Graph.missing, Graph.missing,
      List.Nodup.erase_eq_filter ((graph.once other member).filter _), List.filter_filter]
    refine List.filter_congr fun dependency _ => ?_
    by_cases same : dependency = node <;> simp [same]
  rw [erased, List.length_erase]
  have listed : node ∈ graph.missing order other ↔ node ∈ graph.dependsOn other := by
    simp [Graph.missing, fresh]
  simp only [listed]

/-- The nodes without dependencies are ready first. -/
theorem Graph.sound_start (graph : Graph α) {ready : List α} {indegree : α → Int}
    (roots : ready.Perm (graph.nodes.filter fun node => graph.dependsOn node = []))
    (counts : ∀ node ∈ graph.nodes, indegree node = (graph.dependsOn node).length) :
    graph.Sound ⟨[], ready, indegree⟩ := by
  have all (node : α) : graph.missing [] node = graph.dependsOn node := by simp [Graph.missing]
  refine ⟨?_, ?_, ?_, ?_⟩
  · rw [List.nil_append]
    exact (roots.nodup_iff).mpr (graph.distinct.filter _)
  · intro node
    rw [List.nil_append, roots.mem_iff, all]
    simp
  · intro node member
    rw [all]
    exact counts node member
  · intro earlier node later split
    simp at split

/-- Emitting a ready node keeps what holds at every turn. -/
theorem Graph.Sound.step {graph : Graph α}
    (keeps : ∀ node ready, (insert node ready).Perm (node :: ready)) {order ready : List α}
    {node : α} {indegree : α → Int} (sound : graph.Sound ⟨order, node :: ready, indegree⟩) :
    graph.Sound ⟨order ++ [node],
      (release insert (graph.dependents node) ready indegree).1,
      (release insert (graph.dependents node) ready indegree).2⟩ := by
  have members := graph.inverse node
  have distinct : (graph.dependents node).Nodup := members.nodup_iff.mpr (graph.distinct.filter _)
  obtain ⟨lower, kept⟩ := release_spec keeps distinct ready indegree
  have dependent (other : α) :
      other ∈ graph.dependents node ↔ other ∈ graph.nodes ∧ node ∈ graph.dependsOn other := by
    rw [members.mem_iff]
    simp
  have nodup : (order ++ node :: ready).Nodup := sound.distinct
  have fresh : node ∉ order := by
    intro emitted
    exact (List.nodup_append.mp nodup).2.2 node emitted node List.mem_cons_self rfl
  have here : node ∈ graph.nodes ∧ graph.missing order node = [] :=
    (sound.reached node).mp (by simp)
  have count (other : α) (member : other ∈ graph.nodes) :
      (release insert (graph.dependents node) ready indegree).2 other =
        (graph.missing (order ++ [node]) other).length := by
    have counted : indegree other = (graph.missing order other).length := sound.counts other member
    rw [lower, graph.missing_concat member fresh, counted]
    by_cases needs : node ∈ graph.dependsOn other
    · have listed : node ∈ graph.missing order other := by simp [Graph.missing, needs, fresh]
      have positive : 0 < (graph.missing order other).length := List.length_pos_of_mem listed
      rw [if_pos ((dependent other).mpr ⟨member, needs⟩), if_pos needs]
      omega
    · rw [if_neg (fun listed => needs ((dependent other).mp listed).2), if_neg needs]
  have before (other : α) : other ∈ order ++ node :: ready ↔
      other ∈ graph.nodes ∧ graph.missing order other = [] := sound.reached other
  have opened (other : α) : other ∈ (graph.dependents node).filter (fun node => indegree node = 1) ↔
      other ∈ graph.nodes ∧ node ∈ graph.dependsOn other ∧
        (graph.missing order other).length = 1 := by
    rw [List.mem_filter, dependent]
    constructor
    · rintro ⟨⟨member, needs⟩, one⟩
      have counted : indegree other = (graph.missing order other).length :=
        sound.counts other member
      simp only [decide_eq_true_eq] at one
      exact ⟨member, needs, by omega⟩
    · rintro ⟨member, needs, one⟩
      have counted : indegree other = (graph.missing order other).length :=
        sound.counts other member
      simp only [decide_eq_true_eq]
      exact ⟨⟨member, needs⟩, by omega⟩
  have split : ((order ++ [node]) ++ (release insert (graph.dependents node) ready indegree).1).Perm
      ((graph.dependents node).filter (fun node => indegree node = 1) ++
        (order ++ node :: ready)) := by
    refine (kept.append_left _).trans ((List.perm_append_comm_assoc _ _ _).trans ?_)
    rw [List.append_assoc, List.singleton_append]
  refine ⟨?_, ?_, count, ?_⟩
  · refine split.nodup_iff.mpr (List.Nodup.append (distinct.filter _) nodup ?_)
    intro other new old
    have empty := ((before other).mp old).2
    have one := ((opened other).mp new).2.2
    simp [empty] at one
  · intro other
    rw [split.mem_iff, List.mem_append, opened, before]
    constructor
    · rintro (⟨member, needs, one⟩ | ⟨member, empty⟩)
      · refine ⟨member, List.eq_nil_of_length_eq_zero ?_⟩
        rw [graph.missing_concat member fresh, if_pos needs]
        omega
      · refine ⟨member, List.eq_nil_of_length_eq_zero ?_⟩
        rw [graph.missing_concat member fresh, empty]
        simp
    · rintro ⟨member, empty⟩
      have lengths := graph.missing_concat member fresh
      rw [empty, List.length_nil] at lengths
      by_cases needs : node ∈ graph.dependsOn other
      · have listed : node ∈ graph.missing order other := by simp [Graph.missing, needs, fresh]
        have positive := List.length_pos_of_mem listed
        rw [if_pos needs] at lengths
        exact .inl ⟨member, needs, by omega⟩
      · rw [if_neg needs] at lengths
        exact .inr ⟨member, List.eq_nil_of_length_eq_zero lengths.symm⟩
  · refine sound.ordered.concat ?_
    intro dependency needed
    have none := here.2
    simp only [Graph.missing, List.filter_eq_nil_iff, decide_eq_true_eq, not_not] at none
    exact none dependency needed

/-- What is emitted until nothing is ready is sound, and nothing is left to emit. -/
theorem Graph.drain_sound {graph : Graph α}
    (keeps : ∀ node ready, (insert node ready).Perm (node :: ready)) {fuel : Nat}
    {progress : Progress α} (sound : graph.Sound progress)
    (enough : graph.nodes.length ≤ progress.order.length + fuel) :
    graph.Sound (drain insert graph.dependents fuel progress) ∧
      (drain insert graph.dependents fuel progress).ready = [] := by
  induction fuel generalizing progress with
  | zero =>
    refine ⟨sound, ?_⟩
    -- as many nodes were emitted as there are, so none can be ready
    have within : (progress.order ++ progress.ready).length ≤ graph.nodes.length := by
      refine (List.subperm_of_subset sound.distinct ?_).length_le
      intro node member
      exact ((sound.reached node).mp member).1
    rw [List.length_append] at within
    show progress.ready = []
    exact List.eq_nil_of_length_eq_zero (by omega)
  | succ fuel hypothesis =>
    obtain ⟨order, ready, indegree⟩ := progress
    cases ready with
    | nil => exact ⟨sound, rfl⟩
    | cons node ready =>
      refine hypothesis (sound.step keeps) ?_
      simp only [List.length_append, List.length_singleton] at enough ⊢
      omega

end Crewon.Lib.TopologicalOrder
