import Crewon.Lib.Checked
import Crewon.Lib.LeastOrder

/-!
# Topological orders by depth-first visits

Every node is visited after its dependencies, which are visited first. A visit of a node that is
being visited is rejected: the nodes being visited form a chain to the one that is visited next, so
such a node depends on itself. Without cycles all nodes are emitted, each after its dependencies,
and the visits are never nested deeper than there are nodes.
-/

namespace Crewon.Lib.DepthFirst

open Crewon.Checked TopologicalOrder

variable {α ε : Type}

/-- The nodes being visited, the nodes visited and the nodes emitted in order. -/
structure Traversal (α : Type) where
  visiting : List α
  visited : List α
  ordered : List α

/-- Nothing is visited yet. -/
def Traversal.start : Traversal α := ⟨[], [], []⟩

section Visit

variable [DecidableEq α] (onCycle onExhausted : ε) (dependencies : α → Except ε (List α))

/-- Visit several nodes in order. -/
def visitEach (visit : α → Traversal α → Except ε (Traversal α)) :
    List α → Traversal α → Except ε (Traversal α)
  | [], state => .ok state
  | node :: rest, state => do
    let next ← visit node state
    visitEach visit rest next

/-- Visit a node after its dependencies, at most at the given depth. -/
def visit : Nat → α → Traversal α → Except ε (Traversal α)
  | 0, _, _ => .error onExhausted
  | depth + 1, node, state =>
    if node ∈ state.visiting then .error onCycle
    else if node ∈ state.visited then .ok state
    else do
      let needed ← dependencies node
      let inner ← visitEach (visit depth) needed
        { state with visiting := state.visiting ++ [node] }
      return {
        visiting := inner.visiting.filter (· ≠ node)
        visited := inner.visited ++ [node]
        ordered := inner.ordered ++ [node] }

/-- The nodes in the order in which they are emitted. -/
def traverse (nodes : List α) : Except ε (List α) :=
  (visitEach (visit onCycle onExhausted dependencies (nodes.length + 1)) nodes .start).map
    Traversal.ordered

end Visit

variable [LinearOrder α] {graph : Graph α}

/-- What holds between two visits: what is emitted is visited and comes after its dependencies, and
nothing that is being visited has been emitted. -/
structure Sound (graph : Graph α) (state : Traversal α) : Prop where
  visited : state.visited = state.ordered
  distinct : state.ordered.Nodup
  once : state.visiting.Nodup
  apart : ∀ node ∈ state.visiting, node ∉ state.ordered
  visitingNodes : ∀ node ∈ state.visiting, node ∈ graph.nodes
  orderedNodes : ∀ node ∈ state.ordered, node ∈ graph.nodes
  ordered : Ordered graph.dependsOn state.ordered

/-- What a visit leaves: nothing else is being visited, and what was emitted still is. -/
structure Extends (graph : Graph α) (earlier later : Traversal α) : Prop where
  sound : Sound graph later
  visiting : later.visiting = earlier.visiting
  kept : ∀ node ∈ earlier.ordered, node ∈ later.ordered

/-- Nodes can be visited next: everything being visited depends on them, and there is room for as
many nested visits as there are other nodes. -/
structure Next (graph : Graph α) (depth : Nat) (state : Traversal α) (nodes : List α) : Prop where
  named : ∀ node ∈ nodes, node ∈ graph.nodes
  chain : ∀ node ∈ nodes, ∀ outer ∈ state.visiting, Relation.TransGen graph.Needs outer node
  room : graph.nodes.length + 1 ≤ depth + state.visiting.length

/-- What comes of a visit: the state after it, or a node that depends on itself. -/
inductive Visited (graph : Graph α) (onCycle : ε) (state : Traversal α) (nodes : List α) :
    Except ε (Traversal α) → Prop where
  /-- The nodes have been emitted. -/
  | emitted (later : Traversal α) (extends_ : Extends graph state later)
      (all : ∀ node ∈ nodes, node ∈ later.ordered) : Visited graph onCycle state nodes (.ok later)
  /-- There is a cycle. -/
  | cycle (found : ¬ graph.Acyclic) : Visited graph onCycle state nodes (.error onCycle)

section Visits

variable {onCycle onExhausted : ε} {dependencies : α → Except ε (List α)}
  (read : ∀ node ∈ graph.nodes, dependencies node = .ok (graph.dependsOn node))
  (named : ∀ node ∈ graph.nodes, ∀ dependency ∈ graph.dependsOn node, dependency ∈ graph.nodes)

/-- Visits one after the other come to what each of them comes to. -/
theorem visitEach_spec {depth : Nat}
    {visit : α → Traversal α → Except ε (Traversal α)}
    (each : ∀ node state, Sound graph state → Next graph depth state [node] →
      Visited graph onCycle state [node] (visit node state))
    {nodes : List α} {state : Traversal α} (sound : Sound graph state)
    (next : Next graph depth state nodes) :
    Visited graph onCycle state nodes (visitEach visit nodes state) := by
  induction nodes generalizing state with
  | nil => exact .emitted state ⟨sound, rfl, fun _ member => member⟩ nofun
  | cons node rest hypothesis =>
    have first : Next graph depth state [node] :=
      ⟨by simpa using next.named node List.mem_cons_self,
        by simpa using next.chain node List.mem_cons_self, next.room⟩
    rw [visitEach]
    cases outcome : visit node state with
    | error failure =>
      have visited := each node state sound first
      rw [outcome] at visited
      cases visited with
      | cycle found => exact .cycle found
    | ok later =>
      have visited := each node state sound first
      rw [outcome] at visited
      cases visited with
      | emitted _ extended all =>
        have others : Next graph depth later rest := by
          refine ⟨fun other member => next.named other (List.mem_cons_of_mem _ member), ?_, ?_⟩
          · rw [extended.visiting]
            exact fun other member => next.chain other (List.mem_cons_of_mem _ member)
          · rw [extended.visiting]
            exact next.room
        rw [ok_bind]
        have behind := hypothesis extended.sound others
        generalize visitEach visit rest later = result at behind ⊢
        cases behind with
        | cycle found => exact .cycle found
        | emitted last further restAll =>
          refine .emitted last ⟨further.sound, further.visiting.trans extended.visiting,
            fun other member => further.kept other (extended.kept other member)⟩ ?_
          intro other member
          rcases List.mem_cons.mp member with rfl | later
          · exact further.kept _ (all _ List.mem_cons_self)
          · exact restAll other later

include read named

/-- A visit emits the node after its dependencies, or finds a cycle. -/
theorem visit_spec {depth : Nat} {node : α} {state : Traversal α} (sound : Sound graph state)
    (next : Next graph depth state [node]) :
    Visited graph onCycle state [node]
      (visit onCycle onExhausted dependencies depth node state) := by
  induction depth generalizing node state with
  | zero =>
    -- more nodes are being visited than there are
    have within : state.visiting.length ≤ graph.nodes.length :=
      (sound.once.subperm sound.visitingNodes).length_le
    have room := next.room
    omega
  | succ depth hypothesis =>
    have member : node ∈ graph.nodes := next.named node List.mem_cons_self
    have chain := next.chain node List.mem_cons_self
    rw [visit]
    by_cases visiting : node ∈ state.visiting
    · rw [if_pos visiting]
      exact .cycle fun acyclic => acyclic node member (chain node visiting)
    rw [if_neg visiting]
    by_cases done : node ∈ state.visited
    · rw [if_pos done]
      refine .emitted state ⟨sound, rfl, fun _ held => held⟩ ?_
      simpa [sound.visited] using done
    have fresh : node ∉ state.ordered := sound.visited ▸ done
    rw [if_neg done, read node member, ok_bind]
    let inside : Traversal α := { state with visiting := state.visiting ++ [node] }
    have insideSound : Sound graph inside := by
      refine ⟨sound.visited, sound.distinct, ?_, ?_, ?_, sound.orderedNodes, sound.ordered⟩
      · exact List.nodup_append.mpr ⟨sound.once, List.nodup_singleton _, by
          intro other held single here
          rw [List.mem_singleton.mp here]
          exact fun same => visiting (same ▸ held)⟩
      · intro other held
        rcases List.mem_append.mp held with outer | here
        · exact sound.apart other outer
        · rw [List.mem_singleton.mp here]
          exact fresh
      · intro other held
        rcases List.mem_append.mp held with outer | here
        · exact sound.visitingNodes other outer
        · rw [List.mem_singleton.mp here]
          exact member
    have insideNext : Next graph depth inside (graph.dependsOn node) := by
      refine ⟨named node member, ?_, ?_⟩
      · intro dependency needed outer held
        rcases List.mem_append.mp held with before | here
        · exact (chain outer before).tail needed
        · rw [List.mem_singleton.mp here]
          exact .single needed
      · have room := next.room
        have length : inside.visiting.length = state.visiting.length + 1 :=
          List.length_append
        omega
    have spec := visitEach_spec (fun _ _ => hypothesis) insideSound insideNext
    generalize visitEach (visit onCycle onExhausted dependencies depth) (graph.dependsOn node)
      inside = result at spec ⊢
    cases spec with
    | cycle found => exact .cycle found
    | emitted inner extended all =>
      have left : inner.visiting.filter (· ≠ node) = state.visiting := by
        rw [extended.visiting, List.filter_append, List.filter_eq_self.mpr ?_]
        · simp
        · intro other held
          simpa using fun same : other = node => visiting (same ▸ held)
      have nodeInside : node ∈ inner.visiting := by
        rw [extended.visiting]
        exact List.mem_append_right _ List.mem_cons_self
      have later := extended.sound
      have emitted : node ∉ inner.ordered := later.apart node nodeInside
      rw [ok_bind]
      refine .emitted _ ⟨⟨?_, ?_, ?_, ?_, ?_, ?_, ?_⟩, left, ?_⟩ ?_
      · exact congrArg (· ++ [node]) later.visited
      · exact List.nodup_append.mpr ⟨later.distinct, List.nodup_singleton _, by
          intro other held single here
          rw [List.mem_singleton.mp here]
          exact fun same => emitted (same ▸ held)⟩
      · exact left.symm ▸ sound.once
      · intro other held done
        dsimp only at held done
        rw [left] at held
        rcases List.mem_append.mp done with before | here
        · refine later.apart other ?_ before
          rw [extended.visiting]
          exact List.mem_append_left _ held
        · exact visiting (List.mem_singleton.mp here ▸ held)
      · exact fun other held => sound.visitingNodes other (left ▸ held)
      · intro other held
        rcases List.mem_append.mp held with before | here
        · exact later.orderedNodes other before
        · rw [List.mem_singleton.mp here]
          exact member
      · exact later.ordered.concat all
      · exact fun other held => List.mem_append_left _ (extended.kept other held)
      · simp

/-- Visiting all nodes emits them in an order, or finds a cycle. -/
theorem traverse_spec :
    (∃ order, traverse onCycle onExhausted dependencies graph.nodes = .ok order ∧
      graph.IsOrder order ∧ graph.Acyclic) ∨
    (traverse onCycle onExhausted dependencies graph.nodes = .error onCycle ∧
      ¬ graph.Acyclic) := by
  have sound : Sound graph Traversal.start :=
    ⟨rfl, List.nodup_nil, List.nodup_nil, nofun, nofun, nofun, by
      intro earlier node later split
      simp [Traversal.start] at split⟩
  have next : Next graph (graph.nodes.length + 1) Traversal.start graph.nodes :=
    ⟨fun _ member => member, nofun, le_rfl⟩
  have each (node : α) (state : Traversal α) (held : Sound graph state)
      (here : Next graph (graph.nodes.length + 1) state [node]) :
      Visited graph onCycle state [node]
        (visit onCycle onExhausted dependencies (graph.nodes.length + 1) node state) :=
    visit_spec read named held here
  have spec := visitEach_spec each sound next
  unfold traverse
  generalize visitEach (visit onCycle onExhausted dependencies (graph.nodes.length + 1)) graph.nodes
    Traversal.start = result at spec ⊢
  cases spec with
  | cycle found => exact .inr ⟨rfl, found⟩
  | emitted later extended all =>
    have isOrder : graph.IsOrder later.ordered := by
      refine ⟨?_, extended.sound.ordered⟩
      refine (List.perm_ext_iff_of_nodup extended.sound.distinct graph.distinct).mpr fun node => ?_
      exact ⟨extended.sound.orderedNodes node, all node⟩
    exact .inl ⟨later.ordered, rfl, isOrder, isOrder.acyclic⟩

end Visits

end Crewon.Lib.DepthFirst
