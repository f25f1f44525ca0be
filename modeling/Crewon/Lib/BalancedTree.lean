import Mathlib.Data.List.Pairwise
import Mathlib.Order.Lattice

/-!
# Balanced search trees

A tree stores the height of every node with it. It is a search tree when the keys left of a node are
less than its key and those right of it are greater, which is to say that its keys ascend; it is
balanced when every stored height is true and the heights of the two subtrees of a node differ by at
most one. A node whose subtrees differ by two is balanced again by one or two rotations.
-/

namespace Crewon.Lib

/-- A tree of keys, with the height stored at every node. -/
inductive SearchTree (α : Type) where
  | nil
  | node (left : SearchTree α) (key : α) (right : SearchTree α) (height : Nat)
deriving DecidableEq

namespace SearchTree

variable {α : Type}

/-- The keys from left to right. -/
def keys : SearchTree α → List α
  | .nil => []
  | .node left key right _ => left.keys ++ key :: right.keys

/-- The stored height. -/
def height : SearchTree α → Nat
  | .nil => 0
  | .node _ _ _ height => height

/-- The length of the longest way down. -/
def trueHeight : SearchTree α → Nat
  | .nil => 0
  | .node left _ right _ => max left.trueHeight right.trueHeight + 1

/-- A search tree. -/
def Ordered [LT α] : SearchTree α → Prop
  | .nil => True
  | .node left key right _ =>
    (∀ other ∈ left.keys, other < key) ∧ (∀ other ∈ right.keys, key < other) ∧ left.Ordered ∧
      right.Ordered

/-- Every stored height is true, and the heights of two subtrees differ by at most one. -/
def Balanced : SearchTree α → Prop
  | .nil => True
  | .node left _ right height =>
    height = max left.trueHeight right.trueHeight + 1 ∧
      left.trueHeight ≤ right.trueHeight + 1 ∧ right.trueHeight ≤ left.trueHeight + 1 ∧
      left.Balanced ∧ right.Balanced

/-- A node with the height of its subtrees. -/
def join (left : SearchTree α) (key : α) (right : SearchTree α) : SearchTree α :=
  .node left key right (max left.height right.height + 1)

/-- A search tree is one whose keys ascend. -/
theorem ordered_iff [Preorder α] {tree : SearchTree α} :
    tree.Ordered ↔ tree.keys.Pairwise (· < ·) := by
  induction tree with
  | nil => simp [Ordered, keys]
  | node left key right height lefts rights =>
    rw [Ordered, lefts, rights, keys, List.pairwise_append, List.pairwise_cons]
    constructor
    · rintro ⟨less, greater, before, after⟩
      refine ⟨before, ⟨greater, after⟩, ?_⟩
      intro first member second later
      rcases List.mem_cons.mp later with rfl | behind
      · exact less first member
      · exact lt_trans (less first member) (greater second behind)
    · rintro ⟨before, ⟨greater, after⟩, across⟩
      exact ⟨fun other member => across other member key List.mem_cons_self, greater, before, after⟩

/-- The stored height of a balanced tree is its height. -/
theorem Balanced.height_eq {tree : SearchTree α} (balanced : tree.Balanced) :
    tree.height = tree.trueHeight := by
  cases tree with
  | nil => rfl
  | node => exact balanced.1

/-- The height of a node. -/
theorem trueHeight_join (left : SearchTree α) (key : α) (right : SearchTree α) :
    (join left key right).trueHeight = max left.trueHeight right.trueHeight + 1 := rfl

/-- A node of balanced trees of nearly the same height is balanced. -/
theorem Balanced.join {left right : SearchTree α} (key : α) (lefts : left.Balanced)
    (rights : right.Balanced) (notHigher : left.trueHeight ≤ right.trueHeight + 1)
    (notLower : right.trueHeight ≤ left.trueHeight + 1) : (join left key right).Balanced := by
  refine ⟨?_, notHigher, notLower, lefts, rights⟩
  rw [lefts.height_eq, rights.height_eq]

end SearchTree

end Crewon.Lib
