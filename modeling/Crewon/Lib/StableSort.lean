import Mathlib.Data.List.Permutation
import Mathlib.Data.List.Sort

/-!
# Stable sorts and bounded selection

Sorting keeps items that compare alike in their given order. The beginning of a sorted list can be
selected in one pass that never holds more items than it returns: every item is placed behind what
does not come after it, and what no longer fits is dropped.
-/

namespace Crewon.Lib

section StableSort

variable {α : Type} {comes : α → α → Prop} [DecidableRel comes]

/-- Place an item in front of the first one that it comes strictly before. -/
def insertBehind (comes : α → α → Prop) [DecidableRel comes] (item : α) : List α → List α
  | [] => [item]
  | first :: rest =>
    if comes first item then first :: insertBehind comes item rest else item :: first :: rest

/-- What does not fit is dropped before an item is placed or after. -/
theorem take_insertBehind (item : α) (sorted : List α) (limit : Nat) :
    (insertBehind comes item (sorted.take limit)).take limit =
      (insertBehind comes item sorted).take limit := by
  induction sorted generalizing limit with
  | nil => simp
  | cons first rest hypothesis =>
    cases limit with
    | zero => rfl
    | succ limit =>
      rw [List.take_succ_cons, insertBehind, insertBehind]
      split_ifs
      · rw [List.take_succ_cons, List.take_succ_cons, hypothesis]
      · rw [List.take_succ_cons, List.take_succ_cons]
        cases limit with
        | zero => rfl
        | succ limit =>
          rw [List.take_succ_cons, List.take_succ_cons, List.take_take, Nat.min_eq_left (by omega)]

/-- An item is placed at the point up to which everything comes before it. -/
theorem insertIdx_eq_insertBehind {item : α} {sorted : List α} {point : Nat}
    (inside : point ≤ sorted.length)
    (front : ∀ place (held : place < sorted.length), place < point → comes sorted[place] item)
    (back : ∀ place (held : place < sorted.length), point ≤ place → ¬ comes sorted[place] item) :
    sorted.insertIdx point item = insertBehind comes item sorted := by
  induction sorted generalizing point with
  | nil =>
    rw [Nat.le_zero.mp inside]
    rfl
  | cons first rest hypothesis =>
    cases point with
    | zero =>
      have notBefore : ¬ comes first item := back 0 (by simp) le_rfl
      rw [insertBehind, if_neg notBefore]
      rfl
    | succ point =>
      have before : comes first item := front 0 (by simp) (by omega)
      rw [insertBehind, if_pos before, List.insertIdx_succ_cons]
      congr 1
      refine hypothesis (Nat.le_of_succ_le_succ inside) ?_ ?_
      · intro place held less
        exact front (place + 1) (by simpa using held) (by omega)
      · intro place held behind
        exact back (place + 1) (by simpa using held) (by omega)

/-- Of two items of a list without duplicates one is in front. -/
theorem not_sublist_pair {items : List α} (distinct : items.Nodup) {first second : α}
    (placed : [first, second].Sublist items) : ¬ [second, first].Sublist items := by
  induction items with
  | nil => simp at placed
  | cons item items hypothesis =>
    obtain ⟨apart, rest⟩ := List.nodup_cons.mp distinct
    intro exchanged
    rcases List.sublist_cons_iff.mp placed with later | ⟨tail, same, within⟩
    · have secondIn : second ∈ items := later.subset (by simp)
      rcases List.sublist_cons_iff.mp exchanged with deeper | ⟨tail, same, _⟩
      · exact hypothesis rest later deeper
      · rw [List.cons.injEq] at same
        exact apart (same.1 ▸ secondIn)
    · rw [List.cons.injEq] at same
      obtain ⟨rfl, rfl⟩ := same
      rcases List.sublist_cons_iff.mp exchanged with deeper | ⟨tail, same, within'⟩
      · exact apart (deeper.subset (by simp))
      · rw [List.cons.injEq] at same
        obtain ⟨rfl, rfl⟩ := same
        exact apart (within.subset (by simp))

/-- Leaving items out of a sorted list that was placed in. -/
theorem filter_orderedInsert_of_neg {keep : α → Bool} {item : α} (dropped : ¬ keep item = true)
    (sorted : List α) :
    (sorted.orderedInsert comes item).filter keep = sorted.filter keep := by
  induction sorted with
  | nil => simp [dropped]
  | cons first rest hypothesis =>
    rw [List.orderedInsert_cons]
    split_ifs
    · rw [List.filter_cons_of_neg dropped]
    · rw [List.filter_cons, List.filter_cons, hypothesis]

/-- Halve a range of places until it is empty: the first place that does not stay in front. -/
def bisect (stays : Nat → Bool) (low high : Nat) : Nat :=
  if low < high then
    let middle := (low + high) / 2
    if stays middle then bisect stays (middle + 1) high else bisect stays low middle
  else low
termination_by high - low
decreasing_by all_goals omega

/-- What halving finds: everything in front of it stays, nothing behind it does. -/
theorem bisect_spec {stays : Nat → Bool} {low high length : Nat} (range : low ≤ high)
    (inside : high ≤ length)
    (closed : ∀ first second, first ≤ second → second < length → stays second = true →
      stays first = true)
    (front : ∀ place, place < low → stays place = true)
    (back : ∀ place, high ≤ place → place < length → stays place = false) :
    bisect stays low high ≤ high ∧
      (∀ place, place < bisect stays low high → stays place = true) ∧
      ∀ place, bisect stays low high ≤ place → place < length → stays place = false := by
  fun_induction bisect stays low high with
  | case1 low high less middle here hypothesis =>
    refine hypothesis (by omega) inside ?_ back
    intro place before
    exact closed place middle (by omega) (by omega) here
  | case2 low high less middle here hypothesis =>
    have found := hypothesis (by omega) (by omega) front ?_
    · exact ⟨by omega, found.2⟩
    · intro place behind held
      by_contra stay
      exact here (closed middle place behind held (by simpa using stay))
  | case3 low high notLess => exact ⟨by omega, front, fun place => back place ∘ by omega⟩

section Preorder

variable [IsTrans α comes]

/-- What comes before an item in a sorted list is in front of what does not. -/
theorem comes_closed {item : α} {sorted : List α} (ordered : sorted.Pairwise comes)
    {first second : Nat} (before : first ≤ second) (held : second < sorted.length)
    (behind : (sorted[second]?.all fun other => comes other item) = true) :
    (sorted[first]?.all fun other => comes other item) = true := by
  rw [List.getElem?_eq_getElem held, Option.all_some, decide_eq_true_iff] at behind
  rw [List.getElem?_eq_getElem (by omega), Option.all_some, decide_eq_true_iff]
  rcases Nat.lt_or_eq_of_le before with less | rfl
  · have earlier := List.pairwise_iff_getElem.mp ordered first second (by omega) held less
    exact Trans.trans earlier behind
  · exact behind

/-- Placing an item and then leaving others out. -/
theorem filter_orderedInsert {keep : α → Bool} {item : α} (kept : keep item = true)
    {sorted : List α} (ordered : sorted.Pairwise comes) :
    (sorted.orderedInsert comes item).filter keep =
      (sorted.filter keep).orderedInsert comes item := by
  induction sorted with
  | nil => simp [kept]
  | cons first rest hypothesis =>
    obtain ⟨least, later⟩ := List.pairwise_cons.mp ordered
    rw [List.orderedInsert_cons]
    by_cases front : comes item first
    · rw [if_pos front, List.filter_cons_of_pos kept]
      have before : ∀ other ∈ (first :: rest).filter keep, comes item other := by
        intro other member
        rcases List.mem_cons.mp (List.mem_of_mem_filter member) with rfl | within
        · exact front
        · exact Trans.trans front (least other within)
      cases remaining : (first :: rest).filter keep with
      | nil => rfl
      | cons next others =>
        rw [List.orderedInsert_cons_of_le]
        exact before next (by rw [remaining]; exact List.mem_cons_self)
    · rw [if_neg front]
      by_cases keepFirst : keep first = true
      · rw [List.filter_cons_of_pos keepFirst, List.filter_cons_of_pos keepFirst,
          hypothesis later, List.orderedInsert_of_not_le _ _ front]
      · rw [List.filter_cons_of_neg keepFirst, List.filter_cons_of_neg keepFirst, hypothesis later]

/-- The place that halving finds in a sorted list is the place of an item. -/
theorem insertIdx_bisect {item : α} {sorted : List α} (ordered : sorted.Pairwise comes)
    {stays : Nat → Bool} (reads : ∀ place, stays place = sorted[place]?.all fun other =>
      comes other item) :
    sorted.insertIdx (bisect stays 0 sorted.length) item = insertBehind comes item sorted := by
  have closed : ∀ first second, first ≤ second → second < sorted.length → stays second = true →
      stays first = true := by
    intro first second before held behind
    rw [reads] at behind ⊢
    exact comes_closed ordered before held behind
  obtain ⟨inside, front, back⟩ := bisect_spec (Nat.zero_le sorted.length) le_rfl closed
    (fun place none => absurd none (Nat.not_lt_zero place))
    (fun place behind held => absurd held (Nat.not_lt_of_le behind))
  refine insertIdx_eq_insertBehind inside ?_ ?_
  · intro place held before
    have stay := front place before
    rw [reads, List.getElem?_eq_getElem held, Option.all_some] at stay
    exact of_decide_eq_true stay
  · intro place held behind
    have leaves := back place behind held
    rw [reads, List.getElem?_eq_getElem held, Option.all_some] at leaves
    exact of_decide_eq_false leaves

variable [Std.Total comes]

/-- Leaving items out before a sort or after. -/
theorem insertionSort_filter (keep : α → Bool) (items : List α) :
    (items.filter keep).insertionSort comes = (items.insertionSort comes).filter keep := by
  induction items with
  | nil => rfl
  | cons item items hypothesis =>
    rw [List.insertionSort_cons]
    by_cases kept : keep item = true
    · rw [List.filter_cons_of_pos kept, List.insertionSort_cons, hypothesis,
        filter_orderedInsert kept (List.pairwise_insertionSort comes items)]
    · rw [List.filter_cons_of_neg kept, hypothesis, filter_orderedInsert_of_neg kept]

/-- An item at the end is placed after the sort of the others. -/
theorem insertBehind_orderedInsert (first item : α) (sorted : List α) :
    insertBehind comes item (sorted.orderedInsert comes first) =
      (insertBehind comes item sorted).orderedInsert comes first := by
  induction sorted with
  | nil =>
    rw [List.orderedInsert_nil, insertBehind, insertBehind, insertBehind, List.orderedInsert_cons]
    split_ifs <;> rfl
  | cons second rest hypothesis =>
    by_cases behind : comes second item
    · rw [insertBehind, if_pos behind, List.orderedInsert_cons, List.orderedInsert_cons]
      by_cases front : comes first second
      · have whole : comes first item := Trans.trans front behind
        rw [if_pos front, if_pos front, insertBehind, if_pos whole, insertBehind, if_pos behind]
      · rw [if_neg front, if_neg front, insertBehind, if_pos behind, hypothesis]
    · rw [insertBehind, if_neg behind, List.orderedInsert_cons, List.orderedInsert_cons,
        List.orderedInsert_cons]
      by_cases front : comes first second
      · by_cases whole : comes first item
        · rw [if_pos front, if_pos whole, insertBehind, if_pos whole, insertBehind, if_neg behind]
        · rw [if_pos front, if_neg whole, insertBehind, if_neg whole]
      · have ahead : comes item second :=
          (Std.Total.total item second).resolve_right behind
        have notFront : ¬ comes first item := fun earlier => front (Trans.trans earlier ahead)
        rw [if_neg front, if_neg notFront, insertBehind, if_neg behind]

/-- Sorting one more item at the end places it behind what does not come after it. -/
theorem insertionSort_concat (items : List α) (item : α) :
    (items ++ [item]).insertionSort comes =
      insertBehind comes item (items.insertionSort comes) := by
  induction items with
  | nil => rfl
  | cons first items hypothesis =>
    rw [List.cons_append, List.insertionSort_cons, List.insertionSort_cons, hypothesis,
      insertBehind_orderedInsert]

/-- A pass whose steps place each item among those selected so far, and keep no more than the limit,
selects the beginning of the sorted list. -/
theorem foldl_eq_take_insertionSort {limit : Nat} {select : List α → α → List α}
    (places : ∀ selected item, selected.Pairwise comes → selected.length ≤ limit →
      select selected item = (insertBehind comes item selected).take limit)
    (items : List α) :
    items.foldl select [] = (items.insertionSort comes).take limit := by
  induction items using List.reverseRecOn with
  | nil => simp
  | append_singleton items item hypothesis =>
    rw [List.foldl_append, hypothesis, List.foldl_cons, List.foldl_nil, insertionSort_concat]
    have sorted : ((items.insertionSort comes).take limit).Pairwise comes :=
      (List.pairwise_insertionSort comes items).sublist (List.take_sublist _ _)
    rw [places _ _ sorted (List.length_take_le limit _), take_insertBehind]

/-- A sorted list is ordered by another relation exactly when that relation agrees with the sort: of
two items in their given order the first one is in front where the sort leaves it in front, and the
second one where the sort exchanges them. -/
theorem insertionSort_pairwise_iff {ahead : α → α → Prop} {items : List α}
    (distinct : items.Nodup) :
    (items.insertionSort comes).Pairwise ahead ↔
      items.Pairwise fun first second =>
        if comes first second then ahead first second else ahead second first := by
  have permuted := List.perm_insertionSort comes items
  have sorted {first second : α} (placed : [first, second].Sublist (items.insertionSort comes)) :
      comes first second :=
    List.pairwise_iff_forall_sublist.mp (List.pairwise_insertionSort comes items) placed
  rw [List.pairwise_iff_forall_sublist, List.pairwise_iff_forall_sublist]
  constructor
  · intro ordered first second placed
    split_ifs with stays
    · exact ordered (List.pair_sublist_insertionSort stays placed)
    · obtain ⟨pair, same, within⟩ := placed.subperm.trans permuted.symm.subperm
      rcases List.perm_pair.mp same with rfl | rfl
      · exact absurd (sorted within) stays
      · exact ordered within
  · intro agrees first second placed
    obtain ⟨pair, same, within⟩ := placed.subperm.trans permuted.subperm
    rcases List.perm_pair.mp same with rfl | rfl
    · have agreed := agrees within
      rwa [if_pos (sorted placed)] at agreed
    · have agreed := agrees within
      split_ifs at agreed with stays
      · have other := List.pair_sublist_insertionSort stays within
        exact absurd other (not_sublist_pair (permuted.nodup_iff.mpr distinct) placed)
      · exact agreed

end Preorder

end StableSort

end Crewon.Lib
