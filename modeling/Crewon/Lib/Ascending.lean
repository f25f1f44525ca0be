import Crewon.Lib.Checked
import Mathlib.Data.List.Basic

/-!
# Ascending lists

In a list that ascends by a value, what lies below a bound stands in front of everything else, and
its number is the place where the bound belongs. A list can therefore be read page by page, each
page starting behind the last value of the one before.
-/

namespace Crewon.Lib

variable {ε α : Type} {value : α → Int}

/-- The items ascend by a value. -/
def Ascending (value : α → Int) (items : List α) : Prop :=
  items.Pairwise fun first second => value first < value second

/-- The number of items below a bound. -/
def countBelow (value : α → Int) (bound : Int) (items : List α) : Nat :=
  items.countP fun item => value item < bound

/-- Some of the items lie below the bound. -/
theorem countBelow_le (bound : Int) (items : List α) :
    countBelow value bound items ≤ items.length := List.countP_le_length

/-- Nothing behind an item that does not lie below the bound lies below it. -/
theorem countBelow_eq_zero {items : List α} {first : α} {bound : Int}
    (ascending : Ascending value (first :: items)) (above : ¬ value first < bound) :
    countBelow value bound (first :: items) = 0 := by
  rw [countBelow, List.countP_eq_zero]
  intro item member
  rw [decide_eq_true_eq]
  cases List.mem_cons.mp member with
  | inl here =>
    rw [here]
    exact above
  | inr there =>
    have ahead := List.rel_of_pairwise_cons ascending there
    omega

/-- What lies below a bound stands in front. -/
theorem filter_below_eq_take {items : List α} (ascending : Ascending value items) (bound : Int) :
    (items.filter fun item => value item < bound) = items.take (countBelow value bound items) := by
  induction items with
  | nil => rfl
  | cons first rest hypothesis =>
    by_cases below : value first < bound
    · have one : countBelow value bound (first :: rest) = countBelow value bound rest + 1 := by
        simp [countBelow, below]
      rw [one, List.take_succ_cons, List.filter_cons_of_pos (by simpa using below),
        hypothesis (List.Pairwise.of_cons ascending)]
    · rw [countBelow_eq_zero ascending below, List.take_zero, List.filter_eq_nil_iff]
      intro item member
      rw [decide_eq_true_eq]
      have none := countBelow_eq_zero ascending below
      rw [countBelow, List.countP_eq_zero] at none
      simpa using none item member

/-- The items at the places in front of the number lie below the bound, and no others. -/
theorem lt_countBelow_iff {items : List α} (ascending : Ascending value items) {bound : Int}
    {place : Nat} {item : α} (found : items[place]? = some item) :
    place < countBelow value bound items ↔ value item < bound := by
  induction items generalizing place with
  | nil => simp at found
  | cons first rest hypothesis =>
    by_cases below : value first < bound
    · have one : countBelow value bound (first :: rest) = countBelow value bound rest + 1 := by
        simp [countBelow, below]
      cases place with
      | zero =>
        rw [List.getElem?_cons_zero, Option.some.injEq] at found
        rw [one, ← found]
        exact iff_of_true (Nat.succ_pos _) below
      | succ place =>
        rw [List.getElem?_cons_succ] at found
        rw [one, Nat.succ_lt_succ_iff]
        exact hypothesis (List.Pairwise.of_cons ascending) found
    · have none := countBelow_eq_zero ascending below
      rw [none]
      rw [countBelow, List.countP_eq_zero] at none
      have above := none item (List.mem_of_getElem? found)
      exact iff_of_false (Nat.not_lt_zero _) (by simpa using above)

/-- The number of items below an item of the list is its place. -/
theorem countBelow_of_getElem? {items : List α} (ascending : Ascending value items) {place : Nat}
    {item : α} (found : items[place]? = some item) :
    countBelow value (value item) items = place := by
  induction items generalizing place with
  | nil => simp at found
  | cons first rest hypothesis =>
    cases place with
    | zero =>
      rw [List.getElem?_cons_zero, Option.some.injEq] at found
      rw [← found]
      exact countBelow_eq_zero ascending (Int.lt_irrefl _)
    | succ place =>
      rw [List.getElem?_cons_succ] at found
      have below : value first < value item :=
        List.rel_of_pairwise_cons ascending (List.mem_of_getElem? found)
      have one : countBelow value (value item) (first :: rest) =
          countBelow value (value item) rest + 1 := by
        simp [countBelow, below]
      rw [one, hypothesis (List.Pairwise.of_cons ascending) found]

/-- Dropping what is below a value, and the value itself if it is there, leaves what is above. -/
theorem drop_behind {items : List α} (ascending : Ascending value items) (cursor : Int) :
    items.drop (if (items.map value)[countBelow value cursor items]? = some cursor
      then countBelow value cursor items + 1 else countBelow value cursor items) =
        items.filter fun item => cursor < value item := by
  induction items with
  | nil => simp
  | cons first rest hypothesis =>
    have later := List.Pairwise.of_cons ascending
    by_cases below : value first < cursor
    · have one : countBelow value cursor (first :: rest) = countBelow value cursor rest + 1 := by
        simp [countBelow, below]
      have notAbove : ¬ cursor < value first := by omega
      have next := hypothesis later
      rw [one, List.map_cons, List.getElem?_cons_succ,
        List.filter_cons_of_neg (by simpa using notAbove), ← next]
      split <;> rfl
    · have none := countBelow_eq_zero ascending below
      have behind : cursor ≤ value first → ∀ item ∈ rest, decide (cursor < value item) = true := by
        intro atLeast item member
        have ahead : value first < value item := List.rel_of_pairwise_cons ascending member
        rw [decide_eq_true_eq]
        omega
      have restAbove := List.filter_eq_self.mpr (behind (by omega))
      rw [none, List.map_cons, List.getElem?_cons_zero]
      by_cases here : value first = cursor
      · have notAbove : ¬ cursor < value first := by omega
        rw [if_pos (by rw [here]), List.filter_cons_of_neg (by simpa using notAbove), restAbove]
        rfl
      · have above : cursor < value first := by omega
        rw [if_neg (by simpa using here), List.filter_cons_of_pos (by simpa using above), restAbove]
        rfl

/-- Read pages one after the other, each from the last value of the one before, until a page is not
full. The fuel bounds the number of pages. -/
def collectPages (value : α → Int) (page : Int → Except ε (List α)) (limit : Nat) :
    Nat → Int → Except ε (List α)
  | 0, _ => .ok []
  | fuel + 1, cursor => do
    let items ← page cursor
    if items.length < limit then return items
    let later ← collectPages value page limit fuel ((items.getLast?.map value).getD cursor)
    return items ++ later

/-- Behind a full page stands what lies above its last value. -/
theorem filter_above_last {items : List α} (ascending : Ascending value items) {limit : Nat}
    {last : α} (final : (items.take limit).getLast? = some last) :
    (items.filter fun item => value last < value item) = items.drop limit := by
  induction items generalizing limit with
  | nil => simp at final
  | cons first rest hypothesis =>
    have later := List.Pairwise.of_cons ascending
    cases limit with
    | zero => simp at final
    | succ limit =>
      rw [List.take_succ_cons, List.getLast?_cons] at final
      rw [List.drop_succ_cons]
      cases remaining : (rest.take limit).getLast? with
      | none =>
        rw [remaining, Option.getD_none, Option.some.injEq] at final
        have above : ∀ item ∈ rest, decide (value last < value item) = true := by
          intro item member
          rw [decide_eq_true_eq, ← final]
          exact List.rel_of_pairwise_cons ascending member
        have self : ¬ value last < value first := by
          rw [final]
          exact Int.lt_irrefl _
        rw [List.filter_cons_of_neg (by simpa using self), List.filter_eq_self.mpr above]
        rw [List.getLast?_eq_none_iff, List.take_eq_nil_iff] at remaining
        rcases remaining with rfl | rfl
        · rw [List.drop_zero]
        · rw [List.drop_nil]
      | some found =>
        rw [remaining, Option.getD_some, Option.some.injEq] at final
        have inRest : last ∈ rest := by
          rw [← final]
          exact List.mem_of_mem_take (List.mem_of_getLast? remaining)
        have ahead : value first < value last := List.rel_of_pairwise_cons ascending inRest
        have before : ¬ value last < value first := by omega
        rw [List.filter_cons_of_neg (by simpa using before)]
        rw [final] at remaining
        exact hypothesis later remaining

/-- Pages cut out of an ascending list, read one after the other, are what the list has above the
first cursor. -/
theorem collectPages_ascending {items : List α} (ascending : Ascending value items)
    {page : Int → Except ε (List α)} {limit : Nat} (positive : 0 < limit) (usable : Int → Prop)
    (values : ∀ item ∈ items, usable (value item))
    (reads : ∀ cursor, usable cursor →
      page cursor = .ok ((items.filter fun item => cursor < value item).take limit))
    {cursor : Int} (start : usable cursor) {fuel : Nat}
    (enough : (items.filter fun item => cursor < value item).length < fuel) :
    collectPages value page limit fuel cursor =
      .ok (items.filter fun item => cursor < value item) := by
  induction fuel generalizing cursor with
  | zero => omega
  | succ fuel hypothesis =>
    simp only [collectPages, reads cursor start, Checked.ok_bind]
    generalize remaining : (items.filter fun item => cursor < value item) = above at enough ⊢
    by_cases short : (above.take limit).length < limit
    · have whole : above.take limit = above := by
        rw [List.length_take] at short
        exact List.take_of_length_le (by omega)
      rw [if_pos short, whole]
      rfl
    · have full : limit ≤ above.length := by
        rw [List.length_take] at short
        omega
      have nonempty : above.take limit ≠ [] := by
        intro none
        rw [none, List.length_nil] at short
        omega
      obtain ⟨last, final⟩ : ∃ last, (above.take limit).getLast? = some last :=
        ⟨_, List.getLast?_eq_some_getLast nonempty⟩
      have inAbove : last ∈ above := List.mem_of_mem_take (List.mem_of_getLast? final)
      have inItems : last ∈ items ∧ cursor < value last := by
        rw [← remaining, List.mem_filter, decide_eq_true_eq] at inAbove
        exact inAbove
      have ascendingAbove : Ascending value above := by
        rw [← remaining]
        exact ascending.filter _
      have rest : (items.filter fun item => value last < value item) = above.drop limit := by
        rw [← filter_above_last ascendingAbove final, ← remaining, List.filter_filter]
        refine List.filter_congr fun item _ => ?_
        have ahead := inItems.2
        by_cases later : value last < value item
        · have beyond : cursor < value item := by omega
          simp [later, beyond]
        · simp [later]
      have fewer : (items.filter fun item => value last < value item).length < fuel := by
        rw [rest, List.length_drop]
        omega
      have next := hypothesis (values last inItems.1) fewer
      rw [if_neg short, final, Option.map_some, Option.getD_some, next, rest, Checked.ok_bind]
      show Except.ok (above.take limit ++ above.drop limit) = _
      rw [List.take_append_drop]

end Crewon.Lib
