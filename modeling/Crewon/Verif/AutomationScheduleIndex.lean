import Crewon.Js.TextOrder
import Crewon.Lib.CursorPaging
import Crewon.Store.AutomationScheduleIndex
import Mathlib.Data.Finset.Sort
import Mathlib.Data.Prod.Lex

/-!
# The index of scheduled automations

Whatever keys are inserted, the tree is a balanced search tree of exactly these keys, and a page is
the beginning of the keys in front of the cursor, from the greatest down.
-/

namespace Crewon.Verif.AutomationScheduleIndex

open Crewon.Js Crewon.Lib Crewon.Store
open Crewon.Store.AutomationScheduleIndex

/-- The instant and then the id. -/
def rank (key : AutomationListCursor) : JsString ×ₗ JsString :=
  toLex (key.updatedAt, key.automationId)

/-- A key is known by its rank. -/
theorem rank_injective : Function.Injective rank := by
  rintro ⟨id, updated⟩ ⟨otherId, otherUpdated⟩ same
  simpa [rank, and_comm] using same

instance : LinearOrder AutomationListCursor := LinearOrder.lift' rank rank_injective

/-- Keys are ordered by the instant and then by the id. -/
theorem lt_iff (left right : AutomationListCursor) :
    left < right ↔ left.updatedAt < right.updatedAt ∨
      left.updatedAt = right.updatedAt ∧ left.automationId < right.automationId := by
  show rank left < rank right ↔ _
  rw [Prod.Lex.lt_iff]
  rfl

/-- A comparison is zero for the same key. -/
theorem compareKeys_eq_zero (left right : AutomationListCursor) :
    compareKeys left right = 0 ↔ left = right := by
  obtain ⟨id, updated⟩ := left
  obtain ⟨otherId, otherUpdated⟩ := right
  unfold compareKeys
  split_ifs <;> simp_all

/-- A comparison is negative for a smaller key. -/
theorem compareKeys_neg (left right : AutomationListCursor) :
    compareKeys left right < 0 ↔ left < right := by
  rw [lt_iff, ← JsString.before_iff, ← JsString.before_iff]
  unfold compareKeys
  have own : ∀ text : JsString, text.before text = false :=
    fun text => JsString.before_eq_false.mpr le_rfl
  by_cases sameTime : left.updatedAt = right.updatedAt
  · by_cases sameId : left.automationId = right.automationId
    · simp [sameTime, sameId, own]
    · cases left.automationId.before right.automationId <;> simp [sameTime, sameId, own]
  · cases left.updatedAt.before right.updatedAt <;> simp [sameTime]

/-- A comparison is positive for a greater key. -/
theorem compareKeys_pos (left right : AutomationListCursor) :
    0 < compareKeys left right ↔ right < left := by
  have zero := compareKeys_eq_zero left right
  have negative := compareKeys_neg left right
  constructor
  · intro positive
    refine lt_of_not_ge fun ordered => ?_
    rcases lt_or_eq_of_le ordered with less | same
    · have below := negative.mpr less
      omega
    · have none := zero.mpr same
      omega
  · intro less
    have notNegative : ¬ compareKeys left right < 0 := fun below =>
      lt_asymm less (negative.mp below)
    have notZero : compareKeys left right ≠ 0 := fun none => less.ne' (zero.mp none)
    omega

/-- A higher subtree that has just grown leans towards the inserted key. -/
def Leans (key : AutomationListCursor) : Node → Prop
  | .nil => True
  | .node left nodeKey right _ =>
    (key < nodeKey ∧ left.trueHeight = right.trueHeight + 1) ∨
      (nodeKey < key ∧ right.trueHeight = left.trueHeight + 1) ∨
      (left.trueHeight = 0 ∧ right.trueHeight = 0)

/-- A node whose left subtree has grown too high is balanced by lifting it. -/
theorem rebalance_left {key nodeKey : AutomationListCursor} {left right : Node}
    (lefts : left.Balanced) (rights : right.Balanced)
    (high : left.trueHeight = right.trueHeight + 2) (leans : Leans key left) :
    (rebalance key (.join left nodeKey right)).Balanced ∧
      (rebalance key (.join left nodeKey right)).trueHeight = right.trueHeight + 2 := by
  have tall : (1 : Int) < left.height - right.height := by
    rw [lefts.height_eq, rights.height_eq, high]
    omega
  unfold rebalance SearchTree.join
  dsimp only
  rw [if_pos tall]
  cases left with
  | nil => simp [SearchTree.trueHeight] at high
  | node outer leftKey inner height =>
    obtain ⟨_, outerLow, innerLow, outers, inners⟩ := lefts
    rw [SearchTree.trueHeight] at high
    rcases leans with ⟨less, grown⟩ | ⟨greater, grown⟩ | ⟨noOuter, noInner⟩
    · have below : isAbove key (.node outer leftKey inner height) = false := by
        simpa [isAbove] using not_lt_of_gt ((compareKeys_neg key leftKey).mpr less)
      rw [below]
      have lower := inners.join nodeKey rights (by omega) (by omega)
      have whole := outers.join leftKey lower
        (by rw [SearchTree.trueHeight_join]; omega) (by rw [SearchTree.trueHeight_join]; omega)
      refine ⟨whole, ?_⟩
      show (SearchTree.join outer leftKey (.join inner nodeKey right)).trueHeight = _
      rw [SearchTree.trueHeight_join, SearchTree.trueHeight_join]
      omega
    · have above : isAbove key (.node outer leftKey inner height) = true := by
        simpa [isAbove] using (compareKeys_pos key leftKey).mpr greater
      rw [above]
      cases inner with
      | nil => simp [SearchTree.trueHeight] at grown
      | node first innerKey second innerHeight =>
        obtain ⟨_, firstLow, secondLow, firsts, seconds⟩ := inners
        rw [SearchTree.trueHeight] at high grown innerLow
        have before := outers.join leftKey firsts (by omega) (by omega)
        have after := seconds.join nodeKey rights (by omega) (by omega)
        have whole := before.join innerKey after
          (by rw [SearchTree.trueHeight_join, SearchTree.trueHeight_join]; omega)
          (by rw [SearchTree.trueHeight_join, SearchTree.trueHeight_join]; omega)
        refine ⟨whole, ?_⟩
        show (SearchTree.join (.join outer leftKey first) innerKey
          (.join second nodeKey right)).trueHeight = _
        rw [SearchTree.trueHeight_join, SearchTree.trueHeight_join, SearchTree.trueHeight_join]
        omega
    · omega

/-- A node whose right subtree has grown too high is balanced by lifting it. -/
theorem rebalance_right {key nodeKey : AutomationListCursor} {left right : Node}
    (lefts : left.Balanced) (rights : right.Balanced)
    (high : right.trueHeight = left.trueHeight + 2) (leans : Leans key right) :
    (rebalance key (.join left nodeKey right)).Balanced ∧
      (rebalance key (.join left nodeKey right)).trueHeight = left.trueHeight + 2 := by
  have notTall : ¬ (1 : Int) < left.height - right.height := by
    rw [lefts.height_eq, rights.height_eq, high]
    omega
  have low : (left.height : Int) - right.height < -1 := by
    rw [lefts.height_eq, rights.height_eq, high]
    omega
  unfold rebalance SearchTree.join
  dsimp only
  rw [if_neg notTall, if_pos low]
  cases right with
  | nil => simp [SearchTree.trueHeight] at high
  | node inner rightKey outer height =>
    obtain ⟨_, innerLow, outerLow, inners, outers⟩ := rights
    rw [SearchTree.trueHeight] at high
    rcases leans with ⟨less, grown⟩ | ⟨greater, grown⟩ | ⟨noInner, noOuter⟩
    · have below : isBelow key (.node inner rightKey outer height) = true := by
        simpa [isBelow] using (compareKeys_neg key rightKey).mpr less
      rw [below]
      cases inner with
      | nil => simp [SearchTree.trueHeight] at grown
      | node first innerKey second innerHeight =>
        obtain ⟨_, firstLow, secondLow, firsts, seconds⟩ := inners
        rw [SearchTree.trueHeight] at high grown innerLow
        have before := lefts.join nodeKey firsts (by omega) (by omega)
        have after := seconds.join rightKey outers (by omega) (by omega)
        have whole := before.join innerKey after
          (by rw [SearchTree.trueHeight_join, SearchTree.trueHeight_join]; omega)
          (by rw [SearchTree.trueHeight_join, SearchTree.trueHeight_join]; omega)
        refine ⟨whole, ?_⟩
        show (SearchTree.join (.join left nodeKey first) innerKey
          (.join second rightKey outer)).trueHeight = _
        rw [SearchTree.trueHeight_join, SearchTree.trueHeight_join, SearchTree.trueHeight_join]
        omega
    · have above : isBelow key (.node inner rightKey outer height) = false := by
        simpa [isBelow] using not_lt_of_gt ((compareKeys_pos key rightKey).mpr greater)
      rw [above]
      have lower := lefts.join nodeKey inners (by omega) (by omega)
      have whole := lower.join rightKey outers
        (by rw [SearchTree.trueHeight_join]; omega) (by rw [SearchTree.trueHeight_join]; omega)
      refine ⟨whole, ?_⟩
      show (SearchTree.join (.join left nodeKey inner) rightKey outer).trueHeight = _
      rw [SearchTree.trueHeight_join, SearchTree.trueHeight_join]
      omega
    · omega

/-- A node whose subtrees are nearly of the same height stays. -/
theorem rebalance_level {key nodeKey : AutomationListCursor} {left right : Node}
    (lefts : left.Balanced) (rights : right.Balanced)
    (notHigher : left.trueHeight ≤ right.trueHeight + 1)
    (notLower : right.trueHeight ≤ left.trueHeight + 1) :
    rebalance key (.join left nodeKey right) = .join left nodeKey right := by
  have notTall : ¬ (1 : Int) < left.height - right.height := by
    rw [lefts.height_eq, rights.height_eq]
    omega
  have notLow : ¬ (left.height : Int) - right.height < -1 := by
    rw [lefts.height_eq, rights.height_eq]
    omega
  unfold rebalance SearchTree.join
  dsimp only
  rw [if_neg notTall, if_neg notLow]

/-- The tree has kept its height, or has become one higher and leans towards the key. -/
def Grown (key : AutomationListCursor) (before after : Node) : Prop :=
  after.trueHeight = before.trueHeight ∨
    after.trueHeight = before.trueHeight + 1 ∧ Leans key after

/-- A node with a grown left subtree is balanced again. -/
theorem rebalance_grownLeft {key nodeKey : AutomationListCursor} {left grown right : Node}
    {height : Nat} (balanced : (SearchTree.node left nodeKey right height).Balanced)
    (less : key < nodeKey) (fits : grown.Balanced) (higher : Grown key left grown) :
    (rebalance key (.join grown nodeKey right)).Balanced ∧
      Grown key (.node left nodeKey right height) (rebalance key (.join grown nodeKey right)) := by
  obtain ⟨_, notHigher, notLower, lefts, rights⟩ := balanced
  by_cases level : grown.trueHeight ≤ right.trueHeight + 1
  · have near : right.trueHeight ≤ grown.trueHeight + 1 := by
      rcases higher with same | ⟨more, _⟩ <;> omega
    rw [rebalance_level fits rights level near]
    refine ⟨fits.join nodeKey rights level near, ?_⟩
    unfold Grown
    rw [SearchTree.trueHeight_join, SearchTree.trueHeight]
    rcases higher with same | ⟨more, _⟩
    · left
      omega
    · by_cases leftLow : left.trueHeight < right.trueHeight
      · left
        omega
      · right
        refine ⟨by omega, .inl ⟨less, ?_⟩⟩
        omega
  · rcases higher with same | ⟨more, leans⟩
    · omega
    · obtain ⟨stays, high⟩ := rebalance_left fits rights (by omega) leans
      refine ⟨stays, .inl ?_⟩
      rw [high, SearchTree.trueHeight]
      omega

/-- A node with a grown right subtree is balanced again. -/
theorem rebalance_grownRight {key nodeKey : AutomationListCursor} {left right grown : Node}
    {height : Nat} (balanced : (SearchTree.node left nodeKey right height).Balanced)
    (greater : nodeKey < key) (fits : grown.Balanced) (higher : Grown key right grown) :
    (rebalance key (.join left nodeKey grown)).Balanced ∧
      Grown key (.node left nodeKey right height) (rebalance key (.join left nodeKey grown)) := by
  obtain ⟨_, notHigher, notLower, lefts, rights⟩ := balanced
  by_cases level : grown.trueHeight ≤ left.trueHeight + 1
  · have near : left.trueHeight ≤ grown.trueHeight + 1 := by
      rcases higher with same | ⟨more, _⟩ <;> omega
    rw [rebalance_level lefts fits near level]
    refine ⟨lefts.join nodeKey fits near level, ?_⟩
    unfold Grown
    rw [SearchTree.trueHeight_join, SearchTree.trueHeight]
    rcases higher with same | ⟨more, _⟩
    · left
      omega
    · by_cases rightLow : right.trueHeight < left.trueHeight
      · left
        omega
      · right
        refine ⟨by omega, .inr (.inl ⟨greater, ?_⟩)⟩
        omega
  · rcases higher with same | ⟨more, leans⟩
    · omega
    · obtain ⟨stays, high⟩ := rebalance_right lefts fits (by omega) leans
      refine ⟨stays, .inl ?_⟩
      rw [high, SearchTree.trueHeight]
      omega

/-- Rotating to the left keeps the keys. -/
theorem keys_rotateLeft (root : Node) : (rotateLeft root).keys = root.keys := by
  unfold rotateLeft
  split
  · simp [SearchTree.join, SearchTree.keys]
  · rfl

/-- Rotating to the right keeps the keys. -/
theorem keys_rotateRight (root : Node) : (rotateRight root).keys = root.keys := by
  unfold rotateRight
  split
  · simp [SearchTree.join, SearchTree.keys]
  · rfl

/-- Rebalancing keeps the keys. -/
theorem keys_rebalance (key : AutomationListCursor) (root : Node) :
    (rebalance key root).keys = root.keys := by
  cases root with
  | nil => rfl
  | node left nodeKey right height =>
    unfold rebalance
    dsimp only
    split_ifs
    · rw [keys_rotateRight, SearchTree.keys, keys_rotateLeft, SearchTree.keys]
    · rw [keys_rotateRight]
    · rw [keys_rotateLeft, SearchTree.keys, keys_rotateRight, SearchTree.keys]
    · rw [keys_rotateLeft]
    · rfl

/-- An insertion goes to the left below a node, to the right above it, and changes nothing at it. -/
theorem insert_cases (key nodeKey : AutomationListCursor) (left right : Node) (height : Nat) :
    let inserted := AutomationScheduleIndex.insert key (.node left nodeKey right height)
    (key = nodeKey ∧ inserted = .node left nodeKey right height) ∨
      (key < nodeKey ∧
        inserted = rebalance key (.join (AutomationScheduleIndex.insert key left) nodeKey right)) ∨
      (nodeKey < key ∧ inserted =
        rebalance key (.join left nodeKey (AutomationScheduleIndex.insert key right))) := by
  rw [AutomationScheduleIndex.insert]
  dsimp only
  by_cases same : compareKeys key nodeKey = 0
  · rw [if_pos same]
    exact .inl ⟨(compareKeys_eq_zero key nodeKey).mp same, rfl⟩
  · rw [if_neg same]
    by_cases below : compareKeys key nodeKey < 0
    · rw [if_pos below]
      exact .inr (.inl ⟨(compareKeys_neg key nodeKey).mp below, rfl⟩)
    · rw [if_neg below]
      exact .inr (.inr ⟨(compareKeys_pos key nodeKey).mp (by omega), rfl⟩)

/-- An insertion keeps the tree balanced. -/
theorem insert_balanced (key : AutomationListCursor) {root : Node} (balanced : root.Balanced) :
    (AutomationScheduleIndex.insert key root).Balanced ∧
      Grown key root (AutomationScheduleIndex.insert key root) := by
  induction root with
  | nil =>
    refine ⟨⟨rfl, by simp [SearchTree.trueHeight], by simp [SearchTree.trueHeight], trivial, trivial⟩, ?_⟩
    exact .inr ⟨rfl, .inr (.inr ⟨rfl, rfl⟩)⟩
  | node left nodeKey right height hypothesisLeft hypothesisRight =>
    obtain ⟨fitsLeft, grownLeft⟩ := hypothesisLeft balanced.2.2.2.1
    obtain ⟨fitsRight, grownRight⟩ := hypothesisRight balanced.2.2.2.2
    rcases insert_cases key nodeKey left right height with
      ⟨_, inserted⟩ | ⟨less, inserted⟩ | ⟨greater, inserted⟩
    · rw [inserted]
      exact ⟨balanced, .inl rfl⟩
    · rw [inserted]
      exact rebalance_grownLeft balanced less fitsLeft grownLeft
    · rw [inserted]
      exact rebalance_grownRight balanced greater fitsRight grownRight

/-- An insertion adds the key. -/
theorem mem_insert (key other : AutomationListCursor) (root : Node) :
    other ∈ (AutomationScheduleIndex.insert key root).keys ↔ other = key ∨ other ∈ root.keys := by
  induction root with
  | nil => simp [AutomationScheduleIndex.insert, SearchTree.keys]
  | node left nodeKey right height hypothesisLeft hypothesisRight =>
    rcases insert_cases key nodeKey left right height with
      ⟨same, inserted⟩ | ⟨_, inserted⟩ | ⟨_, inserted⟩
    · rw [inserted, same]
      simp only [SearchTree.keys, List.mem_append, List.mem_cons]
      tauto
    · rw [inserted, keys_rebalance]
      simp only [SearchTree.join, SearchTree.keys, List.mem_append, List.mem_cons, hypothesisLeft, or_assoc]
    · rw [inserted, keys_rebalance]
      simp only [SearchTree.join, SearchTree.keys, List.mem_append, List.mem_cons, hypothesisRight]
      tauto

/-- An insertion keeps the search tree. -/
theorem insert_ordered (key : AutomationListCursor) {root : Node} (ordered : root.Ordered) :
    (AutomationScheduleIndex.insert key root).Ordered := by
  induction root with
  | nil => simp [AutomationScheduleIndex.insert, SearchTree.Ordered, SearchTree.keys]
  | node left nodeKey right height hypothesisLeft hypothesisRight =>
    obtain ⟨less, greater, lefts, rights⟩ := ordered
    rcases insert_cases key nodeKey left right height with
      ⟨_, inserted⟩ | ⟨below, inserted⟩ | ⟨above, inserted⟩
    · rw [inserted]
      exact ⟨less, greater, lefts, rights⟩
    · rw [inserted, SearchTree.ordered_iff, keys_rebalance, ← SearchTree.ordered_iff]
      refine ⟨fun other member => ?_, greater, hypothesisLeft lefts, rights⟩
      rcases (mem_insert key other left).mp member with rfl | earlier
      · exact below
      · exact less other earlier
    · rw [inserted, SearchTree.ordered_iff, keys_rebalance, ← SearchTree.ordered_iff]
      refine ⟨less, fun other member => ?_, lefts, hypothesisRight rights⟩
      rcases (mem_insert key other right).mp member with rfl | earlier
      · exact above
      · exact greater other earlier

/-- The keys that a stack still visits, in their order. -/
def pending (stack : Stack) : List AutomationListCursor :=
  stack.flatMap fun entry => entry.1 :: entry.2.keys.reverse

/-- Pushing a subtree visits its keys from the greatest down. -/
theorem pending_pushRight (root : Node) (stack : Stack) :
    pending (pushRight root stack) = root.keys.reverse ++ pending stack := by
  induction root generalizing stack with
  | nil => rfl
  | node left key right height _ hypothesis =>
    rw [pushRight, hypothesis, SearchTree.keys]
    simp [pending]

/-- Visiting returns the beginning of what is pending. -/
theorem visit_eq (limit : Nat) (stack : Stack) :
    visit limit stack = (pending stack).take limit := by
  induction limit generalizing stack with
  | zero => rfl
  | succ limit hypothesis =>
    cases stack with
    | nil => rfl
    | cons entry stack =>
      obtain ⟨key, left⟩ := entry
      rw [visit, hypothesis, pending_pushRight]
      rfl

/-- Seeking a cursor leaves the keys in front of it pending. -/
theorem pending_seek (before : Option AutomationListCursor) {root : Node} (ordered : root.Ordered)
    (stack : Stack) :
    pending (seek before root stack) =
      (root.keys.reverse.filter fun key => ∀ bound ∈ before, key < bound) ++ pending stack := by
  induction root generalizing stack with
  | nil => rfl
  | node left key right height hypothesisLeft hypothesisRight =>
    obtain ⟨less, greater, lefts, rights⟩ := ordered
    rw [seek, SearchTree.keys, List.reverse_append, List.reverse_cons]
    cases before with
    | none =>
      rw [Option.any_none, if_neg (by simp), hypothesisRight rights]
      simp [pending]
    | some cursor =>
      rw [Option.any_some]
      by_cases behind : 0 ≤ compareKeys key cursor
      · rw [if_pos (decide_eq_true behind), hypothesisLeft lefts]
        have notBefore : cursor ≤ key :=
          le_of_not_gt fun below => not_lt_of_ge behind ((compareKeys_neg key cursor).mpr below)
        have noneRight : (right.keys.reverse.filter fun key =>
            ∀ bound ∈ some cursor, key < bound) = [] := by
          rw [List.filter_eq_nil_iff]
          intro other member
          have above := lt_of_le_of_lt notBefore (greater other (List.mem_reverse.mp member))
          simpa using above.le
        have notKey : ¬ ∀ bound ∈ some cursor, key < bound := by simpa using notBefore
        rw [List.filter_append, List.filter_append, noneRight, List.filter_cons_of_neg (by
          simpa using notKey)]
        rfl
      · rw [if_neg (by simpa using behind), hypothesisRight rights]
        have inFront : key < cursor :=
          (compareKeys_neg key cursor).mp (Int.not_le.mp behind)
        have allLeft : (left.keys.reverse.filter fun key =>
            ∀ bound ∈ some cursor, key < bound) = left.keys.reverse := by
          rw [List.filter_eq_self]
          intro other member
          simpa using (less other (List.mem_reverse.mp member)).trans inFront
        have keyIn : ∀ bound ∈ some cursor, key < bound := by simpa using inFront
        rw [List.filter_append, List.filter_append, allLeft, List.filter_cons_of_pos (by
          simpa using keyIn)]
        simp [pending]

/-- A page of a search tree. -/
theorem list_eq {root : Node} (ordered : root.Ordered) (before : Option AutomationListCursor)
    (limit : Int) :
    list root before limit =
      (root.keys.reverse.filter fun key => ∀ bound ∈ before, key < bound).take limit.toNat := by
  rw [list, visit_eq, pending_seek before ordered]
  simp [pending]

/-- The tree after a series of insertions. -/
def insertAll (insertions : List AutomationListCursor) : Node :=
  insertions.foldl (fun root key => AutomationScheduleIndex.insert key root) .nil

/-- Inserting one more key. -/
theorem insertAll_concat (insertions : List AutomationListCursor) (key : AutomationListCursor) :
    insertAll (insertions ++ [key]) =
      AutomationScheduleIndex.insert key (insertAll insertions) := by
  simp [insertAll]

/-- After any insertions the tree is a balanced search tree of the inserted keys. -/
theorem insertAll_sound (insertions : List AutomationListCursor) :
    (insertAll insertions).Ordered ∧ (insertAll insertions).Balanced ∧
      ∀ key, key ∈ (insertAll insertions).keys ↔ key ∈ insertions := by
  induction insertions using List.reverseRecOn with
  | nil => exact ⟨trivial, trivial, fun key => by simp [insertAll, SearchTree.keys]⟩
  | append_singleton insertions key hypothesis =>
    obtain ⟨ordered, balanced, members⟩ := hypothesis
    rw [insertAll_concat]
    refine ⟨insert_ordered key ordered, (insert_balanced key balanced).1, fun other => ?_⟩
    rw [mem_insert, members, List.mem_append, List.mem_singleton, or_comm]

/-- The inserted keys from the greatest down. -/
def descending (insertions : List AutomationListCursor) : List AutomationListCursor :=
  insertions.toFinset.sort (· ≥ ·)

/-- The tree read from right to left. -/
theorem keys_reverse_eq (insertions : List AutomationListCursor) :
    (insertAll insertions).keys.reverse = descending insertions := by
  obtain ⟨ordered, _, members⟩ := insertAll_sound insertions
  have ascending := SearchTree.ordered_iff.mp ordered
  have falling : (insertAll insertions).keys.reverse.Pairwise (· ≥ ·) := by
    rw [List.pairwise_reverse]
    exact ascending.imp fun less => less.le
  have distinct : (insertAll insertions).keys.reverse.Nodup :=
    List.nodup_reverse.mpr (ascending.imp fun less => less.ne)
  have same : insertions.toFinset = (insertAll insertions).keys.reverse.toFinset := by
    ext key
    rw [List.mem_toFinset, List.mem_toFinset, List.mem_reverse, members]
  rw [descending, same, (List.toFinset_sort (· ≥ ·) distinct).mpr falling]

/-- Whatever keys are inserted, in any order and repeatedly, the tree is a balanced search tree of
them without duplicates; a page is the beginning of the keys in front of its cursor, from the
greatest down; and following the last key of each page reads every key exactly once. -/
theorem schedule_index_sound (insertions : List AutomationListCursor) :
    (insertAll insertions).Ordered ∧ (insertAll insertions).keys.Nodup ∧
      (insertAll insertions).Balanced ∧
      (∀ before limit, list (insertAll insertions) before limit =
        ((descending insertions).filter fun key =>
          ∀ bound ∈ before, key < bound).take limit.toNat) ∧
      (∀ key, key ∈ descending insertions ↔ key ∈ insertions) ∧
      (descending insertions).Pairwise (· > ·) ∧
      ∀ limit : Int, 0 < limit → ∀ rounds, insertions.length < rounds →
        readPages id (fun before => list (insertAll insertions) before limit) rounds none =
          descending insertions := by
  obtain ⟨ordered, balanced, members⟩ := insertAll_sound insertions
  have ascending := SearchTree.ordered_iff.mp ordered
  have pages : ∀ before limit, list (insertAll insertions) before limit =
      ((descending insertions).filter fun key =>
        ∀ bound ∈ before, key < bound).take limit.toNat := by
    intro before limit
    rw [list_eq ordered, keys_reverse_eq]
  have falling : (descending insertions).Pairwise (· > ·) :=
    (Finset.sortedGT_sort insertions.toFinset).pairwise
  refine ⟨ordered, ascending.imp fun less => less.ne, balanced, pages, fun key => ?_, falling, ?_⟩
  · rw [descending, Finset.mem_sort, List.mem_toFinset]
  · intro limit positive rounds enough
    have few : (descending insertions).length ≤ insertions.length := by
      rw [descending, Finset.length_sort]
      exact List.toFinset_card_le insertions
    have asymmetric : ∀ first second : AutomationListCursor, second < first → ¬ first < second :=
      fun first second less => lt_asymm less
    exact @readPages_all _ _ id (fun bound key => key < bound) _ asymmetric _ falling _ (by omega) _
      (pages · limit) _ (by omega)

end Crewon.Verif.AutomationScheduleIndex
