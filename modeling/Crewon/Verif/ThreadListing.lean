import Crewon.Store.Queue
import Crewon.Store.ThreadListing
import Crewon.Verif.AutomationScheduleIndex
import Mathlib

/-!
# Bounded selection

Both the queue and the list of threads select the beginning of a sorted list in one pass: the queue
the records that have waited longest, the list a page of threads. The pages of the list read all
threads, and reading back from a page returns the one in front of it.
-/

namespace Crewon.Verif.ThreadListing

open Crewon.Js Crewon.Lib Crewon.Domain Crewon.Store

section Queue

variable {α : Type}

/-- The record has been waiting at least as long. -/
def WaitsLonger (left right : JsString × QueueRecord α) : Prop := readyAt left.2 ≤ readyAt right.2

instance : DecidableRel (WaitsLonger (α := α)) :=
  fun left right => inferInstanceAs (Decidable (readyAt left.2 ≤ readyAt right.2))

instance : IsTrans (JsString × QueueRecord α) WaitsLonger := ⟨fun _ _ _ => Int.le_trans⟩

instance : Std.Total (WaitsLonger (α := α)) := ⟨fun _ _ => Int.le_total _ _⟩

/-- The claimable records in the order of waiting; equally long waiting ones as they were added. -/
def waiting (records : Queue α) (now : Int) : List (JsString × QueueRecord α) :=
  (records.entries.filter fun entry => isClaimable entry.2 now).insertionSort WaitsLonger

/-- The binary search halves a range. -/
theorem insertionPoint_eq_bisect (selected : List (JsString × QueueRecord α))
    (record : QueueRecord α) (low high : Nat) :
    insertionPoint selected record low high =
      bisect (fun middle => selected[middle]?.all fun entry => readyAt entry.2 ≤ readyAt record)
        low high := by
  fun_induction insertionPoint selected record low high with
  | case1 low high less middle before hypothesis =>
    rw [bisect, if_pos less]
    dsimp only
    rw [if_pos before, hypothesis]
  | case2 low high less middle before hypothesis =>
    rw [bisect, if_pos less]
    dsimp only
    rw [if_neg before, hypothesis]
  | case3 low high notLess => rw [bisect, if_neg notLess]

/-- Dropping what no longer fits is taking what fits. -/
theorem place_eq_take {β : Type} {limit low : Nat} {selected : List β}
    (few : selected.length ≤ limit) (item : β) :
    (if limit ≤ low then selected else (selected.insertIdx low item).take limit) =
      (selected.insertIdx low item).take limit := by
  split_ifs with full
  · rw [List.take_insertIdx_eq_take_of_le selected item limit low full, List.take_of_length_le few]
  · rfl

/-- The longest waiting records are the beginning of the stable sort. -/
theorem oldestReady_eq (records : Queue α) (now : Int) (limit : Nat) :
    oldestReady records now limit = (waiting records now).take limit := by
  have step : selectReady now limit = fun selected (entry : JsString × QueueRecord α) =>
      if isClaimable entry.2 now = true then
        (fun selected (entry : JsString × QueueRecord α) =>
          let low := insertionPoint selected entry.2 0 selected.length
          if limit ≤ low then selected else (selected.insertIdx low entry).take limit)
          selected entry
      else selected := rfl
  rw [oldestReady, step, ← List.foldl_filter, waiting]
  refine foldl_eq_take_insertionSort (fun selected entry sorted few => ?_) _
  have placed : selected.insertIdx (bisect (fun middle => selected[middle]?.all fun other =>
      readyAt other.2 ≤ readyAt entry.2) 0 selected.length) entry =
      insertBehind WaitsLonger entry selected := insertIdx_bisect sorted fun _ => rfl
  dsimp only
  rw [insertionPoint_eq_bisect, place_eq_take few, placed]

/-- A claim takes the record that has waited longest. -/
theorem nextClaimable_eq (records : Queue α) (now : Int) :
    nextClaimable records now .oldestReady = (waiting records now).head? := by
  rw [nextClaimable, oldestReady_eq]
  cases first : waiting records now with
  | nil => rfl
  | cons entry others =>
    have member : entry ∈ waiting records now := by rw [first]; exact List.mem_cons_self
    have claimable : isClaimable entry.2 now = true := by
      have listed := (List.mem_insertionSort _).mp member
      simpa using (List.mem_filter.mp listed).2
    rw [List.take_succ_cons, List.take_zero]
    simp [claimable]

/-- A claim leases the record that has waited longest, or finds none. -/
theorem claimNext_oldestReady (records : Queue α) (input : QueueClaimInput) (now : Int) :
    (claimNext input now .oldestReady).run records =
      match (waiting records now).head? with
      | none => (.ok none, records)
      | some (itemId, record) =>
        match leaseExpiry now input.leaseDurationMs with
        | .error failure => (.error failure, records)
        | .ok (expiresAtMs, expiresAt) =>
          (.ok (some (itemId, record.item,
              ⟨input.ownerId, input.leaseId, record.leaseEpoch + 1, expiresAt⟩)),
            records.set itemId (leasedRecord record input expiresAtMs)) := by
  rw [← nextClaimable_eq]
  unfold claimNext
  rw [Program.run_bind, Program.run_read]
  dsimp only [id]
  cases nextClaimable records now .oldestReady with
  | none => rfl
  | some entry =>
    dsimp only
    rw [Program.run_bind, Program.run_check]
    cases leaseExpiry now input.leaseDurationMs with
    | error failure => rfl
    | ok expiry => rfl

end Queue

section Threads

/-- The instant and the id of a thread order the list as those of an automation order its index. -/
def key (position : ThreadListCursor) : AutomationScheduleIndex.AutomationListCursor :=
  ⟨position.threadId, position.updatedAt⟩

/-- The two comparisons are the same. -/
theorem compareThreadPosition_eq (left right : ThreadListCursor) :
    compareThreadPosition left right =
      AutomationScheduleIndex.compareKeys (key left) (key right) := by
  unfold compareThreadPosition AutomationScheduleIndex.compareKeys key
  split_ifs <;> simp_all

/-- The place of a thread in the list. -/
abbrev rank (thread : ThreadState) : AutomationScheduleIndex.AutomationListCursor :=
  key (threadPosition thread)

/-- Threads of different ids have different places. -/
theorem rank_inj {left right : ThreadState} (same : rank left = rank right) :
    left.threadId = right.threadId :=
  congrArg (·.automationId) same

/-- A thread stands in front of another one in the list. -/
def Newer (left right : ThreadState) : Prop := rank right ≤ rank left

instance : DecidableRel Newer :=
  fun left right => inferInstanceAs (Decidable (rank right ≤ rank left))

instance : IsTrans ThreadState Newer := ⟨fun _ _ _ front back => le_trans back front⟩

instance : Std.Total Newer := ⟨fun left right => le_total (rank right) (rank left)⟩

/-- A thread may be selected in front of another one. -/
def Precedes (query : ThreadListQuery) (left right : ThreadState) : Prop :=
  if query.after.isSome then Newer right left else Newer left right

instance (query : ThreadListQuery) : DecidableRel (Precedes query) :=
  fun left right => inferInstanceAs (Decidable (if query.after.isSome then Newer right left
    else Newer left right))

instance (query : ThreadListQuery) : IsTrans ThreadState (Precedes query) where
  trans first second third front back := by
    unfold Precedes at *
    split_ifs at *
    · exact Trans.trans back front
    · exact Trans.trans front back

instance (query : ThreadListQuery) : Std.Total (Precedes query) where
  total left right := by
    unfold Precedes
    split_ifs
    · exact Std.Total.total right left
    · exact Std.Total.total left right

/-- The binary search passes over the threads that may stand in front. -/
theorem compareSelected_iff (query : ThreadListQuery) (thread other : ThreadState) :
    ¬ compareSelected query thread other < 0 ↔ Precedes query other thread := by
  unfold compareSelected Precedes Newer
  dsimp only
  rw [compareThreadPosition_eq]
  split_ifs
  · rw [Verif.AutomationScheduleIndex.compareKeys_neg, not_lt]
  · rw [neg_lt_zero, Verif.AutomationScheduleIndex.compareKeys_pos, not_lt]

/-- A thread is placed as in a stable sort. -/
theorem placeThread_eq (query : ThreadListQuery) {selected : List ThreadState}
    (sorted : selected.Pairwise (Precedes query)) (few : selected.length ≤ query.limit.toNat)
    (thread : ThreadState) :
    placeThread query selected thread =
      (insertBehind (Precedes query) thread selected).take query.limit.toNat := by
  have reads : ∀ middle : Nat, (selected[middle]?.all fun other =>
      ¬ compareSelected query thread other < 0) =
        selected[middle]?.all fun other => Precedes query other thread := by
    intro middle
    congr 1
    funext other
    rw [Bool.eq_iff_iff, decide_eq_true_iff, decide_eq_true_iff, compareSelected_iff]
  have placed : selected.insertIdx (selectionPoint query selected thread) thread =
      insertBehind (Precedes query) thread selected := insertIdx_bisect sorted reads
  have longer : (selected.insertIdx (selectionPoint query selected thread) thread).length ≤
      selected.length + 1 := List.length_insertIdx_le_succ
  rw [← placed, ← place_eq_take few, placeThread]
  dsimp only
  by_cases full : query.limit ≤ (selectionPoint query selected thread : Int)
  · rw [if_pos full, if_pos (Int.toNat_le.mpr full)]
  · have room : ¬ query.limit.toNat ≤ selectionPoint query selected thread := by omega
    rw [if_neg full, if_neg room]
    split_ifs with drops
    · rw [List.dropLast_eq_take]
      congr 1
      omega
    · rw [List.take_of_length_le (by omega)]

/-- The threads that a query lists, whatever its cursor, from the newest on. -/
def newestFirst (query : ThreadListQuery) (threads : List ThreadState) : List ThreadState :=
  (threads.filter (isListed query)).insertionSort Newer

/-- One pass selects the beginning of the stable sort. -/
theorem foldl_selectThread (query : ThreadListQuery) (threads : List ThreadState) :
    threads.foldl (selectThread query) [] =
      ((threads.filter fun thread =>
        isListed query thread && isPastCursor query thread).insertionSort (Precedes query)).take
          query.limit.toNat := by
  have step : selectThread query = fun selected thread =>
      if (isListed query thread && isPastCursor query thread) = true then
        placeThread query selected thread
      else selected := rfl
  rw [step, ← List.foldl_filter]
  exact foldl_eq_take_insertionSort
    (fun selected thread sorted few => placeThread_eq query sorted few thread) _

/-- A thread lies behind the cursor. -/
theorem isPastCursor_before {query : ThreadListQuery} (forward : query.after = none)
    (thread : ThreadState) :
    isPastCursor query thread = true ↔ ∀ bound ∈ query.before, rank thread < key bound := by
  unfold isPastCursor
  rw [forward]
  cases query.before with
  | none => simp
  | some bound =>
    simp [compareThreadPosition_eq, Verif.AutomationScheduleIndex.compareKeys_neg]

/-- A thread lies in front of the cursor. -/
theorem isPastCursor_after {query : ThreadListQuery} {cursor : ThreadListCursor}
    (back : query.after = some cursor) (thread : ThreadState) :
    isPastCursor query thread = true ↔ key cursor < rank thread := by
  unfold isPastCursor
  rw [back]
  simp [compareThreadPosition_eq, Verif.AutomationScheduleIndex.compareKeys_pos]

section Distinct

variable {threads : List ThreadState} (distinct : (threads.map (·.threadId)).Nodup)

include distinct

/-- Listed threads have different places. -/
theorem newestFirst_strict (query : ThreadListQuery) :
    (newestFirst query threads).Pairwise fun earlier later => rank later < rank earlier := by
  have apart : (newestFirst query threads).Pairwise fun earlier later =>
      earlier.threadId ≠ later.threadId := by
    have listed : ((threads.filter (isListed query)).map (·.threadId)).Nodup :=
      distinct.sublist (List.filter_sublist.map _)
    have sorted := (List.perm_insertionSort Newer (threads.filter (isListed query))).map
      (·.threadId)
    exact List.pairwise_map.mp (sorted.nodup_iff.mpr listed)
  have weak : (newestFirst query threads).Pairwise Newer := List.pairwise_insertionSort Newer _
  refine (weak.and apart).imp fun {earlier later} both => ?_
  exact lt_of_le_of_ne both.1 fun same => both.2 (rank_inj same).symm

/-- Selecting in either order keeps the order of the list. -/
theorem sorted_eq (query : ThreadListQuery) :
    ((threads.filter fun thread => isListed query thread && isPastCursor query thread).insertionSort
        (Precedes query)) =
      if query.after.isSome then ((newestFirst query threads).filter (isPastCursor query)).reverse
      else (newestFirst query threads).filter (isPastCursor query) := by
  have listed : (threads.filter fun thread => isListed query thread && isPastCursor query thread) =
      (threads.filter (isListed query)).filter (isPastCursor query) := by
    rw [List.filter_filter]
    exact List.filter_congr fun thread _ => Bool.and_comm _ _
  have permuted : ((threads.filter fun thread =>
      isListed query thread && isPastCursor query thread).insertionSort (Precedes query)).Perm
      ((newestFirst query threads).filter (isPastCursor query)) := by
    refine (List.perm_insertionSort _ _).trans ?_
    rw [listed]
    exact ((List.perm_insertionSort _ _).filter _).symm
  have sorted := List.pairwise_insertionSort (Precedes query)
    (threads.filter fun thread => isListed query thread && isPastCursor query thread)
  have strict := (newestFirst_strict distinct query).sublist
    (List.filter_sublist : List.Sublist (List.filter (isPastCursor query) _) _)
  -- of two places one is greater, so that there is only one such order
  have unique : ∀ first second : ThreadState,
      first ∈ (threads.filter fun thread =>
        isListed query thread && isPastCursor query thread).insertionSort (Precedes query) →
      second ∈ threads → Precedes query first second → Precedes query second first →
        first = second := by
    intro first second member stored front back
    have held : first ∈ threads :=
      List.mem_of_mem_filter ((List.mem_insertionSort _).mp member)
    refine List.inj_on_of_nodup_map distinct held stored (rank_inj ?_)
    unfold Precedes Newer at front back
    split_ifs at front back
    · exact le_antisymm front back
    · exact le_antisymm back front
  have stored : ∀ thread ∈ (newestFirst query threads).filter (isPastCursor query),
      thread ∈ threads := fun thread member =>
    List.mem_of_mem_filter ((List.mem_insertionSort _).mp (List.mem_of_mem_filter member))
  split_ifs with back
  · refine List.Perm.eq_of_pairwise ?_ sorted ?_ ?_
    · intro first second member other
      exact unique first second member (stored second (List.mem_reverse.mp other))
    · rw [List.pairwise_reverse]
      refine strict.imp fun {earlier later} less => ?_
      simpa [Precedes, back, Newer] using less.le
    · exact permuted.trans (List.reverse_perm _).symm
  · refine List.Perm.eq_of_pairwise ?_ sorted ?_ permuted
    · intro first second member other
      exact unique first second member (stored second other)
    · refine strict.imp fun {earlier later} less => ?_
      simpa [Precedes, back, Newer] using less.le

/-- A page in the direction of the list is the beginning of what lies behind its cursor. -/
theorem selectMemoryThreadList_forward {query : ThreadListQuery} (forward : query.after = none) :
    selectMemoryThreadList threads query =
      ((newestFirst query threads).filter fun thread =>
        ∀ bound ∈ query.before, rank thread < key bound).take query.limit.toNat := by
  have past : isPastCursor query = fun thread => decide (∀ bound ∈ query.before,
      rank thread < key bound) := by
    funext thread
    rw [Bool.eq_iff_iff, isPastCursor_before forward, decide_eq_true_iff]
  rw [selectMemoryThreadList, foldl_selectThread, sorted_eq distinct, past]
  simp [forward]

/-- A page against the direction of the list is the end of what lies in front of its cursor. -/
theorem selectMemoryThreadList_back {query : ThreadListQuery} {cursor : ThreadListCursor}
    (back : query.after = some cursor) :
    selectMemoryThreadList threads query =
      (((newestFirst query threads).filter fun thread =>
        key cursor < rank thread).reverse.take query.limit.toNat).reverse := by
  have past : isPastCursor query = fun thread => decide (key cursor < rank thread) := by
    funext thread
    rw [Bool.eq_iff_iff, isPastCursor_after back, decide_eq_true_iff]
  rw [selectMemoryThreadList, foldl_selectThread, sorted_eq distinct, past]
  simp [back]

/-- Following the cursors behind the pages reads every thread once. -/
theorem readPages_eq {query : ThreadListQuery} (forward : query.after = none)
    (positive : 1 ≤ query.limit) {rounds : Nat}
    (enough : (newestFirst query threads).length < rounds) :
    readPages threadPosition (fun before => selectMemoryThreadList threads { query with
      before := before }) rounds none = newestFirst query threads := by
  have asymmetric : ∀ first second : ThreadListCursor, key second < key first →
      ¬ key first < key second := fun first second less => lt_asymm less
  have pages : ∀ before, selectMemoryThreadList threads { query with before := before } =
      ((newestFirst query threads).filter fun thread =>
        ∀ bound ∈ before, rank thread < key bound).take query.limit.toNat :=
    fun before => selectMemoryThreadList_forward distinct forward
  exact @readPages_all _ _ threadPosition (fun bound position => key position < key bound) _
    asymmetric _ (newestFirst_strict distinct query) _ (by omega) _ pages _ enough

/-- Reading back from the first thread of a page returns the page in front of it. -/
theorem page_before {query : ThreadListQuery} (forward : query.after = none)
    {last first : ThreadState}
    (lastOf : (selectMemoryThreadList threads query).getLast? = some last)
    (firstOf : (selectMemoryThreadList threads { query with
      before := some (threadPosition last) }).head? = some first) :
    selectMemoryThreadList threads { query with
      before := none, after := some (threadPosition first) } =
      selectMemoryThreadList threads query := by
  have asymmetric : ∀ first second : ThreadListCursor, key second < key first →
      ¬ key first < key second := fun first second less => lt_asymm less
  have transitive : ∀ first second third : ThreadListCursor, key second < key first →
      key third < key second → key third < key first :=
    fun first second third front back => back.trans front
  have next : ((((newestFirst query threads).filter fun thread =>
      rank thread < rank last)).take query.limit.toNat).head? = some first := by
    have following : selectMemoryThreadList threads { query with
        before := some (threadPosition last) } =
        ((newestFirst query threads).filter fun thread =>
          ∀ bound ∈ some (threadPosition last), rank thread < key bound).take query.limit.toNat :=
      selectMemoryThreadList_forward distinct forward
    rw [following] at firstOf
    simpa using firstOf
  rw [selectMemoryThreadList_back distinct rfl]
  exact @page_in_front _ _ threadPosition (fun bound position => key position < key bound) _
    asymmetric transitive _ (newestFirst_strict distinct query) _ _ _ _ _
    (selectMemoryThreadList_forward distinct forward) lastOf next

/-- There is no page in front of the first one. -/
theorem page_before_first {query : ThreadListQuery} (forward : query.after = none)
    (start : query.before = none) {first : ThreadState}
    (firstOf : (selectMemoryThreadList threads query).head? = some first) :
    selectMemoryThreadList threads { query with
      before := none, after := some (threadPosition first) } = [] := by
  rw [selectMemoryThreadList_forward distinct forward, start] at firstOf
  rw [selectMemoryThreadList_back distinct rfl]
  have none : ((newestFirst query threads).filter fun thread => rank first < rank thread) = [] := by
    have strict := newestFirst_strict distinct query
    obtain ⟨tail, split⟩ : ∃ tail, newestFirst query threads = first :: tail := by
      cases all : newestFirst query threads with
      | nil => simp [all] at firstOf
      | cons head tail =>
        refine ⟨tail, ?_⟩
        rw [all] at firstOf
        cases size : query.limit.toNat with
        | zero => simp [size] at firstOf
        | succ limit => simpa [size] using firstOf
    rw [split] at strict ⊢
    obtain ⟨ahead, _⟩ := List.pairwise_cons.mp strict
    rw [List.filter_eq_nil_iff]
    intro thread member
    rcases List.mem_cons.mp member with rfl | later
    · simp
    · simpa using (ahead thread later).le
  show (((newestFirst query threads).filter fun thread =>
    rank first < rank thread).reverse.take query.limit.toNat).reverse = []
  rw [none]
  simp

end Distinct

end Threads

/-- Bounded selection is sorting and taking the beginning: the queue offers the records that have
waited longest and a claim takes the first of them; a page of threads is the beginning of what lies
behind its cursor, or the end of what lies in front of it. Following the cursors behind the pages
reads every listed thread once, and the cursor in front of a page leads to the page before it. -/
theorem bounded_selection :
    (∀ (α : Type) (records : Queue α) (now : Int),
      (∀ limit, oldestReady records now limit = (waiting records now).take limit) ∧
      ∀ input : QueueClaimInput, (claimNext input now .oldestReady).run records =
        match (waiting records now).head? with
        | none => (.ok none, records)
        | some (itemId, record) =>
          match leaseExpiry now input.leaseDurationMs with
          | .error failure => (.error failure, records)
          | .ok (expiresAtMs, expiresAt) =>
            (.ok (some (itemId, record.item,
                ⟨input.ownerId, input.leaseId, record.leaseEpoch + 1, expiresAt⟩)),
              records.set itemId (leasedRecord record input expiresAtMs))) ∧
    ∀ threads : List ThreadState, (threads.map (·.threadId)).Nodup → ∀ query : ThreadListQuery,
      (∀ cursor, query.after = some cursor → selectMemoryThreadList threads query =
        (((newestFirst query threads).filter fun thread =>
          key cursor < rank thread).reverse.take query.limit.toNat).reverse) ∧
      (query.after = none →
        selectMemoryThreadList threads query =
          ((newestFirst query threads).filter fun thread =>
            ∀ bound ∈ query.before, rank thread < key bound).take query.limit.toNat ∧
        (1 ≤ query.limit → ∀ rounds, (newestFirst query threads).length < rounds →
          readPages threadPosition (fun before => selectMemoryThreadList threads { query with
            before := before }) rounds none = newestFirst query threads) ∧
        (∀ last first, (selectMemoryThreadList threads query).getLast? = some last →
          (selectMemoryThreadList threads { query with
            before := some (threadPosition last) }).head? = some first →
          selectMemoryThreadList threads { query with
            before := none, after := some (threadPosition first) } =
            selectMemoryThreadList threads query) ∧
        (query.before = none → ∀ first, (selectMemoryThreadList threads query).head? = some first →
          selectMemoryThreadList threads { query with
            before := none, after := some (threadPosition first) } = [])) := by
  refine ⟨fun α records now => ⟨oldestReady_eq records now, fun input =>
    claimNext_oldestReady records input now⟩, fun threads distinct query => ?_⟩
  refine ⟨fun cursor back => selectMemoryThreadList_back distinct back, fun forward => ?_⟩
  refine ⟨selectMemoryThreadList_forward distinct forward, ?_, ?_, ?_⟩
  · exact fun positive rounds enough => readPages_eq distinct forward positive enough
  · exact fun last first lastOf firstOf => page_before distinct forward lastOf firstOf
  · exact fun start first firstOf => page_before_first distinct forward start firstOf

/-- A thread of the sample. -/
def sampleThread (threadId updatedAt : JsString) : ThreadState where
  threadId := threadId
  tenantId := js "tenant"
  spaceId := js "space"
  createdByActorId := js "actor"
  title := none
  workspaceId := none
  status := .active
  revision := 1
  lastEventSequence := 1
  lastMessageSequence := 0
  createdAt := updatedAt
  updatedAt := updatedAt
  archivedAt := none
  deletedAt := none
  deletedByActorId := none
  forkedFromThreadId := none
  forkedThroughHistorySequence := none

/-- Three threads, two of them of one instant. -/
def sampleThreads : List ThreadState := [
  sampleThread (js "a") (js "2026-01-01T00:00:00Z"),
  sampleThread (js "b") (js "2026-01-02T00:00:00Z"),
  sampleThread (js "B") (js "2026-01-01T00:00:00Z")]

/-- The first page of one thread. -/
def sampleQuery : ThreadListQuery := ⟨js "tenant", js "space", none, none, none, 1⟩

theorem bounded_selection_sample :
    readPages threadPosition (fun before => selectMemoryThreadList sampleThreads { sampleQuery with
      before := before }) 4 none = newestFirst sampleQuery sampleThreads :=
  ((bounded_selection.2 sampleThreads (by decide_cbv) sampleQuery).2 rfl).2.1 (by decide_cbv) 4
    (by decide_cbv)

end Crewon.Verif.ThreadListing
