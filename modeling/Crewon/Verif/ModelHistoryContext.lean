import Crewon.Lib.Trace
import Crewon.Verif.ContextIndex
import Crewon.Verif.ModelHistoryProjection

/-!
# The index against a full replay

Histories grow and indexes catch up with them in batches, in any order. In every state reached,
calls to prepare an index come to completion exactly for the histories that replay, and the pages
behind the reported compaction project to what the whole history projects to.
-/

namespace Crewon.Verif.ModelHistoryContext

open Crewon.Js Crewon.Checked Crewon.Domain Crewon.Lib Crewon.Store Crewon.Context
open Crewon.Verif.ModelHistory Crewon.Verif.ThreadRollback Crewon.Verif.ContextIndex
open Crewon.Verif.ModelHistoryProjection

/-- An item that names its thread. -/
structure ThreadItem (locator : ThreadLocator) where
  item : ModelHistoryItem
  tenantId : item.tenantId = locator.tenantId
  threadId : item.threadId = locator.threadId

/-- The histories and the indexes that follow them. -/
structure ContextWorld where
  histories : ThreadLocator → Option (List ModelHistoryItem)
  indexes : ContextIndexes

/-- No thread and no index. -/
def ContextWorld.empty : ContextWorld := ⟨fun _ => none, .empty⟩

/-- What happens to histories and indexes. -/
inductive ContextOperation where
  | append (locator : ThreadLocator) (items : List (ThreadItem locator))
  | prepare (locator : ThreadLocator) (randomUUID : JsString)

/-- The histories with items appended to one of them. The first append creates the history. -/
def ContextWorld.append (world : ContextWorld) (locator : ThreadLocator)
    (items : List (ThreadItem locator)) : ContextWorld where
  histories := Function.update world.histories locator
    (some ((world.histories locator).getD [] ++ items.map (·.item)))
  indexes := world.indexes

/-- Perform an operation. -/
def perform (hash : JsString → JsString) : ContextOperation →
    Program Failure ContextWorld (Option ModelHistoryContextProgress)
  | .append locator items => fun world => (.ok none, world.append locator items)
  | .prepare locator randomUUID => fun world =>
    let result := (prepare hash locator (world.histories locator) randomUUID).run world.indexes
    (result.1.map some, { world with indexes := result.2 })

/-- Prepare an index until it reports completion, once for each identifier at most. -/
def prepareUntilComplete (hash : JsString → JsString) (locator : ThreadLocator)
    (loaded : Option (List ModelHistoryItem)) :
    List JsString → Program Failure ContextIndexes (Option ModelHistoryContextState)
  | [] => pure none
  | randomUUID :: rest => do
    let progress ← prepare hash locator loaded randomUUID
    match progress.context with
    | some context => return some context
    | none => prepareUntilComplete hash locator loaded rest

/-- The pages of the content behind a sequence, one after the other. -/
def contextPages (hash : JsString → JsString) (locator : ThreadLocator)
    (history : List ModelHistoryItem) (indexes : ContextIndexes)
    (checkpoint : ModelHistoryContextCheckpoint) (limit start : Int) :
    Checked (List ModelHistoryItem) :=
  collectPages (fun item : ModelHistoryItem => item.sequence)
    (fun cursor => listItems hash locator (some history) indexes checkpoint cursor limit)
    limit.toNat (history.length + 1) start

/-- The window made of the pages behind the reported compaction. -/
def pagedWindow (context : ModelHistoryContextState) (items : List ModelHistoryItem) :
    ModelHistoryWindow where
  items := items
  lastCompaction := context.lastCompaction
  latestRollback := context.latestRollback
  throughHistorySequence := context.checkpoint.throughHistorySequence

variable {hash : JsString → JsString} {locator : ThreadLocator}
  {history : List ModelHistoryItem} {indexes : ContextIndexes}

/-- The index of a thread follows its history. -/
def Follows (hash : JsString → JsString) (locator : ThreadLocator)
    (history : List ModelHistoryItem) (state : ContextIndex) : Prop :=
  ∃ read replay, read <+: history ∧ Indexed hash locator read replay state

/-- Whatever is kept for the thread follows its history. -/
def Kept (hash : JsString → JsString) (locator : ThreadLocator)
    (history : List ModelHistoryItem) (indexes : ContextIndexes) : Prop :=
  ∀ state, indexes.find (contextKey locator) = some state → Follows hash locator history state

/-- A call starts from an index that follows the history: from the one that is kept, if any. -/
theorem startIndex_follows (kept : Kept hash locator history indexes) (randomUUID : JsString) :
    Follows hash locator history (startIndex hash locator history randomUUID
      (indexes.find (contextKey locator))) ∧
      ∀ state, indexes.find (contextKey locator) = some state →
        startIndex hash locator history randomUUID (indexes.find (contextKey locator)) =
          state := by
  cases found : indexes.find (contextKey locator) with
  | none =>
    exact ⟨⟨[], ⟨[], []⟩, List.nil_prefix, fresh_indexed _ _⟩, fun state absent => by cases absent⟩
  | some state =>
    obtain ⟨read, replay, front, indexed⟩ := kept state found
    have inside : ¬ (history.length : Int) < state.through := by
      have shorter := front.length_le
      rw [indexed.through]
      omega
    have current := indexed.current front
    have same : startIndex hash locator history randomUUID (some state) = state := by
      simp only [startIndex, inside, current, Bool.false_eq_true, or_self, ↓reduceIte]
    rw [same]
    exact ⟨⟨read, replay, front, indexed⟩, fun other equal => Option.some.inj equal⟩

/-- A call that reads a batch. -/
structure ReadsBatch (hash : JsString → JsString) (locator : ThreadLocator)
    (history : List ModelHistoryItem) (indexes : ContextIndexes) (start : ContextIndex)
    (progress : ModelHistoryContextProgress) (after : ContextIndexes) : Prop where
  reads : ∃ read replay next, read <+: history ∧ Indexed hash locator read replay next ∧
    next.through = min (history.length : Int) (start.through + contextBatch) ∧
      after = indexes.set (contextKey locator) next ∧
        ∀ context, progress.context = some context → read = history ∧ Reports replay next context
  completes : (history.length : Int) ≤ start.through + contextBatch →
    ∃ context, progress.context = some context

/-- A call reads one batch, or discards the index of a history that does not replay. -/
theorem prepare_run (valid : validateThreadLocator locator = .ok ())
    (kept : Kept hash locator history indexes) (randomUUID : JsString) :
    (∃ progress after,
      (prepare hash locator (some history) randomUUID).run indexes = (.ok progress, after) ∧
        ReadsBatch hash locator history indexes (startIndex hash locator history randomUUID
          (indexes.find (contextKey locator))) progress after) ∨
      (∃ failure, (prepare hash locator (some history) randomUUID).run indexes =
        (.error failure, indexes.erase (contextKey locator)) ∧ ¬ Replayable locator history) := by
  obtain ⟨⟨read, replay, front, indexed⟩, -⟩ := startIndex_follows kept randomUUID
  generalize starts : startIndex hash locator history randomUUID
    (indexes.find (contextKey locator)) = start at indexed ⊢
  obtain ⟨rest, split⟩ := front
  have place : start.through.toNat = read.length := by
    rw [indexed.through]
    exact Int.toNat_natCast _
  have batchIs : (history.drop start.through.toNat).take contextBatch =
      rest.take contextBatch := by
    rw [place, ← split, List.drop_left]
  have front : read ++ rest.take contextBatch <+: history := by
    rw [← split]
    exact (List.prefix_append_right_inj read).mpr (List.take_prefix _ rest)
  cases outcome : indexItems hash locator history start (rest.take contextBatch) with
  | error failure =>
    right
    refine ⟨failure, ?_, ?_⟩
    · simp only [prepare, valid, Program.run_check_ok_bind, Program.run_read_bind, starts,
        Program.run_onAbort, batchIs, outcome, Program.run_check_error_bind]
    · intro replayable
      have here : Replayable locator (read ++ rest.take contextBatch) := by
        rw [← split, ← List.take_append_drop contextBatch rest, ← List.append_assoc] at replayable
        exact replayable.before
      obtain ⟨next, reads⟩ := indexItems_total indexed front here
      rw [outcome] at reads
      cases reads
  | ok next =>
    left
    obtain ⟨after, indexedNext⟩ := indexItems_indexed indexed front outcome
    have length : next.through = min (history.length : Int) (start.through + contextBatch) := by
      rw [indexedNext.through, indexed.through, ← split]
      simp only [List.length_append, List.length_take]
      omega
    obtain ⟨context, current, reports⟩ := contextState_indexed indexedNext front
    have reported : (if next.through = history.length then (contextState next history).map some
        else .ok none : Checked (Option ModelHistoryContextState)) =
          .ok (if next.through = history.length then some context else none) := by
      rw [current]
      split <;> rfl
    refine ⟨⟨next.through, history.length, if next.through = history.length then some context
      else none⟩, indexes.set (contextKey locator) next, ?_, ⟨_, after, next, front, indexedNext,
      length, rfl, ?_⟩, ?_⟩
    · simp only [prepare, valid, Program.run_check_ok_bind, Program.run_read_bind, starts,
        Program.run_onAbort, batchIs, outcome, Program.run_update_bind, reported, Program.run_pure]
    · intro found complete
      obtain ⟨whole, same⟩ := Option.ite_none_right_eq_some.mp complete
      have all : (read ++ rest.take contextBatch).length = history.length := by
        have through := indexedNext.through
        omega
      exact ⟨front.eq_of_length all, Option.some.inj same ▸ reports⟩
    · intro enough
      have whole : next.through = history.length := by omega
      exact ⟨context, if_pos whole⟩

/-- The histories that replay are those with an effective history, when all of their items name the
thread. -/
theorem replayable_iff (own : ∀ item ∈ history, item.tenantId = locator.tenantId ∧
    item.threadId = locator.threadId) :
    Replayable locator history ↔ (projectEffectiveModelHistory history).isOk = true := by
  constructor
  · rintro ⟨stored, replay, replays⟩
    rw [projectEffectiveModelHistory_stored stored replays]
    rfl
  · intro accepted
    obtain ⟨effective, projects⟩ := exists_of_isOk accepted
    simp only [projectEffectiveModelHistory, replayEffectiveHistory, bind_eq_ok,
      exists_unit] at projects
    obtain ⟨valid, replay, replays, -⟩ := projects
    have stored : StoredHistory locator history := by
      cases history with
      | nil => exact stored_empty
      | cons first rest =>
        exact validateRawHistory_eq_ok (by simpa using own first List.mem_cons_self) valid
    exact ⟨stored, replay, replays⟩

/-- The index that a batch leaves follows the history. -/
theorem ReadsBatch.kept {start : ContextIndex} {progress : ModelHistoryContextProgress}
    {after : ContextIndexes}
    (batch : ReadsBatch hash locator history indexes start progress after) :
    Kept hash locator history after := by
  obtain ⟨read, replay, next, front, indexed, -, rfl, -⟩ := batch.reads
  intro state found
  rw [OrderedMap.find_set_self] at found
  exact ⟨read, replay, front, Option.some.inj found ▸ indexed⟩

/-- How far the index of the thread has come. -/
def readThrough (locator : ThreadLocator) (indexes : ContextIndexes) : Int :=
  ((indexes.find (contextKey locator)).map (·.through)).getD 0

/-- A call starts where the index of the thread has come to. -/
theorem startIndex_through (kept : Kept hash locator history indexes) (randomUUID : JsString) :
    (startIndex hash locator history randomUUID (indexes.find (contextKey locator))).through =
      readThrough locator indexes := by
  have same := (startIndex_follows kept randomUUID).2
  cases found : indexes.find (contextKey locator) with
  | none => simp [readThrough, found, startIndex, ContextIndex.fresh]
  | some state =>
    rw [found] at same
    simp [readThrough, found, same state rfl]

/-- Where a completed sequence of calls leaves the index. -/
structure CompletesWith (hash : JsString → JsString) (locator : ThreadLocator)
    (history : List ModelHistoryItem) (context : ModelHistoryContextState)
    (after : ContextIndexes) (replay : EffectiveReplay) (state : ContextIndex) : Prop where
  indexed : Indexed hash locator history replay state
  found : after.find (contextKey locator) = some state
  reports : Reports replay state context

/-- A completed sequence of calls has read the whole history. -/
theorem prepareUntilComplete_reports (valid : validateThreadLocator locator = .ok ())
    (kept : Kept hash locator history indexes) {randomUUIDs : List JsString}
    {context : ModelHistoryContextState} {after : ContextIndexes}
    (completes : (prepareUntilComplete hash locator (some history) randomUUIDs).run indexes =
      (.ok (some context), after)) :
    ∃ replay state, CompletesWith hash locator history context after replay state := by
  induction randomUUIDs generalizing indexes with
  | nil => simp [prepareUntilComplete] at completes
  | cons randomUUID rest hypothesis =>
    rw [prepareUntilComplete, Program.run_bind_eq_ok] at completes
    obtain ⟨progress, middle, prepared, further⟩ := completes
    rcases prepare_run valid kept randomUUID with
      ⟨found, between, runs, batch⟩ | ⟨failure, fails, -⟩
    · rw [prepared] at runs
      obtain ⟨sameProgress, rfl⟩ := Prod.mk.inj runs
      obtain rfl := Except.ok.inj sameProgress
      cases reported : progress.context with
      | none =>
        rw [reported] at further
        exact hypothesis batch.kept further
      | some now =>
        rw [reported] at further
        obtain ⟨sameContext, rfl⟩ := Prod.mk.inj further
        obtain rfl : now = context := Option.some.inj (Except.ok.inj sameContext)
        obtain ⟨read, replay, next, front, indexed, -, rfl, completed⟩ := batch.reads
        obtain ⟨rfl, reports⟩ := completed now reported
        exact ⟨replay, next, indexed, OrderedMap.find_set_self, reports⟩
    · rw [prepared] at fails
      cases fails

/-- Enough calls complete the index of a history that replays. -/
theorem prepareUntilComplete_completes (valid : validateThreadLocator locator = .ok ())
    (kept : Kept hash locator history indexes) (replayable : Replayable locator history)
    {randomUUIDs : List JsString} (some_ : randomUUIDs ≠ [])
    (enough : (history.length : Int) ≤
      readThrough locator indexes + contextBatch * randomUUIDs.length) :
    ∃ context after, (prepareUntilComplete hash locator (some history) randomUUIDs).run indexes =
      (.ok (some context), after) := by
  induction randomUUIDs generalizing indexes with
  | nil => exact absurd rfl some_
  | cons randomUUID rest hypothesis =>
    have start := startIndex_through kept randomUUID
    rcases prepare_run valid kept randomUUID with
      ⟨progress, between, runs, batch⟩ | ⟨failure, -, rejected⟩
    · cases reported : progress.context with
      | some context =>
        exact ⟨context, between, by
          simp only [prepareUntilComplete, Program.run_bind, runs, reported, Program.run_pure]⟩
      | none =>
        have further : readThrough locator indexes + contextBatch < history.length := by
          by_contra all
          obtain ⟨context, complete⟩ := batch.completes (by omega)
          rw [reported] at complete
          cases complete
        have more : rest ≠ [] := by
          rintro rfl
          simp only [List.length_singleton] at enough
          omega
        obtain ⟨read, replay, next, front, indexed, length, rfl, -⟩ := batch.reads
        have reached : readThrough locator (indexes.set (contextKey locator) next) =
            readThrough locator indexes + contextBatch := by
          rw [readThrough, OrderedMap.find_set_self, Option.map_some, Option.getD_some]
          omega
        have remaining : (history.length : Int) ≤
            readThrough locator (indexes.set (contextKey locator) next) +
              contextBatch * rest.length := by
          rw [List.length_cons] at enough
          push_cast at enough
          rw [reached]
          linarith
        obtain ⟨context, after, completes⟩ := hypothesis batch.kept more remaining
        exact ⟨context, after, by
          simp only [prepareUntilComplete, Program.run_bind, runs, reported, completes]⟩
    · exact absurd replayable rejected

/-- What is left of a replayed history. -/
def effectiveOf (history : List ModelHistoryItem) (replay : EffectiveReplay) :
    EffectiveModelHistory where
  items := replay.items
  rollbackMarkers := replay.rollbackMarkers
  latestRollback := replay.rollbackMarkers.getLast?
  throughHistorySequence := history.length

/-- The content in effect, with what the last compaction replaces. -/
theorem effectiveWindow_items (replay : EffectiveReplay) :
    (effectiveWindow (effectiveOf history replay)).items =
      (replay.items.filter fun item => !item.isCompaction).filter fun item =>
        replacedThrough (replay.items.filter (·.isCompaction)).getLast? < item.sequence := rfl

/-- The items with the sequences of stored items are the items. -/
theorem filterMap_sequences {items : List ModelHistoryItem}
    (found : ∀ item ∈ items, sequencedItem history item.sequence = some item) :
    (sequences items).filterMap (sequencedItem history) = items := by
  induction items with
  | nil => rfl
  | cons item rest hypothesis =>
    have here : sequencedItem history item.sequence = some item := found item List.mem_cons_self
    have later := hypothesis fun other member => found other (List.mem_cons_of_mem _ member)
    rw [sequences, List.map_cons, List.filterMap_cons_some here]
    exact congrArg _ later

/-- A page lists the items of the window behind the cursor. -/
theorem listItems_indexed {replay : EffectiveReplay} {state : ContextIndex}
    (valid : validateThreadLocator locator = .ok ())
    (indexed : Indexed hash locator history replay state)
    (found : indexes.find (contextKey locator) = some state) {cursor limit : Int}
    (cursorSafe : 0 ≤ cursor ∧ cursor ≤ maxSafeInteger) (inRange : 1 ≤ limit ∧ limit ≤ 100) :
    listItems hash locator (some history) indexes ⟨state.through, state.fingerprint⟩ cursor limit =
      .ok (((effectiveWindow (effectiveOf history replay)).items.filter fun item =>
        cursor < item.sequence).take limit.toNat) := by
  have bound := maxSafeInteger_pos
  have large : (1000 : Int) ≤ maxSafeInteger := by decide
  have limitValid : validateLimit limit = .ok () := by
    rw [validateLimit, rejectIf_eq_ok, not_or, not_or, Bool.not_eq_false, isSafeInteger_iff,
      maxPageSize]
    omega
  have page : validateModelHistoryPage locator cursor limit = .ok () := by
    simp only [validateModelHistoryPage, valid, limitValid, bind_eq_ok, exists_unit,
      rejectIf_eq_ok, not_or, Bool.not_eq_false, isSafeInteger_iff, not_lt, true_and, and_true]
    omega
  have small : ¬ 100 < limit := by omega
  have whole := List.prefix_refl history
  have compaction := lastCompaction_indexed indexed whole
  have current := indexed.current whole
  have content := indexed.mirrors.content
  generalize contents : (replay.items.filter fun item => !item.isCompaction) = items at content
  have ascending : AscendingItems items := by
    rw [← contents]
    exact indexed.ascending.filter _
  have known : ∀ item ∈ items, sequencedItem history item.sequence = some item := by
    intro item member
    rw [← contents] at member
    exact sequencedItem_stored indexed.stored whole
      (indexed.of.sublist.subset (List.mem_of_mem_filter member))
  generalize replaced : replacedThrough (replay.items.filter (·.isCompaction)).getLast? = behind
  have window : ((effectiveWindow (effectiveOf history replay)).items.filter fun item =>
      cursor < item.sequence) = items.filter fun item => max cursor behind < item.sequence := by
    rw [effectiveWindow_items, contents, replaced, List.filter_filter]
    refine List.filter_congr fun item _ => ?_
    by_cases above : max cursor behind < item.sequence
    · have both : cursor < item.sequence ∧ behind < item.sequence := by omega
      simp [both.1, both.2]
    · have either : ¬ cursor < item.sequence ∨ ¬ behind < item.sequence := by omega
      rcases either with below | below
      · simp [below]
      · simp [below]
  have start : state.content.drop (if state.content[lowerBound state.content (max cursor behind)]? =
      some (max cursor behind) then lowerBound state.content (max cursor behind) + 1
        else lowerBound state.content (max cursor behind)) =
      sequences (items.filter fun item => max cursor behind < item.sequence) := by
    rw [content, lowerBound_sequences ascending, ← drop_behind ascending]
    exact (List.map_drop ..).symm
  have selected : ∀ item ∈ (items.filter fun item => max cursor behind < item.sequence).take
      limit.toNat, sequencedItem history item.sequence = some item :=
    fun item member => known item (List.mem_of_mem_filter (List.mem_of_mem_take member))
  unfold replacedThrough at replaced
  simp only [listItems, page, ok_bind, rejectIf, small, found, indexed.through, current, compaction,
    ne_eq, not_true_eq_false, Bool.false_eq_true, or_self, ↓reduceIte, replaced, start, window,
    pure_eq_ok]
  rw [← List.map_take, filterMap_sequences selected]

/-- What the last compaction in effect replaces is a safe sequence. -/
theorem replacedThrough_safe {replay : EffectiveReplay} (stored : StoredHistory locator history)
    (of : ReplayOf history replay) :
    0 ≤ replacedThrough (replay.items.filter (·.isCompaction)).getLast? ∧
      replacedThrough (replay.items.filter (·.isCompaction)).getLast? ≤ maxSafeInteger := by
  have bound := maxSafeInteger_pos
  cases last : (replay.items.filter (·.isCompaction)).getLast? with
  | none =>
    show 0 ≤ (0 : Int) ∧ (0 : Int) ≤ maxSafeInteger
    omega
  | some item =>
    have member := List.mem_of_mem_filter (List.mem_of_getLast? last)
    have valid := (stored.items item (of.sublist.subset member)).body
    cases said : item.body with
    | compaction mode replaces sourceDigest summary summaryDigest retained =>
      simp only [validateModelHistoryBody, said, bind_eq_ok, exists_unit, rejectIf_eq_ok, not_or,
        Bool.not_eq_false, isPositiveInteger_iff] at valid
      have positive := valid.1.2.2.1
      have same : replacedThrough (some item) = replaces := by
        simp [replacedThrough, ModelHistoryItem.replacesThrough, said]
      omega
    | message | toolCall | toolResult | rollback =>
      have same : replacedThrough (some item) = 0 := by
        simp [replacedThrough, ModelHistoryItem.replacesThrough, said]
      omega

/-- The pages behind the reported compaction are the items of the window. -/
theorem contextPages_indexed {replay : EffectiveReplay} {state : ContextIndex}
    (valid : validateThreadLocator locator = .ok ())
    (indexed : Indexed hash locator history replay state)
    (found : indexes.find (contextKey locator) = some state) {limit : Int}
    (inRange : 1 ≤ limit ∧ limit ≤ 100) :
    contextPages hash locator history indexes ⟨state.through, state.fingerprint⟩ limit
        (replacedThrough (replay.items.filter (·.isCompaction)).getLast?) =
      .ok (effectiveWindow (effectiveOf history replay)).items := by
  have window : WindowOf locator history (effectiveWindow (effectiveOf history replay)) :=
    windowOf_replay indexed.of
  have ascending : AscendingItems (effectiveWindow (effectiveOf history replay)).items :=
    indexed.stored.numbered.ascending.sublist window.items
  have all : ((effectiveWindow (effectiveOf history replay)).items.filter fun item =>
      replacedThrough (replay.items.filter (·.isCompaction)).getLast? < item.sequence) =
        (effectiveWindow (effectiveOf history replay)).items := by
    rw [List.filter_eq_self]
    intro item member
    rw [decide_eq_true_eq]
    exact window.behind item member
  have fewer : (effectiveWindow (effectiveOf history replay)).items.length <
      history.length + 1 := Nat.lt_succ_of_le window.items.length_le
  have pages := collectPages_ascending ascending
    (show 0 < limit.toNat by omega)
    (fun cursor => 0 ≤ cursor ∧ cursor ≤ maxSafeInteger)
    (fun item member => by
      have safe := (indexed.stored.items item (window.items.subset member)).safe
      omega)
    (fun cursor safe => listItems_indexed valid indexed found safe inRange)
    (replacedThrough_safe indexed.stored indexed.of) (by rw [all]; exact fewer)
  rw [all] at pages
  exact pages

/-- The window of the pages projects to what the whole history projects to. -/
theorem projectModelHistoryWindow_paged {replay : EffectiveReplay} {state : ContextIndex}
    {context : ModelHistoryContextState} (indexed : Indexed hash locator history replay state)
    (reports : Reports replay state context) (options : ContextNormalizationOptions) :
    projectModelHistoryWindow
        (pagedWindow context (effectiveWindow (effectiveOf history replay)).items) options =
      projectModelHistory history options := by
  have window : pagedWindow context (effectiveWindow (effectiveOf history replay)).items =
      effectiveWindow (effectiveOf history replay) := by
    simp only [pagedWindow, reports.checkpoint, reports.lastCompaction, reports.latestRollback,
      indexed.through]
    rfl
  have effective : projectEffectiveModelHistory history = .ok (effectiveOf history replay) :=
    projectEffectiveModelHistory_stored indexed.stored indexed.replays
  rw [window]
  by_cases empty : history = []
  · subst empty
    obtain rfl := Except.ok.inj indexed.replays
    rfl
  · rw [projectModelHistory, validateHistorySequence_stored indexed.stored empty, ok_bind,
      effective, ok_bind]

/-- The key of a thread tells which thread it is. -/
theorem contextKey_inj {first second : ThreadLocator}
    (same : contextKey first = contextKey second) : first = second := by
  rw [contextKey, contextKey, stableJson_pair, stableJson_pair] at same
  obtain ⟨tenant, thread⟩ := stringifyPair_inj same
  cases first
  cases second
  exact congrArg₂ ThreadLocator.mk (Option.some.inj tenant) thread

/-- What holds of histories and indexes at all times. -/
structure Consistent (hash : JsString → JsString) (world : ContextWorld) : Prop where
  own : ∀ locator history, world.histories locator = some history →
    ∀ item ∈ history, item.tenantId = locator.tenantId ∧ item.threadId = locator.threadId
  kept : ∀ locator, Kept hash locator ((world.histories locator).getD []) world.indexes

/-- An index that follows a history follows the longer one as well. -/
theorem Kept.grow {longer : List ModelHistoryItem} (kept : Kept hash locator history indexes)
    (front : history <+: longer) : Kept hash locator longer indexes := by
  intro state found
  obtain ⟨read, replay, before, indexed⟩ := kept state found
  exact ⟨read, replay, before.trans front, indexed⟩

/-- Appending keeps the indexes in line with the histories. -/
theorem append_consistent {world : ContextWorld} (consistent : Consistent hash world)
    (locator : ThreadLocator) (items : List (ThreadItem locator)) :
    Consistent hash (world.append locator items) := by
  constructor
  · intro other history loaded item member
    by_cases same : other = locator
    · subst same
      simp only [ContextWorld.append, Function.update_self, Option.some.injEq] at loaded
      rw [← loaded] at member
      cases List.mem_append.mp member with
      | inl old =>
        cases before : world.histories other with
        | none => simp [before] at old
        | some earlier =>
          rw [before] at old
          exact consistent.own other earlier before item old
      | inr new =>
        obtain ⟨appended, -, rfl⟩ := List.mem_map.mp new
        exact ⟨appended.tenantId, appended.threadId⟩
    · simp only [ContextWorld.append, Function.update_of_ne same] at loaded
      exact consistent.own other history loaded item member
  · intro other
    by_cases same : other = locator
    · subst same
      have grown := (consistent.kept other).grow (List.prefix_append
        ((world.histories other).getD []) (items.map (·.item)))
      simpa only [ContextWorld.append, Function.update_self, Option.getD_some] using grown
    · simpa only [ContextWorld.append, Function.update_of_ne same] using consistent.kept other

/-- What a call leaves for a thread follows its history, and nothing else changes. -/
theorem prepare_kept (kept : Kept hash locator history indexes) (randomUUID : JsString) :
    Kept hash locator history
        ((prepare hash locator (some history) randomUUID).run indexes).2 ∧
      ∀ other, other ≠ contextKey locator →
        ((prepare hash locator (some history) randomUUID).run indexes).2.find other =
          indexes.find other := by
  cases valid : validateThreadLocator locator with
  | error failure =>
    have run : (prepare hash locator (some history) randomUUID).run indexes =
        (.error failure, indexes) := by
      simp only [prepare, valid, Program.run_check_error_bind]
    rw [run]
    exact ⟨kept, fun _ _ => rfl⟩
  | ok =>
    rcases prepare_run valid kept randomUUID with ⟨progress, after, run, batch⟩ | ⟨failure, run, -⟩
    · rw [run]
      refine ⟨batch.kept, ?_⟩
      obtain ⟨read, replay, next, -, -, -, rfl, -⟩ := batch.reads
      exact fun other different => OrderedMap.find_set_of_ne different
    · rw [run]
      constructor
      · intro state found
        rw [OrderedMap.find_erase, if_pos rfl] at found
        cases found
      · intro other different
        rw [OrderedMap.find_erase, if_neg different]

/-- Every operation keeps the indexes in line with the histories. -/
theorem perform_consistent (operation : ContextOperation) (world : ContextWorld)
    (consistent : Consistent hash world) :
    Consistent hash ((perform hash operation).run world).2 := by
  cases operation with
  | append locator items => exact append_consistent consistent locator items
  | prepare locator randomUUID =>
    refine ⟨consistent.own, ?_⟩
    show ∀ other, Kept hash other ((world.histories other).getD [])
      ((prepare hash locator (world.histories locator) randomUUID).run world.indexes).2
    intro other
    cases loaded : world.histories locator with
    | none =>
      have run : ((prepare hash locator none randomUUID).run world.indexes).2 = world.indexes := by
        cases valid : validateThreadLocator locator with
        | error failure => simp only [prepare, valid, Program.run_check_error_bind]
        | ok => simp only [prepare, valid, Program.run_check_ok_bind, Program.run_abort]
      rw [run]
      exact consistent.kept other
    | some history =>
      have before := consistent.kept locator
      rw [loaded, Option.getD_some] at before
      obtain ⟨own, others⟩ := prepare_kept before randomUUID
      by_cases same : other = locator
      · rw [same, loaded]
        exact own
      · intro state found
        rw [others _ fun sameKey => same (contextKey_inj sameKey)] at found
        exact consistent.kept other state found

/-- Before anything happened there is nothing to be kept in line. -/
theorem empty_consistent : Consistent hash .empty := by
  constructor
  · intro locator history absent
    cases absent
  · intro locator state absent
    cases absent

/-- The index of a thread agrees with a full replay of its history. -/
structure AgreesWithReplay (hash : JsString → JsString) (indexes : ContextIndexes)
    (locator : ThreadLocator) (history : List ModelHistoryItem) : Prop where
  completes : ∀ randomUUIDs, randomUUIDs ≠ [] →
    history.length ≤ contextBatch * randomUUIDs.length →
      ((∃ context after, (prepareUntilComplete hash locator (some history) randomUUIDs).run
        indexes = (.ok (some context), after)) ↔
          (projectEffectiveModelHistory history).isOk = true)
  accepted : ∀ randomUUIDs context after,
    (prepareUntilComplete hash locator (some history) randomUUIDs).run indexes =
      (.ok (some context), after) → (projectEffectiveModelHistory history).isOk = true
  projects : ∀ randomUUIDs context after,
    (prepareUntilComplete hash locator (some history) randomUUIDs).run indexes =
      (.ok (some context), after) →
        ∀ limit options, 1 ≤ limit → limit ≤ 100 → ∃ items,
          contextPages hash locator history after context.checkpoint limit
              (replacedThrough context.lastCompaction) = .ok items ∧
            projectModelHistoryWindow (pagedWindow context items) options =
              projectModelHistory history options

/-- The indexes of all threads agree with full replays. -/
def IndexesAgree (hash : JsString → JsString) (world : ContextWorld) : Prop :=
  ∀ locator history, world.histories locator = some history →
    validateThreadLocator locator = .ok () → AgreesWithReplay hash world.indexes locator history

/-- Whatever was appended and prepared in whatever order, the indexes agree with full replays. -/
theorem indexes_agree_with_replay (hash : JsString → JsString)
    (operations : List ContextOperation) :
    IndexesAgree hash (finalState (perform hash) .empty operations) := by
  have consistent := finalState_invariant (Consistent hash) perform_consistent empty_consistent
    operations
  generalize finalState (perform hash) .empty operations = world at consistent ⊢
  intro locator history loaded valid
  have own := consistent.own locator history loaded
  have kept := consistent.kept locator
  rw [loaded, Option.getD_some] at kept
  have accepted : ∀ randomUUIDs context after,
      (prepareUntilComplete hash locator (some history) randomUUIDs).run world.indexes =
        (.ok (some context), after) → (projectEffectiveModelHistory history).isOk = true := by
    intro randomUUIDs context after completed
    obtain ⟨replay, state, indexed, -, -⟩ := prepareUntilComplete_reports valid kept completed
    exact (replayable_iff own).mp ⟨indexed.stored, replay, indexed.replays⟩
  refine ⟨?_, accepted, ?_⟩
  · intro randomUUIDs nonempty enough
    refine ⟨fun ⟨context, after, completed⟩ => accepted randomUUIDs context after completed, ?_⟩
    intro isOk
    have notBefore : 0 ≤ readThrough locator world.indexes := by
      unfold readThrough
      cases found : world.indexes.find (contextKey locator) with
      | none => exact le_refl 0
      | some state =>
        obtain ⟨read, replay, -, indexed⟩ := kept state found
        rw [Option.map_some, Option.getD_some, indexed.through]
        exact Int.natCast_nonneg _
    exact prepareUntilComplete_completes valid kept ((replayable_iff own).mpr isOk) nonempty
      (by omega)
  · intro randomUUIDs context after completed limit options positive small
    obtain ⟨replay, state, indexed, found, reports⟩ :=
      prepareUntilComplete_reports valid kept completed
    refine ⟨_, ?_, projectModelHistoryWindow_paged indexed reports options⟩
    rw [reports.checkpoint, reports.lastCompaction]
    exact contextPages_indexed valid indexed found ⟨positive, small⟩

end Crewon.Verif.ModelHistoryContext
