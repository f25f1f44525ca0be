import Crewon.Lib.Ascending
import Crewon.Store.ModelHistoryContext
import Crewon.Verif.ThreadRollback

/-!
# What the context index keeps

The index of what was read of a history holds the sequences of the items that a replay of the same
part leaves in effect, and reads on exactly where the replay goes on. Its binary search finds
places because the sequences ascend.
-/

namespace Crewon.Verif.ContextIndex

open Crewon.Js Crewon.Checked Crewon.Domain Crewon.Lib Crewon.Store
open Crewon.Verif.ModelHistory Crewon.Verif.ThreadRollback

/-- The search between two places finds the number of values below, if that lies between them. -/
theorem lowerBoundBetween_eq {values : List Int} (ascending : Ascending id values) {needle : Int}
    {start stop : Nat} (fromStart : start ≤ countBelow id needle values)
    (toStop : countBelow id needle values ≤ stop) (inside : stop ≤ values.length) :
    lowerBoundBetween values needle start stop = countBelow id needle values := by
  fun_induction lowerBoundBetween values needle start stop with
  | case1 start stop open_ middle below hypothesis =>
    obtain ⟨found, there, less⟩ := (Option.any_eq_true _ _).mp below
    have passed := (lt_countBelow_iff ascending there).mpr (of_decide_eq_true less)
    exact hypothesis passed toStop inside
  | case2 start stop open_ middle notBelow hypothesis =>
    have bound : middle < values.length := by omega
    have there : values[middle]? = some values[middle] := List.getElem?_eq_getElem bound
    have notPassed : ¬ middle < countBelow id needle values := by
      intro passed
      have less : id values[middle] < needle := (lt_countBelow_iff ascending there).mp passed
      rw [there] at notBelow
      exact notBelow (by simpa using less)
    exact hypothesis fromStart (by omega) (by omega)
  | case3 start stop closed => omega

/-- The sequences of items. -/
abbrev sequences (items : List ModelHistoryItem) : List Int := items.map (·.sequence)

/-- The items ascend by their sequences. -/
abbrev AscendingItems (items : List ModelHistoryItem) : Prop :=
  Ascending (fun item : ModelHistoryItem => item.sequence) items

/-- The search among the sequences of ascending items finds the number of items below. -/
theorem lowerBound_sequences {items : List ModelHistoryItem} (ascending : AscendingItems items)
    (needle : Int) :
    lowerBound (sequences items) needle =
      countBelow (fun item : ModelHistoryItem => item.sequence) needle items := by
  have ascendingValues : Ascending id (sequences items) :=
    List.pairwise_map.mpr (ascending.imp fun less => less)
  have same : countBelow id needle (sequences items) =
      countBelow (fun item : ModelHistoryItem => item.sequence) needle items := by
    rw [countBelow, countBelow, List.countP_map]
    rfl
  rw [lowerBound, lowerBoundBetween_eq ascendingValues (Nat.zero_le _) (countBelow_le _ _)
    (le_refl _), same]

/-- Cutting the sequences of ascending items off cuts the items off. -/
theorem take_sequences {items : List ModelHistoryItem} (ascending : AscendingItems items)
    (cut : Int) :
    (sequences items).take (lowerBound (sequences items) cut) =
      sequences (items.filter (·.sequence < cut)) := by
  rw [lowerBound_sequences ascending, ← List.map_take, filter_below_eq_take ascending]

/-- Cutting the sequences of a selection off selects from the items that are left. -/
theorem take_selected {items : List ModelHistoryItem} (ascending : AscendingItems items)
    (select : ModelHistoryItem → Bool) (cut : Int) :
    (sequences (items.filter select)).take (lowerBound (sequences (items.filter select)) cut) =
      sequences ((items.filter (·.sequence < cut)).filter select) := by
  rw [take_sequences (ascending.filter _), List.filter_filter, List.filter_filter]
  congr 1
  exact List.filter_congr fun item _ => Bool.and_comm _ _

/-- The index keeps the sequences of what a replay has in hand. -/
structure Mirrors (replay : EffectiveReplay) (state : ContextIndex) : Prop where
  latestRollback : state.latestRollback = replay.rollbackMarkers.getLast?.map (·.sequence)
  active : state.active = sequences replay.items
  instructions : state.instructions =
    sequences (replay.items.filter isModelHistoryInstructionBoundary)
  compactions : state.compactions = sequences (replay.items.filter (·.isCompaction))
  content : state.content = sequences (replay.items.filter fun item => !item.isCompaction)

/-- What the index knows of what it has read of a history. -/
structure Indexed (hash : JsString → JsString) (locator : ThreadLocator)
    (read : List ModelHistoryItem) (replay : EffectiveReplay) (state : ContextIndex) : Prop where
  stored : StoredHistory locator read
  replays : replayEffectiveItems ⟨[], []⟩ read = .ok replay
  through : state.through = read.length
  lastDigest : state.lastDigest = read.getLast?.map (itemDigest hash)
  mirrors : Mirrors replay state

variable {hash : JsString → JsString} {locator : ThreadLocator}
  {read history : List ModelHistoryItem} {replay : EffectiveReplay} {state : ContextIndex}

/-- An item of what was read is found by its sequence in the whole history. -/
theorem sequencedItem_stored (stored : StoredHistory locator read) (front : read <+: history)
    {item : ModelHistoryItem} (member : item ∈ read) :
    sequencedItem history item.sequence = some item := by
  obtain ⟨index, bound, found⟩ := List.getElem_of_mem member
  have here : read[index]? = some item := List.getElem?_eq_some_iff.mpr ⟨bound, found⟩
  have number := stored.numbered.sequence here
  have place : (item.sequence - 1).toNat = index := by omega
  have positive : 1 ≤ item.sequence := by omega
  obtain ⟨rest, rfl⟩ := front
  rw [sequencedItem, if_pos positive, place, List.getElem?_append_left bound]
  exact here

/-- The items in effect were read. -/
theorem Indexed.of (indexed : Indexed hash locator read replay state) : ReplayOf read replay :=
  replayEffectiveItems_of indexed.replays

/-- The items in effect ascend. -/
theorem Indexed.ascending (indexed : Indexed hash locator read replay state) :
    AscendingItems replay.items :=
  indexed.stored.numbered.ascending.sublist indexed.of.sublist

/-- Moving back over the places of the items in effect is moving back over the items. -/
theorem retreatActive_eq (indexed : Indexed hash locator read replay state)
    (front : read <+: history) (first index : Nat) :
    retreatActive history state.active first index = retreat replay.items first index := by
  induction index with
  | zero => rfl
  | succ index hypothesis =>
    have same : (state.active[index]?).bind (sequencedItem history) = replay.items[index]? := by
      rw [indexed.mirrors.active, List.getElem?_map]
      cases found : replay.items[index]? with
      | none => rfl
      | some item =>
        exact sequencedItem_stored indexed.stored front
          (indexed.of.sublist.subset (List.mem_of_getElem? found))
    simp only [retreatActive, retreat, same, hypothesis]

/-- The number of instructions that the index keeps. -/
theorem Indexed.turns (indexed : Indexed hash locator read replay state) :
    state.instructions.length = turns replay.items := by
  rw [indexed.mirrors.instructions, List.length_map]
  exact List.countP_eq_length_filter.symm

/-- The place of the first instruction among the items in effect. -/
theorem lowerBound_first (indexed : Indexed hash locator read replay state) {first : Int}
    (here : state.instructions[0]? = some first) :
    lowerBound state.active first = replay.items.findIdx isModelHistoryInstructionBoundary := by
  rw [indexed.mirrors.instructions, ← List.head?_eq_getElem?, List.head?_map, List.head?_filter,
    Option.map_eq_some_iff] at here
  obtain ⟨item, found, rfl⟩ := here
  rw [List.find?_eq_bind_findIdx?_getElem?, Option.bind_eq_some_iff] at found
  obtain ⟨place, isPlace, there⟩ := found
  have same := (List.findIdx?_eq_some_iff_findIdx_eq.mp isPlace).2
  rw [indexed.mirrors.active, lowerBound_sequences indexed.ascending, same]
  exact countBelow_of_getElem? indexed.ascending there

/-- The index cuts where the plan does. -/
theorem rollbackCut_planned (indexed : Indexed hash locator read replay state)
    (front : read <+: history) {requestedTurns through : Int} {boundary : ThreadRollbackBoundary}
    (planned : Planned replay.items requestedTurns through boundary) :
    min requestedTurns state.instructions.length = boundary.removedTurns ∧
      (if boundary.removedTurns = 0 then none
        else rollbackCut state history boundary.removedTurns) = boundary.historyFromSequence := by
  have inRange := planned.inRange.1
  rw [indexed.turns]
  rcases planned.cut with ⟨noTurn, noCut, absent⟩ | ⟨earlier, instruction, later, cutItem, split,
    isBoundary, counted, bounded, enough, found, names⟩
  · rw [absent, noTurn, noCut]
    exact ⟨by omega, rfl⟩
  · have total : turns replay.items = turns earlier + turns later + 1 := by
      rw [split, turns, List.countP_append, List.countP_cons_of_pos isBoundary]
      rfl
    have nonzero : boundary.removedTurns ≠ 0 := by omega
    refine ⟨by omega, ?_⟩
    have kept : replay.items.filter isModelHistoryInstructionBoundary =
        earlier.filter isModelHistoryInstructionBoundary ++
          instruction :: later.filter isModelHistoryInstructionBoundary := by
      rw [split, List.filter_append, List.filter_cons_of_pos isBoundary]
    have place : (state.instructions.length - boundary.removedTurns).toNat =
        (earlier.filter isModelHistoryInstructionBoundary).length := by
      have before : turns earlier = (earlier.filter isModelHistoryInstructionBoundary).length :=
        List.countP_eq_length_filter
      rw [indexed.turns]
      omega
    have turn : state.instructions[(state.instructions.length - boundary.removedTurns).toNat]? =
        some instruction.sequence := by
      rw [place, indexed.mirrors.instructions, kept, List.getElem?_map]
      simp
    have nonempty : 0 < state.instructions.length := by
      rw [indexed.turns]
      omega
    obtain ⟨first, firstHere⟩ : ∃ first, state.instructions[0]? = some first :=
      ⟨_, List.getElem?_eq_getElem nonempty⟩
    have atInstruction : replay.items[earlier.length]? = some instruction := by
      rw [split]
      simp
    have bound : lowerBound state.active instruction.sequence = earlier.length := by
      rw [indexed.mirrors.active, lowerBound_sequences indexed.ascending]
      exact countBelow_of_getElem? indexed.ascending atInstruction
    have cut : state.active[retreat replay.items
        (replay.items.findIdx isModelHistoryInstructionBoundary) earlier.length]? =
          some cutItem.sequence := by
      rw [indexed.mirrors.active, List.getElem?_map, found]
      rfl
    have walk := retreatActive_eq indexed front
      (replay.items.findIdx isModelHistoryInstructionBoundary) earlier.length
    simp only [rollbackCut, turn, firstHere, Option.bind_eq_bind, Option.bind_some, bound,
      lowerBound_first indexed firstHere, walk, cut, names, if_neg nonzero]

/-- A stored marker asks for a number of turns that can be planned. -/
theorem requestedTurns_stored {item : ModelHistoryItem} (stored : StoredItem locator item)
    {rollbackId threadEventId : JsString} {requestedTurns removedTurns : Int}
    {fromSequence : Option Int} {through : Int}
    (said : item.body = .rollback rollbackId threadEventId requestedTurns removedTurns fromSequence
      through) : 1 ≤ requestedTurns ∧ requestedTurns ≤ maxModelHistoryRollbackTurns := by
  have valid := stored.body
  simp only [validateModelHistoryBody, said, bind_eq_ok, exists_unit, rejectIf_eq_ok, not_or,
    not_not, Bool.not_eq_false, isPositiveInteger_iff, not_lt] at valid
  exact ⟨valid.2.2.2.2.1.1, valid.2.2.2.2.2.1⟩

/-- The index cut off at a sequence keeps what a replay cut off there keeps. -/
theorem truncate_lists (indexed : Indexed hash locator read replay state) (cut : Int) :
    (state.truncate cut).active = sequences (replay.items.filter (·.sequence < cut)) ∧
      (state.truncate cut).instructions = sequences
        ((replay.items.filter (·.sequence < cut)).filter isModelHistoryInstructionBoundary) ∧
      (state.truncate cut).compactions = sequences
        ((replay.items.filter (·.sequence < cut)).filter (·.isCompaction)) ∧
      (state.truncate cut).content = sequences
        ((replay.items.filter (·.sequence < cut)).filter fun item => !item.isCompaction) := by
  have ascending := indexed.ascending
  refine ⟨?_, ?_, ?_, ?_⟩
  · show state.active.take _ = _
    rw [indexed.mirrors.active, take_sequences ascending]
  · show state.instructions.take _ = _
    rw [indexed.mirrors.instructions, take_selected ascending]
  · show state.compactions.take _ = _
    rw [indexed.mirrors.compactions, take_selected ascending]
  · show state.content.take _ = _
    rw [indexed.mirrors.content, take_selected ascending]

/-- A pushed item is the last one in effect. -/
theorem push_mirrors (mirrors : Mirrors replay state) (item : ModelHistoryItem) :
    Mirrors ⟨replay.items ++ [item], replay.rollbackMarkers⟩ (state.push item) where
  latestRollback := mirrors.latestRollback
  active := by
    show state.active ++ [item.sequence] = sequences (replay.items ++ [item])
    rw [mirrors.active, sequences, sequences, List.map_append]
    rfl
  instructions := by
    show (if _ then _ else _) = _
    rw [mirrors.instructions, List.filter_append]
    by_cases isBoundary : isModelHistoryInstructionBoundary item = true
    · simp [isBoundary]
    · simp [isBoundary]
  compactions := by
    show (if _ then _ else _) = _
    rw [mirrors.compactions, List.filter_append]
    by_cases isCompaction : item.isCompaction = true
    · simp [isCompaction]
    · simp [isCompaction]
  content := by
    show (if _ then _ else _) = _
    rw [mirrors.content, List.filter_append]
    by_cases isCompaction : item.isCompaction = true
    · simp [isCompaction]
    · simp [isCompaction]

/-- The index and the replay go on from one stored item to the same effect, or both reject it. -/
theorem applyItem_mirrors (indexed : Indexed hash locator read replay state)
    (front : read <+: history) {item : ModelHistoryItem} (stored : StoredItem locator item) :
    (∃ next after, applyItem state history item = .ok next ∧
      replayEffectiveItem replay item = .ok after ∧ Mirrors after next) ∨
      ((applyItem state history item).isOk = false ∧
        (replayEffectiveItem replay item).isOk = false) := by
  cases said : item.body with
  | message | toolCall | toolResult | compaction =>
    exact .inl ⟨state.push item, ⟨replay.items ++ [item], replay.rollbackMarkers⟩, by
      simp only [applyItem, said], by simp only [replayEffectiveItem, said],
      push_mirrors indexed.mirrors item⟩
  | rollback rollbackId threadEventId requestedTurns removedTurns fromSequence through =>
    obtain ⟨boundary, plan⟩ := planFromEffectiveItems_total replay.items
      (requestedTurns_stored stored said) through
    have planned := planFromEffectiveItems_eq_ok plan
    obtain ⟨sameRemoved, sameCut⟩ := rollbackCut_planned indexed front planned
    have reaches := stored.through said
    have marker : item.sequence = boundary.markerHistorySequence := by
      have next := planned.marker
      omega
    by_cases agrees : removedTurns = boundary.removedTurns ∧
        fromSequence = boundary.historyFromSequence
    · left
      obtain ⟨rfl, rfl⟩ := agrees
      have indexStep : applyItem state history item =
          .ok { boundary.historyFromSequence.elim state state.truncate with
            latestRollback := some item.sequence } := by
        simp only [applyItem, said, applyRollback, sameRemoved, sameCut, reaches, rejectIf, ne_eq,
          not_true_eq_false, or_self, ↓reduceIte]
        cases boundary.historyFromSequence <;> rfl
      have replayStep : replayEffectiveItem replay item = .ok {
          items := boundary.historyFromSequence.elim replay.items fun fromSequence =>
            replay.items.filter (·.sequence < fromSequence)
          rollbackMarkers := replay.rollbackMarkers ++ [item] } := by
        simp only [replayEffectiveItem, said, plan, ok_bind, marker, rejectIf, ne_eq,
          not_true_eq_false, or_self, ↓reduceIte]
        cases boundary.historyFromSequence <;> rfl
      refine ⟨_, _, indexStep, replayStep, ?_⟩
      have last : some item.sequence =
          (replay.rollbackMarkers ++ [item]).getLast?.map (·.sequence) := by
        simp
      cases boundary.historyFromSequence with
      | none =>
        have before := indexed.mirrors
        exact ⟨last, before.active, before.instructions, before.compactions, before.content⟩
      | some cut =>
        obtain ⟨active, instructions, compactions, content⟩ := truncate_lists indexed cut
        exact ⟨last, active, instructions, compactions, content⟩
    · right
      constructor
      · have differs : removedTurns ≠ boundary.removedTurns ∨
            fromSequence ≠ boundary.historyFromSequence ∨ through ≠ item.sequence - 1 := by
          rw [not_and_or] at agrees
          rcases agrees with removed | cut
          · exact .inl removed
          · exact .inr (.inl cut)
        simp only [applyItem, said, applyRollback, sameRemoved, sameCut, rejectIf, if_pos differs]
        rfl
      · have differs : removedTurns ≠ boundary.removedTurns ∨
            fromSequence ≠ boundary.historyFromSequence ∨
              item.sequence ≠ boundary.markerHistorySequence := by
          rw [not_and_or] at agrees
          rcases agrees with removed | cut
          · exact .inl removed
          · exact .inr (.inl cut)
        simp only [replayEffectiveItem, said, plan, ok_bind, rejectIf, if_pos differs]
        rfl

/-- A history of the thread that replays. -/
structure Replayable (locator : ThreadLocator) (history : List ModelHistoryItem) : Prop where
  stored : StoredHistory locator history
  replays : ∃ replay, replayEffectiveItems ⟨[], []⟩ history = .ok replay

/-- What stands in front of a history that replays does as well. -/
theorem Replayable.before {before after : List ModelHistoryItem}
    (replayable : Replayable locator (before ++ after)) : Replayable locator before := by
  obtain ⟨stored, replay, replays⟩ := replayable
  rw [replayEffectiveItems_append, bind_eq_ok] at replays
  obtain ⟨middle, reaches, _⟩ := replays
  exact ⟨stored.before, middle, reaches⟩

/-- Replaying one more item. -/
theorem replay_concat {after : EffectiveReplay} {item : ModelHistoryItem}
    (replays : replayEffectiveItems ⟨[], []⟩ read = .ok replay) :
    replayEffectiveItems ⟨[], []⟩ (read ++ [item]) = .ok after ↔
      replayEffectiveItem replay item = .ok after := by
  rw [replayEffectiveItems_append, replays, ok_bind]
  simp only [replayEffectiveItems]
  cases replayEffectiveItem replay item <;> rfl

/-- An item that was read into the index goes on with the replay. -/
theorem indexItem_indexed (indexed : Indexed hash locator read replay state)
    (front : read <+: history) {item : ModelHistoryItem} {next : ContextIndex}
    (accepted : indexItem hash locator history state item = .ok next) :
    ∃ after, Indexed hash locator (read ++ [item]) after next := by
  simp only [indexItem, bind_eq_ok, exists_unit, rejectIf_eq_ok, not_or, not_not,
    pure_eq_ok] at accepted
  obtain ⟨valid, ⟨tenantId, threadId, number⟩, applied, steps, rfl⟩ := accepted
  have own : StoredItem locator item := ⟨valid, tenantId, threadId⟩
  rcases applyItem_mirrors indexed front own with
    ⟨found, after, finds, replays, mirrors⟩ | ⟨fails, _⟩
  · obtain rfl := Except.ok.inj (steps.symm.trans finds)
    refine ⟨after, ?_, (replay_concat indexed.replays).mpr replays, ?_, ?_, ?_⟩
    · refine indexed.stored.append ?_ ⟨?_, trivial⟩
      · intro other member
        rw [List.mem_singleton.mp member]
        exact own
      · rw [number, indexed.through]
    · show item.sequence = ((read ++ [item]).length : Int)
      rw [number, indexed.through, List.length_append]
      rfl
    · simp
    · exact ⟨mirrors.latestRollback, mirrors.active, mirrors.instructions, mirrors.compactions,
        mirrors.content⟩
  · rw [steps] at fails
    cases fails

/-- An item that goes on with the replay is read into the index. -/
theorem indexItem_total (indexed : Indexed hash locator read replay state)
    (front : read <+: history) {item : ModelHistoryItem}
    (replayable : Replayable locator (read ++ [item])) :
    ∃ next, indexItem hash locator history state item = .ok next := by
  obtain ⟨stored, after, replays⟩ := replayable
  have own := stored.items item (by simp)
  have number : item.sequence = state.through + 1 := by
    have place := stored.numbered.sequence
      (show (read ++ [item])[read.length]? = some item by simp)
    rw [indexed.through]
    omega
  have step := (replay_concat indexed.replays).mp replays
  rcases applyItem_mirrors indexed front own with ⟨next, _, steps, _⟩ | ⟨_, fails⟩
  · simp only [indexItem, own.valid, ok_bind, own.tenantId, own.threadId, number, steps, rejectIf,
      ne_eq, not_true_eq_false, or_self, ↓reduceIte]
    exact ⟨_, rfl⟩
  · rw [step] at fails
    cases fails

/-- Items that were read into the index go on with the replay. -/
theorem indexItems_indexed {items : List ModelHistoryItem}
    (indexed : Indexed hash locator read replay state) (front : read ++ items <+: history)
    {next : ContextIndex} (accepted : indexItems hash locator history state items = .ok next) :
    ∃ after, Indexed hash locator (read ++ items) after next := by
  induction items generalizing read replay state with
  | nil =>
    obtain rfl := Except.ok.inj accepted
    rw [List.append_nil]
    exact ⟨replay, indexed⟩
  | cons item rest hypothesis =>
    simp only [indexItems, bind_eq_ok] at accepted
    obtain ⟨middle, reads, readsRest⟩ := accepted
    obtain ⟨between, indexedMiddle⟩ := indexItem_indexed indexed
      ((List.prefix_append read _).trans front) reads
    have regrouped : read ++ item :: rest = read ++ [item] ++ rest := by simp
    rw [regrouped] at front ⊢
    exact hypothesis indexedMiddle front readsRest

/-- Items that go on with the replay are read into the index. -/
theorem indexItems_total {items : List ModelHistoryItem}
    (indexed : Indexed hash locator read replay state) (front : read ++ items <+: history)
    (replayable : Replayable locator (read ++ items)) :
    ∃ next, indexItems hash locator history state items = .ok next := by
  induction items generalizing read replay state with
  | nil => exact ⟨state, rfl⟩
  | cons item rest hypothesis =>
    have regrouped : read ++ item :: rest = read ++ [item] ++ rest := by simp
    have here : read <+: history := (List.prefix_append read _).trans front
    rw [regrouped] at front replayable
    obtain ⟨middle, reads⟩ := indexItem_total indexed here replayable.before
    obtain ⟨between, indexedMiddle⟩ := indexItem_indexed indexed here reads
    obtain ⟨next, readsRest⟩ := hypothesis indexedMiddle front replayable
    exact ⟨next, by simp only [indexItems, reads, ok_bind, readsRest]⟩

/-- An index from which nothing was read yet. -/
theorem fresh_indexed (key randomUUID : JsString) :
    Indexed hash locator [] ⟨[], []⟩ (.fresh hash key randomUUID) :=
  ⟨stored_empty, rfl, rfl, rfl, ⟨rfl, rfl, rfl, rfl, rfl⟩⟩

/-- The index of a part of the history is not stale. -/
theorem Indexed.current (indexed : Indexed hash locator read replay state)
    (front : read <+: history) : state.stale hash history = false := by
  cases last : read.getLast? with
  | none =>
    have empty := List.getLast?_eq_none_iff.mp last
    have start : state.through = 0 := by
      rw [indexed.through, empty]
      rfl
    simp [ContextIndex.stale, start]
  | some item =>
    have number : item.sequence = state.through := by
      have final := indexed.stored.last
      rw [last] at final
      rw [indexed.through]
      exact final
    have found := sequencedItem_stored indexed.stored front (List.mem_of_getLast? last)
    rw [number] at found
    simp [ContextIndex.stale, found, indexed.lastDigest, last]

/-- The last compaction of the index is the last one in effect. -/
theorem lastCompaction_indexed (indexed : Indexed hash locator read replay state)
    (front : read <+: history) :
    lastCompaction state history = .ok (replay.items.filter (·.isCompaction)).getLast? := by
  cases last : (replay.items.filter (·.isCompaction)).getLast? with
  | none =>
    have none : state.compactions.getLast? = none := by
      rw [indexed.mirrors.compactions, List.getLast?_map, last]
      rfl
    simp only [lastCompaction, none]
  | some item =>
    obtain ⟨member, isCompaction⟩ := List.mem_filter.mp (List.mem_of_getLast? last)
    have sequence : state.compactions.getLast? = some item.sequence := by
      rw [indexed.mirrors.compactions, List.getLast?_map, last]
      rfl
    have found := sequencedItem_stored indexed.stored front (indexed.of.sublist.subset member)
    simp only [lastCompaction, sequence, found, isCompaction, ↓reduceIte]

/-- The latest marker of the index is the latest one. -/
theorem latestRollbackItem_indexed (indexed : Indexed hash locator read replay state)
    (front : read <+: history) :
    latestRollbackItem state history = .ok replay.rollbackMarkers.getLast? := by
  cases last : replay.rollbackMarkers.getLast? with
  | none =>
    have none : state.latestRollback = none := by
      rw [indexed.mirrors.latestRollback, last]
      rfl
    simp only [latestRollbackItem, none]
  | some item =>
    obtain ⟨member, isRollback⟩ := indexed.of.markers item (List.mem_of_getLast? last)
    have sequence : state.latestRollback = some item.sequence := by
      rw [indexed.mirrors.latestRollback, last]
      rfl
    have found := sequencedItem_stored indexed.stored front member
    simp only [latestRollbackItem, sequence, found, isRollback, ↓reduceIte]

/-- What is reported of an index. -/
structure Reports (replay : EffectiveReplay) (state : ContextIndex)
    (context : ModelHistoryContextState) : Prop where
  checkpoint : context.checkpoint = ⟨state.through, state.fingerprint⟩
  lastCompaction : context.lastCompaction = (replay.items.filter (·.isCompaction)).getLast?
  latestRollback : context.latestRollback = replay.rollbackMarkers.getLast?

/-- An index of a part of the history is reported. -/
theorem contextState_indexed (indexed : Indexed hash locator read replay state)
    (front : read <+: history) :
    ∃ context, contextState state history = .ok context ∧ Reports replay state context := by
  have compaction := lastCompaction_indexed indexed front
  have marker := latestRollbackItem_indexed indexed front
  simp only [contextState, marker, compaction, ok_bind]
  exact ⟨_, rfl, rfl, rfl, rfl⟩

end Crewon.Verif.ContextIndex
