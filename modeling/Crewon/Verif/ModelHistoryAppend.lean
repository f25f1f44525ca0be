import Crewon.Lib.Trace
import Crewon.Verif.EffectiveCalls

/-!
# The append index agrees with the scan of the history

Both checks follow one ledger of calls that is keyed by the run and the call. The index follows
it under every circumstances: its keys are JSON texts, which are read back. The scan joins run
and call by a separator that may occur in either, so it follows the ledger as long as no two
calls that meet are written alike.
-/

namespace Crewon.Verif.ModelHistoryAppend

open Crewon.Js Crewon.Checked Crewon.Domain Crewon.Lib Crewon.Store Crewon.Verif.ModelHistory
open Crewon.Verif.EffectiveCalls

/-- The text of a key in the index. -/
def indexText (key : CallKey) : JsString := historyToolCallKey key.1 key.2

/-- The text of a key in the scan. -/
def scanText (key : CallKey) : JsString := modelHistoryCallKey key.1 key.2

/-- Keys with one text in the index are one key. -/
theorem indexText_inj {first second : CallKey} (same : indexText first = indexText second) :
    first = second := by
  obtain ⟨sameRun, sameCall⟩ := stringifyPair_inj same
  exact Prod.ext sameRun sameCall

@[simp] theorem indexText_eq_iff {first second : CallKey} :
    indexText first = indexText second ↔ first = second :=
  ⟨indexText_inj, fun same => by rw [same]⟩

/-- The scan writes the key of the ledger in its own way. -/
theorem callMove_scan (item : ModelHistoryItem) :
    callMove modelHistoryCallKey item = (move item).rename scanText := by
  unfold move callMove
  cases item.body <;> rfl

section Following
variable {state : ModelHistoryAppendState}

/-- What is known of a call in the middle of the incremental check. -/
def knownCall (state : ModelHistoryAppendState) (seen : IncrementalPairing) (key : CallKey) :
    Option ToolCallDetail :=
  (seen.newCalls.find (indexText key)).or
    ((state.referencedToolCalls.find (indexText key)).map
      fun stored => ⟨stored.kind, some stored.segmentId⟩)

/-- The call has its result. -/
def Answered (state : ModelHistoryAppendState) (seen : IncrementalPairing) (key : CallKey) :
    Prop :=
  indexText key ∈ seen.completed ∨
    (state.referencedToolCalls.find (indexText key)).any (·.completed) = true

/-- The incremental check follows a ledger on the calls in question. -/
structure Follows (state : ModelHistoryAppendState) (calls : List CallKey)
    (seen : IncrementalPairing) (ledger : CallLedger) : Prop where
  proper : ledger.Proper
  count : seen.pendingCount = ledger.pending.length
  pending : ∀ key ∈ calls, ∀ detail, findIn key ledger.pending = some detail ↔
    knownCall state seen key = some detail ∧ ¬ Answered state seen key
  completed : ∀ key ∈ calls, key ∈ ledger.completed ↔
    (knownCall state seen key).isSome = true ∧ Answered state seen key
  answered : ∀ key ∈ calls, Answered state seen key → (knownCall state seen key).isSome = true

/-- A call is known to the incremental check exactly when the ledger knows it. -/
theorem Follows.known {calls : List CallKey} {seen : IncrementalPairing} {ledger : CallLedger}
    (follows : Follows state calls seen ledger) {key : CallKey} (asked : key ∈ calls) :
    ((findIn key ledger.pending).isSome = true ∨ key ∈ ledger.completed) ↔
      (knownCall state seen key).isSome = true := by
  rw [follows.completed key asked]
  constructor
  · rintro (isOpen | closed)
    · obtain ⟨detail, found⟩ := Option.isSome_iff_exists.mp isOpen
      exact Option.isSome_iff_exists.mpr ⟨detail, ((follows.pending key asked detail).mp found).1⟩
    · exact closed.1
  · intro known
    by_cases answered : Answered state seen key
    · exact .inr ⟨known, answered⟩
    · obtain ⟨detail, found⟩ := Option.isSome_iff_exists.mp known
      have isOpen := (follows.pending key asked detail).mpr ⟨found, answered⟩
      exact .inl (Option.isSome_iff_exists.mpr ⟨detail, isOpen⟩)

/-- The known calls after one more call is seen. -/
theorem knownCall_opened {seen : IncrementalPairing} {key other : CallKey}
    {detail : ToolCallDetail} {count : Int} :
    knownCall state { seen with
      pendingCount := count
      newCalls := seen.newCalls.set (indexText key) detail } other =
      if other = key then some detail else knownCall state seen other := by
  by_cases same : other = key
  · simp [knownCall, same]
  · simp [knownCall, OrderedMap.find_set, same]

/-- One more call follows one more open entry. -/
theorem Follows.opened {calls : List CallKey} {seen : IncrementalPairing} {ledger next : CallLedger}
    (follows : Follows state calls seen ledger) {key : CallKey} {detail : ToolCallDetail}
    (asked : key ∈ calls) (unknown : ¬ (knownCall state seen key).isSome = true)
    (entered : ledger.move (.opens key detail) = .ok next)
    (grown : next.pending = ledger.pending ++ [(key, detail)])
    (same : next.completed = ledger.completed) :
    Follows state calls { seen with
      pendingCount := seen.pendingCount + 1
      newCalls := seen.newCalls.set (indexText key) detail } next where
  proper := follows.proper.move entered
  count := by
    rw [grown, List.length_append, follows.count]
    simp
  pending := by
    intro other member found
    have before := follows.pending other member found
    rw [grown, findIn_concat, knownCall_opened]
    by_cases here : other = key
    · have absent : findIn key ledger.pending = none := by
        by_contra isOpen
        exact unknown ((follows.known asked).mp (.inl (Option.isSome_iff_ne_none.mpr isOpen)))
      have unanswered : ¬ Answered state seen key := mt (follows.answered key asked) unknown
      rw [here, absent, Option.none_or, if_pos rfl, if_pos rfl]
      exact ⟨fun equal => ⟨equal, unanswered⟩, fun both => both.1⟩
    · rw [if_neg (Ne.symm here), Option.or_none, if_neg here]
      exact before
  completed := by
    intro other member
    rw [same, knownCall_opened]
    by_cases here : other = key
    · have notClosed : key ∉ ledger.completed :=
        fun closed => unknown ((follows.known asked).mp (.inr closed))
      have unanswered : ¬ Answered state seen key := mt (follows.answered key asked) unknown
      rw [here, if_pos rfl]
      exact ⟨fun closed => absurd closed notClosed, fun both => absurd both.2 unanswered⟩
    · rw [if_neg here]
      exact follows.completed other member
  answered := by
    intro other member answered
    rw [knownCall_opened]
    by_cases here : other = key
    · rw [if_pos here]
      rfl
    · rw [if_neg here]
      exact follows.answered other member answered

/-- One more result follows one more closed entry. -/
theorem Follows.closed {calls : List CallKey} {seen : IncrementalPairing} {ledger next : CallLedger}
    (follows : Follows state calls seen ledger) {key : CallKey} {detail : ToolCallDetail}
    (asked : key ∈ calls) (isOpen : findIn key ledger.pending = some detail)
    (entered : ledger.move (.closes key detail) = .ok next)
    (shrunk : next.pending = ledger.pending.filter (·.1 ≠ key))
    (same : next.completed = key :: ledger.completed) :
    Follows state calls { seen with
      pendingCount := seen.pendingCount - 1
      completed := indexText key :: seen.completed } next := by
  have answeredIff (other : CallKey) : Answered state { seen with
      pendingCount := seen.pendingCount - 1
      completed := indexText key :: seen.completed } other ↔
        other = key ∨ Answered state seen other := by
    simp only [Answered, List.mem_cons, indexText_eq_iff, or_assoc]
  have known := (follows.pending key asked detail).mp isOpen
  constructor
  case proper => exact follows.proper.move entered
  case count =>
    have shorter := length_filter_add_one follows.proper isOpen
    have counted := follows.count
    rw [shrunk]
    show seen.pendingCount - 1 = _
    omega
  case pending =>
    intro other member found
    rw [shrunk, findIn_filter_ne, answeredIff]
    by_cases here : other = key
    · rw [if_pos here]
      constructor
      · intro impossible
        cases impossible
      · intro both
        exact absurd (.inl here) both.2
    · rw [if_neg here]
      have before := follows.pending other member found
      constructor
      · intro still
        have both := before.mp still
        exact ⟨both.1, fun answered => answered.elim here both.2⟩
      · intro both
        exact before.mpr ⟨both.1, fun answered => both.2 (.inr answered)⟩
  case completed =>
    intro other member
    rw [same, List.mem_cons, answeredIff, follows.completed other member]
    constructor
    · rintro (here | both)
      · rw [here]
        exact ⟨Option.isSome_iff_exists.mpr ⟨detail, known.1⟩, .inl rfl⟩
      · exact ⟨both.1, .inr both.2⟩
    · rintro ⟨isKnown, here | answered⟩
      · exact .inl here
      · exact .inr ⟨isKnown, answered⟩
  case answered =>
    intro other member answered
    rcases (answeredIff other).mp answered with here | before
    · rw [here]
      exact Option.isSome_iff_exists.mpr ⟨detail, known.1⟩
    · exact follows.answered other member before

/-- The incremental check agrees with the ledger on one item. -/
def Agrees (state : ModelHistoryAppendState) (calls : List CallKey) (seen : IncrementalPairing)
    (ledger : CallLedger) (item : ModelHistoryItem) : Prop :=
  match ledger.move (move item) with
  | .error fault => pairIncrementally state seen item = .error (pairingFailure fault)
  | .ok next => ∃ later, pairIncrementally state seen item = .ok later ∧
      Follows state calls later next

/-- The incremental check of a call agrees with the ledger. -/
theorem agrees_toolCall {calls : List CallKey} {seen : IncrementalPairing} {ledger : CallLedger}
    (follows : Follows state calls seen ledger) {item : ModelHistoryItem}
    {kind : ModelHistoryToolKind} {callId name input : JsString}
    (said : item.body = .toolCall kind callId name input) (asked : (item.runId, callId) ∈ calls)
    (room : seen.pendingCount + 1 ≤ maxSafeInteger) :
    Agrees state calls seen ledger item := by
  have moves : move item = .opens (item.runId, callId) ⟨kind, item.segmentId⟩ := by
    simp [move, callMove, said]
  have known := follows.known asked
  have isKnown : ((seen.newCalls.find (historyToolCallKey item.runId callId)).isSome = true ∨
      (state.referencedToolCalls.find (historyToolCallKey item.runId callId)).isSome = true) ↔
        (knownCall state seen (item.runId, callId)).isSome = true := by
    simp [knownCall, indexText]
  unfold Agrees
  rw [moves]
  by_cases repeated : (knownCall state seen (item.runId, callId)).isSome = true
  · have duplicate : ledger.move (.opens (item.runId, callId) ⟨kind, item.segmentId⟩) =
        .error .duplicate := if_pos (known.mpr repeated)
    rw [duplicate]
    simp only [pairIncrementally, said, rejectIf, isKnown.mpr repeated, ↓reduceIte, error_bind]
    rfl
  · have fresh : ledger.move (.opens (item.runId, callId) ⟨kind, item.segmentId⟩) =
        .ok { ledger with
          pending := ledger.pending ++ [((item.runId, callId), ⟨kind, item.segmentId⟩)] } :=
      if_neg (mt known.mp repeated)
    have safe : isSafeInteger (seen.pendingCount + 1) = true := by
      have counted := follows.count
      rw [isSafeInteger_iff]
      omega
    have next := follows.opened asked repeated fresh rfl rfl
    rw [fresh]
    refine ⟨_, ?_, next⟩
    simp only [pairIncrementally, said, rejectIf, mt isKnown.mp repeated, ↓reduceIte, ok_bind,
      safe, Bool.true_eq_false]
    rfl

/-- The incremental check of a result agrees with the ledger. -/
theorem agrees_toolResult {calls : List CallKey} {seen : IncrementalPairing} {ledger : CallLedger}
    (follows : Follows state calls seen ledger) {item : ModelHistoryItem}
    {kind : ModelHistoryToolKind} {callId output : JsString} {isError : Bool}
    {status : ModelHistoryToolStatus}
    (said : item.body = .toolResult kind callId output isError status)
    (asked : (item.runId, callId) ∈ calls) : Agrees state calls seen ledger item := by
  have moves : move item = .closes (item.runId, callId) ⟨kind, item.segmentId⟩ := by
    simp [move, callMove, said]
  have pending := follows.pending (item.runId, callId) asked ⟨kind, item.segmentId⟩
  have refused : (knownCall state seen (item.runId, callId) = none ∨
      historyToolCallKey item.runId callId ∈ seen.completed ∨
        (state.referencedToolCalls.find (historyToolCallKey item.runId callId)).any
          (·.completed) = true ∨
        knownCall state seen (item.runId, callId) ≠ some ⟨kind, item.segmentId⟩) ↔
      ¬ findIn (item.runId, callId) ledger.pending = some ⟨kind, item.segmentId⟩ := by
    rw [pending, not_and_or, not_not]
    constructor
    · rintro (unknown | closed | answered | differs)
      · exact .inl (by simp [unknown])
      · exact .inr (.inl closed)
      · exact .inr (.inr answered)
      · exact .inl differs
    · rintro (differs | closed | answered)
      · exact .inr (.inr (.inr differs))
      · exact .inr (.inl closed)
      · exact .inr (.inr (.inl answered))
  unfold Agrees
  rw [moves]
  by_cases isOpen : findIn (item.runId, callId) ledger.pending = some ⟨kind, item.segmentId⟩
  · have closing : ledger.move (.closes (item.runId, callId) ⟨kind, item.segmentId⟩) = .ok {
        pending := ledger.pending.filter (·.1 ≠ (item.runId, callId))
        completed := (item.runId, callId) :: ledger.completed } := if_pos isOpen
    have next := follows.closed asked isOpen closing rfl rfl
    have counted := follows.count
    have some := length_filter_add_one follows.proper isOpen
    have positive : ¬ seen.pendingCount - 1 < 0 := by omega
    rw [closing]
    refine ⟨_, ?_, next⟩
    simp only [knownCall, indexText] at refused
    simp only [pairIncrementally, said, rejectIf, refused, isOpen, not_true_eq_false,
      ↓reduceIte, ok_bind, positive]
    rfl
  · have orphaned : ledger.move (.closes (item.runId, callId) ⟨kind, item.segmentId⟩) =
        .error .orphaned := if_neg isOpen
    rw [orphaned]
    simp only [knownCall, indexText] at refused
    simp only [pairIncrementally, said, rejectIf, refused, isOpen, not_false_eq_true,
      ↓reduceIte, error_bind]
    rfl

/-- The incremental check of any other item agrees with the ledger. -/
theorem agrees_other {calls : List CallKey} {seen : IncrementalPairing} {ledger : CallLedger}
    (follows : Follows state calls seen ledger) {item : ModelHistoryItem}
    (other : item.callId = none) : Agrees state calls seen ledger item := by
  have moves : move item = .other := by
    unfold move callMove
    cases said : item.body <;> simp [ModelHistoryItem.callId, said] at other ⊢
  have checks : pairIncrementally state seen item =
      rejectIf (0 < seen.pendingCount) (runStoreError "model_history_tool_result_missing") >>=
        fun _ => pure seen := by
    unfold pairIncrementally
    cases said : item.body <;> simp [ModelHistoryItem.callId, said] at other ⊢
  have counted := follows.count
  unfold Agrees
  rw [moves, checks]
  by_cases none : ledger.pending = []
  · have quiet : ledger.move .other = .ok ledger := if_pos none
    have zero : ¬ 0 < seen.pendingCount := by
      rw [counted, none]
      decide
    rw [quiet]
    refine ⟨seen, ?_, follows⟩
    simp only [rejectIf, zero, ↓reduceIte, ok_bind]
    rfl
  · have missing : ledger.move .other = .error .missing := if_neg none
    have positive : 0 < seen.pendingCount := by
      have length := List.length_pos_iff.mpr none
      omega
    rw [missing]
    simp only [rejectIf, positive, ↓reduceIte, error_bind]
    rfl

/-- The incremental check agrees with the ledger on items in order, as long as their number is
safe. -/
theorem pairAllIncrementally_agrees {calls : List CallKey} {seen : IncrementalPairing}
    {ledger : CallLedger} (follows : Follows state calls seen ledger)
    {items : List ModelHistoryItem} (asked : ∀ key ∈ callKeys items, key ∈ calls)
    (room : seen.pendingCount + items.length ≤ maxSafeInteger) :
    match ledger.run (items.map move) with
    | .error fault => pairAllIncrementally state seen items = .error (pairingFailure fault)
    | .ok next => ∃ later, pairAllIncrementally state seen items = .ok later ∧
        Follows state calls later next := by
  induction items generalizing seen ledger with
  | nil => exact ⟨seen, rfl, follows⟩
  | cons item rest hypothesis =>
    rw [List.length_cons] at room
    have askedRest : ∀ key ∈ callKeys rest, key ∈ calls := by
      intro key member
      apply asked
      simp only [callKeys, List.filterMap_cons] at member ⊢
      split
      · exact member
      · exact List.mem_cons_of_mem _ member
    have agrees : Agrees state calls seen ledger item := by
      cases said : item.body with
      | toolCall kind callId name input =>
        refine agrees_toolCall follows said (asked _ ?_) (by omega)
        simp [callKeys, move, callMove, said, LedgerMove.key]
      | toolResult kind callId output isError status =>
        refine agrees_toolResult follows said (asked _ ?_)
        simp [callKeys, move, callMove, said, LedgerMove.key]
      | message | compaction | rollback =>
        exact agrees_other follows (by simp [ModelHistoryItem.callId, said])
    simp only [List.map_cons, Ledger.run]
    unfold Agrees at agrees
    cases entered : ledger.move (move item) with
    | error fault =>
      rw [entered] at agrees
      simp only [error_bind, pairAllIncrementally, agrees]
    | ok next =>
      rw [entered] at agrees
      obtain ⟨later, checked, still⟩ := agrees
      have grown : later.pendingCount ≤ seen.pendingCount + 1 := by
        have one := Ledger.length_move entered
        rw [still.count, follows.count]
        omega
      simp only [ok_bind, pairAllIncrementally, checked]
      exact hypothesis still askedRest (by omega)

end Following

section Tracking
variable {locator : ThreadLocator} {history : List ModelHistoryItem}

/-- A reference leads to the item that opened the call. -/
def Refers (locator : ThreadLocator) (history : List ModelHistoryItem) (key : CallKey)
    (detail : ToolCallDetail) (sequence : Int) : Prop :=
  ∃ item, itemAt history sequence = some item ∧ StoredItem locator item ∧
    move item = .opens key detail

/-- The entry of an index is the ledger of the history it was built from. -/
structure Tracks (locator : ThreadLocator) (history : List ModelHistoryItem)
    (ledger : CallLedger) (state : AppendIndexState) : Prop where
  proper : ledger.Proper
  lastSequence : state.lastSequence = history.length
  count : state.pendingToolCallCount = ledger.pending.length
  calls : ∀ text sequence, state.calls.find text = some sequence → ∃ key detail,
    text = indexText key ∧ Refers locator history key detail sequence ∧
      (0 < sequence ∧ findIn key ledger.pending = some detail ∧ key ∉ ledger.completed ∨
        sequence < 0 ∧ findIn key ledger.pending = none ∧ key ∈ ledger.completed)
  known : ∀ key ∈ ledger.keys, (state.calls.find (indexText key)).isSome = true

/-- A reference is resolved to the call. -/
theorem Refers.resolved {key : CallKey} {detail : ToolCallDetail} {sequence : Int}
    (refers : Refers locator history key detail sequence) : ∃ call,
      referencedCall history locator (indexText key) sequence = .ok call ∧
        detail = ⟨call.kind, some call.segmentId⟩ ∧ call.completed = decide (sequence < 0) := by
  obtain ⟨item, found, stored, opens⟩ := refers
  obtain ⟨kind, callId, name, input, said, rfl, rfl⟩ := move_eq_opens opens
  obtain ⟨runId, segmentId, hasRun, hasSegment⟩ :=
    stored.execution (show item.callId = some callId by simp [ModelHistoryItem.callId, said])
  refine ⟨⟨runId, callId, segmentId, kind, sequence < 0⟩, ?_, by rw [hasSegment], rfl⟩
  have own : ¬ (item.tenantId ≠ locator.tenantId ∨ item.threadId ≠ locator.threadId ∨
      historyToolCallKey (some runId) callId ≠ indexText (item.runId, callId)) := by
    simp [stored.tenantId, stored.threadId, indexText, hasRun]
  simp only [referencedCall, found, said, hasRun, hasSegment]
  rw [hasRun] at own
  exact if_neg own

/-- A reference into a history is one into every longer history. -/
theorem Refers.append {key : CallKey} {detail : ToolCallDetail} {sequence : Int}
    (refers : Refers locator history key detail sequence) (more : List ModelHistoryItem) :
    Refers locator (history ++ more) key detail sequence := by
  obtain ⟨item, found, rest⟩ := refers
  refine ⟨item, ?_, rest⟩
  unfold itemAt at found ⊢
  by_cases zero : sequence = 0
  · simp [zero] at found
  · rw [if_neg zero] at found ⊢
    have bound : sequence.natAbs - 1 < history.length := by
      by_contra outside
      rw [List.getElem?_eq_none (by omega)] at found
      cases found
    rw [List.getElem?_append_left bound]
    exact found

/-- The sign of a reference does not matter for where it leads. -/
theorem Refers.neg {key : CallKey} {detail : ToolCallDetail} {sequence : Int}
    (refers : Refers locator history key detail sequence) :
    Refers locator history key detail (-sequence) := by
  obtain ⟨item, found, rest⟩ := refers
  refine ⟨item, ?_, rest⟩
  unfold itemAt at found ⊢
  simp only [Int.natAbs_neg, Int.neg_eq_zero]
  exact found

/-- The item behind a history is found by its number. -/
theorem itemAt_last {item : ModelHistoryItem} (numbered : item.sequence = history.length + 1) :
    itemAt (history ++ [item]) item.sequence = some item := by
  have nonzero : item.sequence ≠ 0 := by omega
  have place : item.sequence.natAbs - 1 = history.length := by omega
  rw [itemAt, if_neg nonzero, place]
  simp

/-- Entering a call into the index tracks opening it in the ledger. -/
theorem Tracks.opened {ledger next : CallLedger} {state : AppendIndexState}
    (tracks : Tracks locator history ledger state) {item : ModelHistoryItem}
    (stored : StoredItem locator item) (numbered : item.sequence = history.length + 1)
    {kind : ModelHistoryToolKind} {callId name input : JsString}
    (said : item.body = .toolCall kind callId name input)
    (entered : ledger.move (move item) = .ok next) :
    Tracks locator (history ++ [item]) next (committedItem state item) := by
  have moves : move item = .opens (item.runId, callId) ⟨kind, item.segmentId⟩ := by
    simp [move, callMove, said]
  have proper := tracks.proper.move entered
  rw [moves, Ledger.move] at entered
  split at entered
  case isTrue => cases entered
  case isFalse fresh =>
    rw [not_or] at fresh
    obtain rfl := Except.ok.inj entered
    have absent : findIn (item.runId, callId) ledger.pending = none := by
      by_contra isOpen
      exact fresh.1 (Option.isSome_iff_ne_none.mpr isOpen)
    have index : committedItem state item = {
        lastSequence := item.sequence
        pendingToolCallCount := state.pendingToolCallCount + 1
        calls := state.calls.set (indexText (item.runId, callId)) item.sequence } := by
      simp [committedItem, said, indexText]
    rw [index]
    constructor
    case proper => exact proper
    case lastSequence =>
      rw [List.length_append]
      exact numbered
    case count =>
      rw [List.length_append, tracks.count]
      rfl
    case calls =>
      intro text sequence found
      rw [OrderedMap.find_set] at found
      by_cases here : text = indexText (item.runId, callId)
      · rw [if_pos here, Option.some.injEq] at found
        refine ⟨(item.runId, callId), ⟨kind, item.segmentId⟩, here,
          ⟨item, found ▸ itemAt_last numbered, stored, moves⟩, .inl ⟨by omega, ?_, fresh.2⟩⟩
        rw [findIn_concat, absent, Option.none_or, if_pos rfl]
      · rw [if_neg here] at found
        obtain ⟨key, detail, same, refers, status⟩ := tracks.calls text sequence found
        have other : (item.runId, callId) ≠ key := fun equal => here (equal ▸ same)
        refine ⟨key, detail, same, refers.append [item], ?_⟩
        rw [findIn_concat, if_neg other, Option.or_none]
        exact status
    case known =>
      intro key member
      rw [OrderedMap.find_set]
      by_cases here : indexText key = indexText (item.runId, callId)
      · rw [if_pos here]
        rfl
      · rw [if_neg here]
        have moved : ledger.move (.opens (item.runId, callId) ⟨kind, item.segmentId⟩) = .ok _ :=
          if_neg (not_or.mpr fresh)
        rcases Ledger.keys_move moved member with old | new
        · exact tracks.known key old
        · exact absurd (congrArg indexText (Option.some.inj new)).symm here

/-- Entering a result into the index tracks closing its call in the ledger. -/
theorem Tracks.closed {ledger next : CallLedger} {state : AppendIndexState}
    (tracks : Tracks locator history ledger state) {item : ModelHistoryItem}
    (numbered : item.sequence = history.length + 1) {kind : ModelHistoryToolKind}
    {callId output : JsString} {isError : Bool} {status : ModelHistoryToolStatus}
    (said : item.body = .toolResult kind callId output isError status)
    (entered : ledger.move (move item) = .ok next) :
    Tracks locator (history ++ [item]) next (committedItem state item) := by
  have moves : move item = .closes (item.runId, callId) ⟨kind, item.segmentId⟩ := by
    simp [move, callMove, said]
  have proper := tracks.proper.move entered
  rw [moves, Ledger.move] at entered
  split at entered
  case isFalse => cases entered
  case isTrue isOpen =>
    obtain rfl := Except.ok.inj entered
    -- the open call is known under a positive reference
    have member : (item.runId, callId) ∈ ledger.keys := by
      apply List.mem_append_left
      by_contra absent
      rw [findIn_eq_none_iff.mpr absent] at isOpen
      cases isOpen
    obtain ⟨reference, isKnown⟩ := Option.isSome_iff_exists.mp (tracks.known _ member)
    obtain ⟨key, detail, same, refers, state'⟩ := tracks.calls _ _ isKnown
    obtain rfl := indexText_inj same
    have positive : 0 < reference := by
      rcases state' with ⟨positive, _⟩ | ⟨_, absent, _⟩
      · exact positive
      · rw [absent] at isOpen
        cases isOpen
    have index : committedItem state item = {
        lastSequence := item.sequence
        pendingToolCallCount := state.pendingToolCallCount - 1
        calls := state.calls.set (indexText (item.runId, callId)) (-reference) } := by
      have read : state.calls.find (historyToolCallKey item.runId callId) = some reference :=
        isKnown
      simp [committedItem, said, indexText, read]
    rw [index]
    constructor
    case proper => exact proper
    case lastSequence =>
      rw [List.length_append]
      exact numbered
    case count =>
      have shorter := length_filter_add_one tracks.proper isOpen
      have counted := tracks.count
      show state.pendingToolCallCount - 1 = ((ledger.pending.filter _).length : Int)
      omega
    case calls =>
      intro text sequence found
      rw [OrderedMap.find_set] at found
      by_cases here : text = indexText (item.runId, callId)
      · rw [if_pos here, Option.some.injEq] at found
        refine ⟨(item.runId, callId), detail, here, found ▸ (refers.append [item]).neg,
          .inr ⟨by omega, ?_, List.mem_cons_self⟩⟩
        rw [findIn_filter_ne, if_pos rfl]
      · rw [if_neg here] at found
        obtain ⟨other, otherDetail, otherSame, otherRefers, otherStatus⟩ :=
          tracks.calls text sequence found
        have different : other ≠ (item.runId, callId) := fun equal => here (equal ▸ otherSame)
        refine ⟨other, otherDetail, otherSame, otherRefers.append [item], ?_⟩
        rw [findIn_filter_ne, if_neg different, List.mem_cons, or_iff_right different]
        exact otherStatus
    case known =>
      intro other known
      rw [OrderedMap.find_set]
      by_cases here : indexText other = indexText (item.runId, callId)
      · rw [if_pos here]
        rfl
      · rw [if_neg here]
        have moved : ledger.move (.closes (item.runId, callId) ⟨kind, item.segmentId⟩) = .ok _ :=
          if_pos isOpen
        rcases Ledger.keys_move moved known with old | new
        · exact tracks.known other old
        · exact absurd (congrArg indexText (Option.some.inj new)).symm here

/-- Entering any accepted item into the index tracks the ledger. -/
theorem Tracks.item {ledger next : CallLedger} {state : AppendIndexState}
    (tracks : Tracks locator history ledger state) {item : ModelHistoryItem}
    (stored : StoredItem locator item) (numbered : item.sequence = history.length + 1)
    (entered : ledger.move (move item) = .ok next) :
    Tracks locator (history ++ [item]) next (committedItem state item) := by
  cases said : item.body with
  | toolCall kind callId name input => exact tracks.opened stored numbered said entered
  | toolResult kind callId output isError status => exact tracks.closed numbered said entered
  | message | compaction | rollback =>
    have moves : move item = .other := by simp [move, callMove, said]
    rw [moves, Ledger.move] at entered
    split at entered
    case isFalse => cases entered
    case isTrue =>
      obtain rfl := Except.ok.inj entered
      have index : committedItem state item = { state with lastSequence := item.sequence } := by
        simp [committedItem, said]
      rw [index]
      refine ⟨tracks.proper, ?_, tracks.count, ?_, tracks.known⟩
      · rw [List.length_append]
        exact numbered
      · intro text sequence found
        obtain ⟨key, detail, same, refers, status⟩ := tracks.calls text sequence found
        exact ⟨key, detail, same, refers.append [item], status⟩

/-- Entering accepted items in order tracks the ledger. -/
theorem Tracks.items {ledger next : CallLedger} {state : AppendIndexState}
    (tracks : Tracks locator history ledger state) {items : List ModelHistoryItem}
    (stored : ∀ item ∈ items, StoredItem locator item)
    (numbered : Numbered (history.length + 1) items)
    (entered : ledger.run (items.map move) = .ok next) :
    Tracks locator (history ++ items) next (items.foldl committedItem state) := by
  induction items generalizing history ledger state with
  | nil =>
    obtain rfl := Except.ok.inj entered
    rw [List.append_nil]
    exact tracks
  | cons item rest hypothesis =>
    simp only [List.map_cons, Ledger.run, bind_eq_ok] at entered
    obtain ⟨middle, first, later⟩ := entered
    have here := tracks.item (stored item List.mem_cons_self) numbered.1 first
    have shift : ((history ++ [item]).length : Int) + 1 = history.length + 1 + 1 := by
      rw [List.length_append]
      rfl
    have after := hypothesis here (fun found member =>
      stored found (List.mem_cons_of_mem _ member)) (shift ▸ numbered.2) later
    rw [List.append_assoc] at after
    exact after

/-- The entry of a thread in the index. -/
def stateOf (index : InMemoryModelHistoryAppendIndex) (locator : ThreadLocator) :
    AppendIndexState :=
  (index.find (appendIndexScope locator)).getD ⟨0, 0, .empty⟩

/-- What a reference of the index is resolved to. -/
def resolve (locator : ThreadLocator) (history : List ModelHistoryItem)
    (stored : Option AppendIndexState) (text : JsString) : Option StoredHistoryToolCall :=
  (stored.bind (·.calls.find text)).bind fun sequence =>
    (referencedCall history locator text sequence).toOption

/-- The calls looked up for items, on top of the ones found before. -/
structure Finds (locator : ThreadLocator) (history : List ModelHistoryItem)
    (stored : Option AppendIndexState) (items : List ModelHistoryItem)
    (found calls : OrderedMap JsString StoredHistoryToolCall) : Prop where
  asked : ∀ key ∈ callKeys items, calls.find (indexText key) =
    (found.find (indexText key)).or (resolve locator history stored (indexText key))
  others : ∀ text, text ∉ (callKeys items).map indexText → calls.find text = found.find text

/-- Looking up the calls of items finds what their references are resolved to. -/
theorem referencedToolCalls_finds {stored : Option AppendIndexState}
    (resolvable : ∀ text sequence, stored.bind (·.calls.find text) = some sequence →
      ∃ call, referencedCall history locator text sequence = .ok call)
    (items : List ModelHistoryItem) (found : OrderedMap JsString StoredHistoryToolCall) :
    ∃ calls, referencedToolCalls stored history locator found items = .ok calls ∧
      Finds locator history stored items found calls := by
  induction items generalizing found with
  | nil =>
    exact ⟨found, rfl, fun key member => absurd member List.not_mem_nil, fun _ _ => rfl⟩
  | cons item rest hypothesis =>
    cases tool : item.callId with
    | none =>
      have noKey : (move item).key = none := by
        unfold move callMove
        cases said : item.body <;> simp [ModelHistoryItem.callId, said] at tool <;>
          simp [LedgerMove.key]
      have keys : callKeys (item :: rest) = callKeys rest := by
        simp [callKeys, noKey]
      obtain ⟨calls, looked, finds⟩ := hypothesis found
      refine ⟨calls, ?_, keys ▸ finds.asked, keys ▸ finds.others⟩
      simp only [referencedToolCalls, tool]
      exact looked
    | some callId =>
      let key : CallKey := (item.runId, callId)
      have hasKey : (move item).key = some key := by
        unfold move callMove
        cases said : item.body <;> simp [ModelHistoryItem.callId, said] at tool <;>
          simp [LedgerMove.key, tool, key]
      have keys : callKeys (item :: rest) = key :: callKeys rest := by
        simp [callKeys, hasKey]
      -- what is found for the rest is what is found for all of the items, if it is right here
      have extend (start calls : OrderedMap JsString StoredHistoryToolCall)
          (finds : Finds locator history stored rest start calls)
          (same : ∀ text, text ≠ indexText key → start.find text = found.find text)
          (here : start.find (indexText key) =
            (found.find (indexText key)).or (resolve locator history stored (indexText key))) :
          Finds locator history stored (item :: rest) found calls := by
        constructor
        · intro other member
          by_cases equal : other = key
          · by_cases again : key ∈ callKeys rest
            · rw [equal, finds.asked key again, here]
              cases found.find (indexText key) <;> simp
            · have notMet : indexText key ∉ (callKeys rest).map indexText := by
                rw [List.mem_map]
                rintro ⟨met, present, sameText⟩
                exact again (indexText_inj sameText ▸ present)
              rw [equal, finds.others _ notMet, here]
          · rw [keys, List.mem_cons, or_iff_right equal] at member
            rw [finds.asked other member, same _ (mt indexText_inj equal)]
        · intro text absent
          rw [keys, List.map_cons, List.mem_cons, not_or] at absent
          rw [finds.others text absent.2, same text absent.1]
      simp only [referencedToolCalls, tool]
      by_cases seen : (found.find (indexText key)).isSome = true
      · -- the call was looked up for an item before
        obtain ⟨calls, looked, finds⟩ := hypothesis found
        refine ⟨calls, (if_pos seen).trans looked, extend found calls finds (fun _ _ => rfl) ?_⟩
        obtain ⟨call, present⟩ := Option.isSome_iff_exists.mp seen
        simp [present]
      · have absent : found.find (indexText key) = none := by simpa using seen
        cases reference : stored.bind (·.calls.find (indexText key)) with
        | none =>
          obtain ⟨calls, looked, finds⟩ := hypothesis found
          have unresolved : resolve locator history stored (indexText key) = none := by
            simp [resolve, reference]
          refine ⟨calls, (if_neg seen).trans ?_, extend found calls finds (fun _ _ => rfl) ?_⟩
          · rw [show stored.bind (·.calls.find (historyToolCallKey item.runId callId)) = none
              from reference]
            exact looked
          · rw [absent, unresolved]
            rfl
        | some sequence =>
          obtain ⟨call, resolved⟩ := resolvable _ _ reference
          obtain ⟨calls, looked, finds⟩ := hypothesis (found.set (indexText key) call)
          have resolves : resolve locator history stored (indexText key) = some call := by
            simp [resolve, reference, resolved, Except.toOption]
          refine ⟨calls, (if_neg seen).trans ?_, extend _ calls finds (fun text other =>
            OrderedMap.find_set_of_ne other) ?_⟩
          · rw [show stored.bind (·.calls.find (historyToolCallKey item.runId callId)) =
              some sequence from reference]
            show (referencedCall history locator (indexText key) sequence >>= _) = _
            rw [resolved]
            exact looked
          · rw [absent, resolves, OrderedMap.find_set_self]
            rfl

/-- The state in front of an append follows the ledger. -/
theorem Tracks.follows {ledger : CallLedger} {index : InMemoryModelHistoryAppendIndex}
    (stored : StoredHistory locator history)
    (tracks : Tracks locator history ledger (stateOf index locator))
    (items : List ModelHistoryItem) : ∃ state, appendState index history locator items = .ok state ∧
      state.lastSequence = history.length ∧
        state.pendingToolCallCount = ledger.pending.length ∧
          Follows state (callKeys items) ⟨state.pendingToolCallCount, .empty, []⟩ ledger := by
  have calls (text : JsString) : (index.find (appendIndexScope locator)).bind
      (·.calls.find text) = (stateOf index locator).calls.find text := by
    unfold stateOf
    cases index.find (appendIndexScope locator) <;> rfl
  have last : ((index.find (appendIndexScope locator)).map (·.lastSequence)).getD 0 =
      (history.length : Int) := by
    rw [← tracks.lastSequence]
    unfold stateOf
    cases index.find (appendIndexScope locator) <;> rfl
  have count : ((index.find (appendIndexScope locator)).map (·.pendingToolCallCount)).getD 0 =
      (ledger.pending.length : Int) := by
    rw [← tracks.count]
    unfold stateOf
    cases index.find (appendIndexScope locator) <;> rfl
  have resolvable : ∀ text sequence,
      (index.find (appendIndexScope locator)).bind (·.calls.find text) = some sequence →
        ∃ call, referencedCall history locator text sequence = .ok call := by
    intro text sequence found
    rw [calls] at found
    obtain ⟨key, detail, rfl, refers, _⟩ := tracks.calls text sequence found
    obtain ⟨call, resolved, _⟩ := refers.resolved
    exact ⟨call, resolved⟩
  obtain ⟨referenced, looked, finds⟩ := referencedToolCalls_finds resolvable items .empty
  refine ⟨⟨history.length, ledger.pending.length, referenced⟩, ?_, rfl, rfl, ?_⟩
  · have fresh : ¬ (((history.length : Nat) : Int) ≠ history.length ∨
        ((history.length : Nat) : Int) ≠ (history.getLast?.map (·.sequence)).getD 0) := by
      rw [stored.last]
      simp
    simp only [appendState, last, count, rejectIf, if_neg fresh, ok_bind, looked]
    rfl
  · -- what is known of a call at first is what its reference is resolved to
    have known (key : CallKey) (asked : key ∈ callKeys items) :
        referenced.find (indexText key) =
          ((stateOf index locator).calls.find (indexText key)).bind fun sequence =>
            (referencedCall history locator (indexText key) sequence).toOption := by
      rw [finds.asked key asked, OrderedMap.find_empty, Option.none_or, resolve, calls]
    have unknown (key : CallKey) (asked : key ∈ callKeys items)
        (absent : (stateOf index locator).calls.find (indexText key) = none) :
        referenced.find (indexText key) = none ∧ findIn key ledger.pending = none ∧
          key ∉ ledger.completed := by
      have foreign : key ∉ ledger.keys := by
        intro member
        have present := tracks.known key member
        rw [absent] at present
        cases present
      rw [Ledger.keys, List.mem_append, not_or] at foreign
      refine ⟨by rw [known key asked, absent]; rfl, findIn_eq_none_iff.mpr foreign.1, foreign.2⟩
    have present (key : CallKey) (asked : key ∈ callKeys items) (sequence : Int)
        (found : (stateOf index locator).calls.find (indexText key) = some sequence) :
        ∃ call, referenced.find (indexText key) = some call ∧
          (call.completed = false ∧
              findIn key ledger.pending = some ⟨call.kind, some call.segmentId⟩ ∧
                key ∉ ledger.completed ∨
            call.completed = true ∧ findIn key ledger.pending = none ∧
              key ∈ ledger.completed) := by
      obtain ⟨other, detail, same, refers, status⟩ := tracks.calls _ _ found
      obtain rfl := indexText_inj same
      obtain ⟨call, resolved, rfl, completed⟩ := refers.resolved
      refine ⟨call, by rw [known key asked, found]; simp [resolved, Except.toOption], ?_⟩
      rcases status with ⟨positive, isOpen⟩ | ⟨negative, closed⟩
      · exact .inl ⟨by simp [completed]; omega, isOpen⟩
      · exact .inr ⟨by simp [completed]; omega, closed⟩
    constructor
    case proper => exact tracks.proper
    case count => rfl
    case pending =>
      intro key asked detail
      cases found : (stateOf index locator).calls.find (indexText key) with
      | none =>
        obtain ⟨noCall, notOpen, _⟩ := unknown key asked found
        simp [knownCall, noCall, notOpen]
      | some sequence =>
        obtain ⟨call, referred, status⟩ := present key asked sequence found
        rcases status with ⟨isOpen, found, _⟩ | ⟨isClosed, absent, _⟩
        · simp [knownCall, Answered, referred, isOpen, found]
        · simp [knownCall, Answered, referred, isClosed, absent]
    case completed =>
      intro key asked
      cases found : (stateOf index locator).calls.find (indexText key) with
      | none =>
        obtain ⟨noCall, _, notClosed⟩ := unknown key asked found
        simp [knownCall, noCall, notClosed]
      | some sequence =>
        obtain ⟨call, referred, status⟩ := present key asked sequence found
        rcases status with ⟨isOpen, _, notClosed⟩ | ⟨isClosed, _, closed⟩
        · simp [knownCall, Answered, referred, isOpen, notClosed]
        · simp [knownCall, Answered, referred, isClosed, closed]
    case answered =>
      intro key asked answered
      cases found : (stateOf index locator).calls.find (indexText key) with
      | none =>
        obtain ⟨noCall, _, _⟩ := unknown key asked found
        simp [Answered, noCall] at answered
      | some sequence =>
        obtain ⟨call, referred, _⟩ := present key asked sequence found
        simp [knownCall, referred]

/-- What both checks come down to: the shape of the append, and the ledger of the history going
on over its items. -/
def ledgerCheck (append : ModelHistoryAppend) (locator : ThreadLocator) (last : Int)
    (itemIdExists : JsString → Bool) (ledger : CallLedger) : Checked Unit := do
  validateModelHistoryAppendShape append locator last itemIdExists
  let _ ← (ledger.run (append.items.map move)).mapError pairingFailure
  return ()

/-- The check against the index is the check of the ledger. -/
theorem validateIndexedAppend_eq {ledger : CallLedger} {index : InMemoryModelHistoryAppendIndex}
    (stored : StoredHistory locator history)
    (entered : Ledger.empty.run (history.map move) = .ok ledger)
    (tracks : Tracks locator history ledger (stateOf index locator)) (append : ModelHistoryAppend)
    (itemIdExists : JsString → Bool) :
    validateIndexedAppend index history append locator itemIdExists =
      ledgerCheck append locator history.length itemIdExists ledger := by
  obtain ⟨head, hasHead, headLast, _⟩ := tracks.follows stored []
  obtain ⟨state, hasState, _, count, follows⟩ := tracks.follows stored append.items
  simp only [validateIndexedAppend, ledgerCheck, hasHead, ok_bind, headLast]
  cases shape : validateModelHistoryAppendShape append locator history.length itemIdExists with
  | error failure => rfl
  | ok accepted =>
    obtain ⟨bounds, items, numbered⟩ := validateModelHistoryAppendShape_eq_ok shape
    -- the open calls are items of the history, so that their number stays safe
    have enough : (ledger.pending.length : Int) ≤ history.length := by
      have counted := Ledger.length_run entered
      rw [List.length_map] at counted
      simp only [Ledger.empty, List.length_nil] at counted
      omega
    have room : state.pendingToolCallCount + append.items.length ≤ maxSafeInteger := by
      rw [count]
      by_cases empty : append.items = []
      · rw [empty]
        simp only [List.length_nil]
        omega
      · have safe := numbered_safe items numbered empty
        omega
    have counted : isNonNegativeInteger state.pendingToolCallCount = true := by
      rw [isNonNegativeInteger_iff, count]
      omega
    have agrees := pairAllIncrementally_agrees follows (fun _ member => member) room
    simp only [ok_bind, hasState, validateModelHistoryIncrementalPairing, counted, rejectIf,
      Bool.true_eq_false, ↓reduceIte]
    cases goesOn : ledger.run (append.items.map move) with
    | error fault =>
      rw [goesOn] at agrees
      rw [agrees]
      rfl
    | ok next =>
      rw [goesOn] at agrees
      obtain ⟨later, checked, _⟩ := agrees
      rw [checked]
      rfl

/-- No two calls that the items are about are written alike by the scan. -/
def Separates (items : List ModelHistoryItem) : Prop :=
  ∀ first ∈ callKeys items, ∀ second ∈ callKeys items, scanText first = scanText second →
    first = second

/-- The check against the whole history is the check of the ledger, as long as no two calls are
written alike. -/
theorem validateModelHistoryAppend_eq {ledger : CallLedger}
    (stored : StoredHistory locator history)
    (entered : Ledger.empty.run (history.map move) = .ok ledger) (append : ModelHistoryAppend)
    (itemIdExists : JsString → Bool) (separates : Separates (history ++ append.items)) :
    validateModelHistoryAppend append locator history itemIdExists =
      ledgerCheck append locator history.length itemIdExists ledger := by
  have written : (history ++ append.items).map (callMove modelHistoryCallKey) =
      ((history ++ append.items).map move).map (LedgerMove.rename scanText) := by
    rw [List.map_map]
    exact List.map_congr_left fun item _ => callMove_scan item
  have renamed : Ledger.empty.run ((history ++ append.items).map (callMove modelHistoryCallKey)) =
      (ledger.run (append.items.map move)).map (Ledger.rename scanText) := by
    rw [written]
    have apart : (Ledger.empty.rename scanText).run
        (((history ++ append.items).map move).map (LedgerMove.rename scanText)) = _ :=
      Ledger.run_rename (callKeys (history ++ append.items)) separates
        (fun key member => absurd member List.not_mem_nil) (by
          intro event member key isKey
          obtain ⟨item, present, rfl⟩ := List.mem_map.mp member
          exact List.mem_filterMap.mpr ⟨item, present, isKey⟩)
    rw [List.map_append, Ledger.run_append, entered, ok_bind, ← List.map_append] at apart
    exact apart
  simp only [validateModelHistoryAppend, ledgerCheck, stored.last, validateModelHistoryPairing,
    renamed]
  cases validateModelHistoryAppendShape append locator history.length itemIdExists with
  | error failure => rfl
  | ok accepted =>
    cases ledger.run (append.items.map move) with
    | error fault => rfl
    | ok next => rfl

/-- What an accepted check of the ledger says. -/
theorem ledgerCheck_eq_ok {ledger : CallLedger} {append : ModelHistoryAppend} {last : Int}
    {itemIdExists : JsString → Bool} {result : Unit}
    (accepted : ledgerCheck append locator last itemIdExists ledger = .ok result) :
    (∀ item ∈ append.items, StoredItem locator item) ∧ Numbered (last + 1) append.items ∧
      ∃ next, ledger.run (append.items.map move) = .ok next := by
  simp only [ledgerCheck, bind_eq_ok, exists_unit, mapError_eq_ok] at accepted
  obtain ⟨shape, next, entered, _⟩ := accepted
  obtain ⟨_, items, numbered⟩ := validateModelHistoryAppendShape_eq_ok shape
  exact ⟨items, numbered, next, entered⟩

/-- Committing items of a thread enters them into its entry of the index. -/
theorem stateOf_committed {index : InMemoryModelHistoryAppendIndex}
    {items : List ModelHistoryItem} (stored : ∀ item ∈ items, StoredItem locator item) :
    stateOf (committed index items) locator = items.foldl committedItem (stateOf index locator) := by
  cases items with
  | nil => rfl
  | cons first rest =>
    have own := stored first List.mem_cons_self
    have scope : appendIndexScope ⟨first.tenantId, first.threadId⟩ = appendIndexScope locator := by
      rw [own.tenantId, own.threadId]
    simp only [committed, scope, stateOf, OrderedMap.find_set_self, Option.getD_some]

end Tracking

/-- An append that is asked for, in front of the item ids that other threads use. -/
structure AppendOperation where
  append : ModelHistoryAppend
  itemIdExists : JsString → Bool

/-- Perform an append to the history of a thread. -/
def perform (locator : ThreadLocator) (operation : AppendOperation) :
    Program Failure ModelHistoryState Unit :=
  commitModelHistory operation.append locator operation.itemIdExists

variable {locator : ThreadLocator}

/-- The index is the one of the history. -/
def Indexed (locator : ThreadLocator) (state : ModelHistoryState) : Prop :=
  StoredHistory locator state.history ∧ ∃ ledger : CallLedger,
    Ledger.empty.run (state.history.map move) = .ok ledger ∧
      Tracks locator state.history ledger (stateOf state.index locator)

/-- Nothing is indexed before the first append. -/
theorem indexed_empty : Indexed locator .empty := by
  refine ⟨stored_empty, .empty, rfl, Ledger.proper_empty, rfl, rfl, ?_, ?_⟩
  · intro text sequence found
    cases found
  · intro key member
    exact absurd member List.not_mem_nil

/-- Every append leaves the index the one of the history. -/
theorem perform_indexed (operation : AppendOperation) (state : ModelHistoryState)
    (indexed : Indexed locator state) :
    Indexed locator ((perform locator operation).run state).2 := by
  obtain ⟨stored, ledger, entered, tracks⟩ := indexed
  have check := validateIndexedAppend_eq stored entered tracks operation.append
    operation.itemIdExists
  simp only [perform, commitModelHistory, Program.run_read_bind, id_eq, check]
  cases outcome : ledgerCheck operation.append locator state.history.length
      operation.itemIdExists ledger with
  | error failure => exact ⟨stored, ledger, entered, tracks⟩
  | ok accepted =>
    obtain ⟨items, numbered, next, goesOn⟩ := ledgerCheck_eq_ok outcome
    show Indexed locator (appendModelHistory operation.append.items state)
    refine ⟨stored.append items numbered, next, ?_, ?_⟩
    · rw [appendModelHistory, List.map_append, Ledger.run_append, entered]
      exact goesOn
    · have after := tracks.items items numbered goesOn
      rw [appendModelHistory, stateOf_committed items]
      exact after

/-- An indexed history counts the open calls of its effective history. -/
theorem Indexed.pending {state : ModelHistoryState} (indexed : Indexed locator state)
    {effective : EffectiveModelHistory}
    (projected : projectEffectiveModelHistory state.history = .ok effective) :
    (stateOf state.index locator).pendingToolCallCount = (openCalls effective.items).length := by
  obtain ⟨stored, ledger, entered, tracks⟩ := indexed
  rw [tracks.count, pending_eq_openCalls stored entered projected]

/-- The index does what the scan of the whole history would do. -/
structure AppendAgreement (locator : ThreadLocator)
    (step : Step AppendOperation Failure ModelHistoryState Unit) : Prop where
  /-- The append is accepted, or rejected with the same code. -/
  outcome : step.outcome = validateModelHistoryAppend step.operation.append locator
    step.before.history step.operation.itemIdExists
  /-- The open calls of the effective history are counted before the append. -/
  pendingBefore : ∀ effective, projectEffectiveModelHistory step.before.history = .ok effective →
    (stateOf step.before.index locator).pendingToolCallCount = (openCalls effective.items).length
  /-- The open calls of the effective history are counted after the append. -/
  pendingAfter : ∀ effective, projectEffectiveModelHistory step.after.history = .ok effective →
    (stateOf step.after.index locator).pendingToolCallCount = (openCalls effective.items).length

/-- As long as no two calls that meet are written alike by the scan, the index agrees with the
scan on every append of every run. -/
theorem append_index_agrees (locator : ThreadLocator) (operations : List AppendOperation)
    (separates : ∀ step ∈ trace (perform locator) .empty operations,
      Separates (step.before.history ++ step.operation.append.items)) :
    ∀ step ∈ trace (perform locator) .empty operations, AppendAgreement locator step := by
  intro step member
  obtain ⟨before, after⟩ :=
    trace_invariant (Indexed locator) perform_indexed indexed_empty member
  refine ⟨?_, fun _ => before.pending, fun _ => after.pending⟩
  have ran := run_of_mem_trace member
  obtain ⟨stored, ledger, entered, tracks⟩ := before
  have indexCheck := validateIndexedAppend_eq stored entered tracks step.operation.append
    step.operation.itemIdExists
  have scanCheck := validateModelHistoryAppend_eq stored entered step.operation.append
    step.operation.itemIdExists (separates step member)
  rw [scanCheck, ← indexCheck]
  have outcome := congrArg Prod.fst ran
  simp only [perform, commitModelHistory, Program.run_read_bind, id_eq] at outcome
  rw [← outcome]
  cases validateIndexedAppend step.before.index step.before.history step.operation.append locator
      step.operation.itemIdExists <;> rfl

instance (items : List ModelHistoryItem) : Decidable (Separates items) :=
  inferInstanceAs (Decidable (∀ first ∈ callKeys items, ∀ second ∈ callKeys items,
    scanText first = scanText second → first = second))

/-- A run that uses one call id in two runs. -/
def sharedCallIdRun : List AppendOperation :=
  [⟨⟨0, [sampleInstruction 1 "a", sampleCall 2 "b" (js "run-1") (js "call-1")]⟩, fun _ => false⟩,
    ⟨⟨2, [sampleResult 3 "c" (js "run-1") (js "call-1")]⟩, fun _ => false⟩,
    ⟨⟨3, [sampleCall 4 "d" (js "run-2") (js "call-1")]⟩, fun _ => false⟩]

/-- Nothing is written alike in the run above. -/
theorem append_index_agrees_shared :
    (trace (perform sampleLocator) .empty sharedCallIdRun).Forall (AppendAgreement sampleLocator) :=
  List.forall_iff_forall_mem.mpr
    (append_index_agrees sampleLocator sharedCallIdRun (by decide +kernel))

/-- A run of two runs that write two calls alike: the separator ends the one's run and starts the
other's call. -/
def ambiguousRun : List AppendOperation :=
  [⟨⟨0, [sampleCall 1 "a" (js "r") ⟨[0, unit 'c']⟩, sampleResult 2 "b" (js "r") ⟨[0, unit 'c']⟩]⟩,
      fun _ => false⟩,
    ⟨⟨2, [sampleCall 3 "c" ⟨[unit 'r', 0]⟩ (js "c")]⟩, fun _ => false⟩]

/-- The index accepts the second append of the run above, and the scan of the history does not. -/
theorem append_index_disagrees : ¬ ∀ (locator : ThreadLocator) (operations : List AppendOperation),
    ∀ step ∈ trace (perform locator) .empty operations, AppendAgreement locator step := by
  intro agrees
  have outcomes : ∃ step ∈ trace (perform sampleLocator) .empty ambiguousRun,
      step.outcome = .ok () ∧ validateModelHistoryAppend step.operation.append sampleLocator
        step.before.history step.operation.itemIdExists =
          .error (runStoreError "model_history_tool_call_duplicate") := by
    refine ⟨_, List.mem_cons_of_mem _ List.mem_cons_self, ?_, ?_⟩ <;> decide +kernel
  obtain ⟨step, member, accepted, rejected⟩ := outcomes
  have same := (agrees sampleLocator ambiguousRun step member).outcome
  rw [accepted, rejected] at same
  cases same

end Crewon.Verif.ModelHistoryAppend
