import Crewon.Domain.ModelHistory
import Crewon.Js.JsonText
import Crewon.Lib.Ledger
import Crewon.Store.Queue

/-!
# Appending to a model history

An append is validated for its shape and for the pairing of tool calls with their results. The
pairing is checked twice over: by a scan of the whole history, and by an index that keeps the
number of open calls and a reference to every call.
-/

namespace Crewon.Store

open Crewon.Js Crewon.Checked Crewon.Domain Crewon.Lib

/-- Which thread is meant. -/
structure ThreadLocator where
  tenantId : JsString
  threadId : JsString
deriving DecidableEq

/-- The checks of a locator. -/
def validateThreadLocator (locator : ThreadLocator) : Checked Unit := do
  requireNonEmpty locator.tenantId (runStoreError "tenant_id_invalid")
  requireNonEmpty locator.threadId (runStoreError "thread_id_invalid")

/-- Items to be appended behind the expected sequence. -/
structure ModelHistoryAppend where
  expectedLastSequence : Int
  items : List ModelHistoryItem

/-- The longest item as JSON. -/
def maxModelHistoryItemBytes : Nat := 64 * 1024

/-- The checks of the items of an append, each against the ones before it. -/
def validateAppendedItems (locator : ThreadLocator) (itemIdExists : JsString → Bool) :
    List JsString → Int → List ModelHistoryItem → Checked Unit
  | _, _, [] => .ok ()
  | itemIds, nextSequence, item :: rest => do
    (validateModelHistoryItem item).mapError fun failure => runStoreError failure.code
    rejectIf (item.tenantId ≠ locator.tenantId)
      (runStoreError "model_history_tenant_id_mismatch")
    rejectIf (item.threadId ≠ locator.threadId)
      (runStoreError "model_history_thread_id_mismatch")
    rejectIf (item.sequence ≠ nextSequence) (runStoreError "model_history_sequence_gap")
    rejectIf (item.itemId ∈ itemIds ∨ itemIdExists item.itemId = true)
      (runStoreError "model_history_item_id_conflict")
    rejectIf (maxModelHistoryItemBytes < item.json.encodedSize)
      (runStoreError "model_history_item_too_large")
    validateAppendedItems locator itemIdExists (item.itemId :: itemIds) (nextSequence + 1) rest

/-- The checks of the shape of an append. -/
def validateModelHistoryAppendShape (append : ModelHistoryAppend) (locator : ThreadLocator)
    (actualLastSequence : Int) (itemIdExists : JsString → Bool) : Checked Unit := do
  validateThreadLocator locator
  rejectIf (isNonNegativeInteger append.expectedLastSequence = false)
    (runStoreError "model_history_expected_sequence_invalid")
  rejectIf (isNonNegativeInteger actualLastSequence = false)
    (runStoreError "stored_model_history_sequence_invalid")
  rejectIf (append.expectedLastSequence ≠ actualLastSequence)
    (runStoreError "model_history_sequence_conflict")
  validateAppendedItems locator itemIdExists [] (actualLastSequence + 1) append.items

/-- What a result has to repeat of its call. -/
structure ToolCallDetail where
  kind : ModelHistoryToolKind
  segmentId : Option JsString
deriving DecidableEq

/-- The key of a call in the scan of the whole history. -/
def modelHistoryCallKey (runId : Option JsString) (callId : JsString) : JsString :=
  runId.getD .empty ++ ⟨[0]⟩ ++ callId

/-- What an item does to the ledger of calls, under keys written in a given way. -/
def callMove {κ : Type} (key : Option JsString → JsString → κ) (item : ModelHistoryItem) :
    LedgerMove κ ToolCallDetail :=
  match item.body with
  | .toolCall kind callId _ _ => .opens (key item.runId callId) ⟨kind, item.segmentId⟩
  | .toolResult kind callId _ _ _ => .closes (key item.runId callId) ⟨kind, item.segmentId⟩
  | _ => .other

/-- The rejection of an unpaired item. -/
def pairingFailure : LedgerFault → Failure
  | .duplicate => runStoreError "model_history_tool_call_duplicate"
  | .orphaned => runStoreError "model_history_tool_result_orphaned"
  | .missing => runStoreError "model_history_tool_result_missing"

/-- The scan of a whole history: every call has at most one result, behind it, and no other item
stands between them. -/
def validateModelHistoryPairing (items : List ModelHistoryItem) : Checked Unit := do
  let _ ← (Ledger.empty.run (items.map (callMove modelHistoryCallKey))).mapError pairingFailure
  return ()

/-- The checks of an append against the whole history. -/
def validateModelHistoryAppend (append : ModelHistoryAppend) (locator : ThreadLocator)
    (existing : List ModelHistoryItem) (itemIdExists : JsString → Bool) : Checked Unit := do
  validateModelHistoryAppendShape append locator
    ((existing.getLast?.map (·.sequence)).getD 0) itemIdExists
  validateModelHistoryPairing (existing ++ append.items)

/-- A call as the index knows it. -/
structure StoredHistoryToolCall where
  runId : JsString
  callId : JsString
  segmentId : JsString
  kind : ModelHistoryToolKind
  completed : Bool
deriving DecidableEq

/-- What the index knows in front of an append. -/
structure ModelHistoryAppendState where
  lastSequence : Int
  pendingToolCallCount : Int
  referencedToolCalls : OrderedMap JsString StoredHistoryToolCall

/-- The key of a call in the index. -/
def historyToolCallKey (runId : Option JsString) (callId : JsString) : JsString :=
  stringifyPair runId callId

/-- What the incremental check has seen of an append. -/
structure IncrementalPairing where
  pendingCount : Int
  newCalls : OrderedMap JsString ToolCallDetail
  completed : List JsString

/-- The incremental check of one item. -/
def pairIncrementally (state : ModelHistoryAppendState) (seen : IncrementalPairing)
    (item : ModelHistoryItem) : Checked IncrementalPairing :=
  match item.body with
  | .toolCall kind callId _ _ => do
    let key := historyToolCallKey item.runId callId
    rejectIf ((seen.newCalls.find key).isSome = true ∨
        (state.referencedToolCalls.find key).isSome = true)
      (runStoreError "model_history_tool_call_duplicate")
    rejectIf (isSafeInteger (seen.pendingCount + 1) = false)
      (runStoreError "model_history_append_state_invalid")
    return { seen with
      pendingCount := seen.pendingCount + 1
      newCalls := seen.newCalls.set key ⟨kind, item.segmentId⟩ }
  | .toolResult kind callId _ _ _ => do
    let key := historyToolCallKey item.runId callId
    let existing := state.referencedToolCalls.find key
    let call := (seen.newCalls.find key).or
      (existing.map fun stored => ⟨stored.kind, some stored.segmentId⟩)
    rejectIf (call = none ∨ key ∈ seen.completed ∨
        existing.any (·.completed) = true ∨ call ≠ some ⟨kind, item.segmentId⟩)
      (runStoreError "model_history_tool_result_orphaned")
    rejectIf (seen.pendingCount - 1 < 0) (runStoreError "model_history_append_state_invalid")
    return { seen with
      pendingCount := seen.pendingCount - 1
      completed := key :: seen.completed }
  | _ => do
    rejectIf (0 < seen.pendingCount) (runStoreError "model_history_tool_result_missing")
    return seen

/-- The incremental check of items in order. -/
def pairAllIncrementally (state : ModelHistoryAppendState) :
    IncrementalPairing → List ModelHistoryItem → Checked IncrementalPairing
  | seen, [] => .ok seen
  | seen, item :: rest => do
    let next ← pairIncrementally state seen item
    pairAllIncrementally state next rest

/-- The incremental check of the pairing of an append. The result is the number of open calls. -/
def validateModelHistoryIncrementalPairing (items : List ModelHistoryItem)
    (state : ModelHistoryAppendState) : Checked Int := do
  rejectIf (isNonNegativeInteger state.pendingToolCallCount = false)
    (runStoreError "model_history_append_state_invalid")
  let seen ← pairAllIncrementally state ⟨state.pendingToolCallCount, .empty, []⟩ items
  return seen.pendingCount

/-- The index of one thread: a call is kept as its sequence while it is open, and as the
negative of it once it has a result. -/
structure AppendIndexState where
  lastSequence : Int
  pendingToolCallCount : Int
  calls : OrderedMap JsString Int

/-- The index of all threads. -/
abbrev InMemoryModelHistoryAppendIndex := OrderedMap JsString AppendIndexState

/-- The key of a thread in the index. -/
def appendIndexScope (locator : ThreadLocator) : JsString :=
  stringifyPair (some locator.tenantId) locator.threadId

/-- The item that a reference points to. -/
def itemAt (history : List ModelHistoryItem) (sequence : Int) : Option ModelHistoryItem :=
  if sequence = 0 then none else history[sequence.natAbs - 1]?

/-- The call that a reference points to. -/
def referencedCall (history : List ModelHistoryItem) (locator : ThreadLocator) (key : JsString)
    (sequence : Int) : Checked StoredHistoryToolCall :=
  match itemAt history sequence with
  | some item =>
    match item.body, item.runId, item.segmentId with
    | .toolCall kind callId _ _, some runId, some segmentId =>
      if item.tenantId ≠ locator.tenantId ∨ item.threadId ≠ locator.threadId ∨
          historyToolCallKey (some runId) callId ≠ key
      then .error (runStoreError "model_history_append_state_invalid")
      else .ok ⟨runId, callId, segmentId, kind, sequence < 0⟩
    | _, _, _ => .error (runStoreError "model_history_append_state_invalid")
  | none => .error (runStoreError "model_history_append_state_invalid")

/-- Look up the calls that the items refer to. -/
def referencedToolCalls (stored : Option AppendIndexState) (history : List ModelHistoryItem)
    (locator : ThreadLocator) : OrderedMap JsString StoredHistoryToolCall →
      List ModelHistoryItem → Checked (OrderedMap JsString StoredHistoryToolCall)
  | found, [] => .ok found
  | found, item :: rest =>
    match item.callId with
    | none => referencedToolCalls stored history locator found rest
    | some callId =>
      let key := historyToolCallKey item.runId callId
      if (found.find key).isSome then referencedToolCalls stored history locator found rest
      else
        match stored.bind (·.calls.find key) with
        | none => referencedToolCalls stored history locator found rest
        | some sequence => do
          let call ← referencedCall history locator key sequence
          referencedToolCalls stored history locator (found.set key call) rest

/-- What the index knows about the items of an append. -/
def appendState (index : InMemoryModelHistoryAppendIndex) (history : List ModelHistoryItem)
    (locator : ThreadLocator) (items : List ModelHistoryItem) :
    Checked ModelHistoryAppendState := do
  let stored := index.find (appendIndexScope locator)
  let lastSequence : Int := (stored.map (·.lastSequence)).getD 0
  rejectIf (lastSequence ≠ history.length ∨
      lastSequence ≠ (history.getLast?.map (·.sequence)).getD 0)
    (runStoreError "model_history_append_state_stale")
  let referenced ← referencedToolCalls stored history locator .empty items
  return ⟨lastSequence, (stored.map (·.pendingToolCallCount)).getD 0, referenced⟩

/-- The checks of an append against the index. -/
def validateIndexedAppend (index : InMemoryModelHistoryAppendIndex)
    (history : List ModelHistoryItem) (append : ModelHistoryAppend) (locator : ThreadLocator)
    (itemIdExists : JsString → Bool) : Checked Unit := do
  let head ← appendState index history locator []
  validateModelHistoryAppendShape append locator head.lastSequence itemIdExists
  let state ← appendState index history locator append.items
  let _ ← validateModelHistoryIncrementalPairing append.items state
  return ()

/-- Enter a committed item into the index of its thread. -/
def committedItem (state : AppendIndexState) (item : ModelHistoryItem) : AppendIndexState :=
  match item.body with
  | .toolCall _ callId _ _ => {
      lastSequence := item.sequence
      pendingToolCallCount := state.pendingToolCallCount + 1
      calls := state.calls.set (historyToolCallKey item.runId callId) item.sequence }
  | .toolResult _ callId _ _ _ =>
    let key := historyToolCallKey item.runId callId
    { lastSequence := item.sequence
      pendingToolCallCount := state.pendingToolCallCount - 1
      calls := state.calls.set key (-((state.calls.find key).getD 0)) }
  | _ => { state with lastSequence := item.sequence }

/-- Enter committed items into the index. -/
def committed (index : InMemoryModelHistoryAppendIndex) (items : List ModelHistoryItem) :
    InMemoryModelHistoryAppendIndex :=
  match items with
  | [] => index
  | first :: _ =>
    let key := appendIndexScope ⟨first.tenantId, first.threadId⟩
    let state := (index.find key).getD ⟨0, 0, .empty⟩
    index.set key (items.foldl committedItem state)

/-- The history of one thread, with the index. -/
structure ModelHistoryState where
  history : List ModelHistoryItem
  index : InMemoryModelHistoryAppendIndex

/-- The state before any append. -/
def ModelHistoryState.empty : ModelHistoryState := ⟨[], .empty⟩

/-- Store validated items. -/
def appendModelHistory (items : List ModelHistoryItem) (state : ModelHistoryState) :
    ModelHistoryState :=
  ⟨state.history ++ items, committed state.index items⟩

/-- Validate an append against the index and store its items. -/
def commitModelHistory (append : ModelHistoryAppend) (locator : ThreadLocator)
    (itemIdExists : JsString → Bool) : Program Failure ModelHistoryState Unit := do
  let state ← Program.read id
  Program.check (validateIndexedAppend state.index state.history append locator itemIdExists)
  Program.update (appendModelHistory append.items)

end Crewon.Store
