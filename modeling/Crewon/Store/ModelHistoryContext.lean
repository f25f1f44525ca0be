import Crewon.Domain.ThreadRollback
import Crewon.Js.StableJson
import Crewon.Store.ModelHistoryAppend

/-!
# The index of the context of a thread

The index follows a history in batches and keeps sequences only: of the items in effect, of the
instructions, the compactions and the content among them. A rollback marker cuts all four lists.
When the index has reached the end of the history, its checkpoint gives access to the content in
pages.
-/

namespace Crewon.Store

open Crewon.Js Crewon.Checked Crewon.Domain Crewon.Lib

/-- What the index keeps of a thread. -/
structure ContextIndex where
  through : Int
  fingerprint : JsString
  lastDigest : Option JsString
  latestRollback : Option Int
  active : List Int
  instructions : List Int
  compactions : List Int
  content : List Int
deriving DecidableEq

/-- The indexes by thread. -/
abbrev ContextIndexes := OrderedMap JsString ContextIndex

/-- Where an index stands. -/
structure ModelHistoryContextCheckpoint where
  throughHistorySequence : Int
  fingerprint : JsString
deriving DecidableEq

/-- What an index that has reached the end of its history reports. -/
structure ModelHistoryContextState where
  checkpoint : ModelHistoryContextCheckpoint
  lastItem : Option ModelHistoryItem
  lastCompaction : Option ModelHistoryItem
  latestRollback : Option ModelHistoryItem
deriving DecidableEq

/-- How far an index has come. -/
structure ModelHistoryContextProgress where
  processedThroughSequence : Int
  targetSequence : Int
  context : Option ModelHistoryContextState
deriving DecidableEq

/-- The rejection of a history that no store wrote. -/
def contextInvalid : Failure := runStoreError "model_history_context_invalid"

/-- The key of a thread. -/
def contextKey (locator : ThreadLocator) : JsString :=
  stableJson (.array [.string locator.tenantId, .string locator.threadId])

/-- The item with a sequence. -/
def sequencedItem (history : List ModelHistoryItem) (sequence : Int) : Option ModelHistoryItem :=
  if 1 ≤ sequence then history[(sequence - 1).toNat]? else none

/-- The place of a sequence among the values between two places. -/
def lowerBoundBetween (values : List Int) (needle : Int) (start stop : Nat) : Nat :=
  if start < stop then
    let middle := start + (stop - start) / 2
    if values[middle]?.any (· < needle) = true then
      lowerBoundBetween values needle (middle + 1) stop
    else lowerBoundBetween values needle start middle
  else start
termination_by stop - start

/-- The place of a sequence among ascending values. -/
def lowerBound (values : List Int) (needle : Int) : Nat :=
  lowerBoundBetween values needle 0 values.length

/-- Move back over the contextual updates in front of a place, but not past the first
instruction. -/
def retreatActive (history : List ModelHistoryItem) (active : List Int) (firstInstruction : Nat) :
    Nat → Nat
  | 0 => 0
  | index + 1 =>
    if firstInstruction < index + 1 ∧
        ((active[index]?).bind (sequencedItem history)).any isContextualUpdate = true then
      retreatActive history active firstInstruction index
    else index + 1

/-- The sequence from which a rollback of so many turns cuts. -/
def rollbackCut (state : ContextIndex) (history : List ModelHistoryItem) (removed : Int) :
    Option Int := do
  let instruction ← state.instructions[(state.instructions.length - removed).toNat]?
  let first ← state.instructions[0]?
  state.active[retreatActive history state.active (lowerBound state.active first)
    (lowerBound state.active instruction)]?

/-- The index without what has a sequence from the cut on. -/
def ContextIndex.truncate (state : ContextIndex) (cut : Int) : ContextIndex :=
  { state with
    active := state.active.take (lowerBound state.active cut)
    instructions := state.instructions.take (lowerBound state.instructions cut)
    compactions := state.compactions.take (lowerBound state.compactions cut)
    content := state.content.take (lowerBound state.content cut) }

/-- Apply a rollback marker. -/
def applyRollback (state : ContextIndex) (history : List ModelHistoryItem)
    (marker : ModelHistoryItem) (requestedTurns removedTurns : Int)
    (historyFromSequence : Option Int) (historyThroughSequence : Int) : Checked ContextIndex := do
  let removed := min requestedTurns state.instructions.length
  let cut := if removed = 0 then none else rollbackCut state history removed
  rejectIf (removedTurns ≠ removed ∨ historyFromSequence ≠ cut ∨
      historyThroughSequence ≠ marker.sequence - 1)
    (runStoreError "model_history_rollback_boundary_mismatch")
  let kept := match cut with
    | none => state
    | some cut => state.truncate cut
  return { kept with latestRollback := some marker.sequence }

/-- The index with one more item in effect. -/
def ContextIndex.push (state : ContextIndex) (item : ModelHistoryItem) : ContextIndex :=
  { state with
    active := state.active ++ [item.sequence]
    instructions :=
      if isModelHistoryInstructionBoundary item = true then state.instructions ++ [item.sequence]
      else state.instructions
    compactions :=
      if item.isCompaction = true then state.compactions ++ [item.sequence] else state.compactions
    content :=
      if item.isCompaction = true then state.content else state.content ++ [item.sequence] }

/-- The index with one more item of its history applied. -/
def applyItem (state : ContextIndex) (history : List ModelHistoryItem) (item : ModelHistoryItem) :
    Checked ContextIndex :=
  match item.body with
  | .rollback _ _ requestedTurns removedTurns historyFromSequence historyThroughSequence =>
    applyRollback state history item requestedTurns removedTurns historyFromSequence
      historyThroughSequence
  | _ => .ok (state.push item)

/-- The last compaction in effect. -/
def lastCompaction (state : ContextIndex) (history : List ModelHistoryItem) :
    Checked (Option ModelHistoryItem) :=
  match state.compactions.getLast? with
  | none => .ok none
  | some sequence =>
    match sequencedItem history sequence with
    | some item => if item.isCompaction = true then .ok (some item) else .error contextInvalid
    | none => .error contextInvalid

/-- The latest rollback marker. -/
def latestRollbackItem (state : ContextIndex) (history : List ModelHistoryItem) :
    Checked (Option ModelHistoryItem) :=
  match state.latestRollback with
  | none => .ok none
  | some sequence =>
    match sequencedItem history sequence with
    | some item => if item.isRollback = true then .ok (some item) else .error contextInvalid
    | none => .error contextInvalid

/-- What an index reports at the end of its history. -/
def contextState (state : ContextIndex) (history : List ModelHistoryItem) :
    Checked ModelHistoryContextState := do
  let latestRollback ← latestRollbackItem state history
  let compaction ← lastCompaction state history
  return {
    checkpoint := ⟨state.through, state.fingerprint⟩
    lastItem := sequencedItem history state.through
    lastCompaction := compaction
    latestRollback := latestRollback }

/-- The largest page of any listing. -/
def maxPageSize : Int := 1000

/-- The checks of the size of a page. -/
def validateLimit (limit : Int) : Checked Unit :=
  rejectIf (isSafeInteger limit = false ∨ limit < 1 ∨ maxPageSize < limit)
    (runStoreError "page_limit_invalid")

/-- The checks of a page of a history. -/
def validateModelHistoryPage (locator : ThreadLocator) (afterSequence limit : Int) :
    Checked Unit := do
  validateThreadLocator locator
  rejectIf (isSafeInteger afterSequence = false ∨ afterSequence < 0)
    (runStoreError "model_history_cursor_invalid")
  validateLimit limit

section Hashing

variable (hash : JsString → JsString)

/-- The digest of an item. -/
def itemDigest (item : ModelHistoryItem) : JsString := hash (stableJson item.json)

/-- The index of a thread from which nothing was read yet. -/
def ContextIndex.fresh (key randomUUID : JsString) : ContextIndex where
  through := 0
  fingerprint := hash (stableJson (.array
    [.string (js "crewon.context-index.v1"), .string key, .string randomUUID]))
  lastDigest := none
  latestRollback := none
  active := []
  instructions := []
  compactions := []
  content := []

/-- The item at which the index stands is not the one it read. -/
def ContextIndex.stale (state : ContextIndex) (history : List ModelHistoryItem) : Bool :=
  0 < state.through && (sequencedItem history state.through).map (itemDigest hash) ≠ state.lastDigest

/-- Read one item into the index. -/
def indexItem (locator : ThreadLocator) (history : List ModelHistoryItem) (state : ContextIndex)
    (item : ModelHistoryItem) : Checked ContextIndex := do
  validateModelHistoryItem item
  rejectIf (item.tenantId ≠ locator.tenantId ∨ item.threadId ≠ locator.threadId ∨
    item.sequence ≠ state.through + 1) contextInvalid
  let next ← applyItem state history item
  return { next with
    through := item.sequence
    fingerprint := hash (state.fingerprint ++ ⟨[unit '\n']⟩ ++ decimal item.sequence ++
      ⟨[unit '\n']⟩ ++ itemDigest hash item)
    lastDigest := some (itemDigest hash item) }

/-- Read items into the index. -/
def indexItems (locator : ThreadLocator) (history : List ModelHistoryItem) :
    ContextIndex → List ModelHistoryItem → Checked ContextIndex
  | state, [] => .ok state
  | state, item :: rest => do
    let next ← indexItem hash locator history state item
    indexItems locator history next rest

/-- The index a call starts from: the one that is kept, unless the history is another one. -/
def startIndex (locator : ThreadLocator) (history : List ModelHistoryItem) (randomUUID : JsString)
    (kept : Option ContextIndex) : ContextIndex :=
  match kept with
  | none => .fresh hash (contextKey locator) randomUUID
  | some state =>
    if history.length < state.through ∨ state.stale hash history = true then
      .fresh hash (contextKey locator) randomUUID
    else state

/-- The most items one call reads. -/
def contextBatch : Nat := 100

/-- Read one batch of the history into the index, and report how far it has come. Whatever is
rejected discards the index. -/
def prepare (locator : ThreadLocator) (loaded : Option (List ModelHistoryItem))
    (randomUUID : JsString) : Program Failure ContextIndexes ModelHistoryContextProgress := do
  Program.check (validateThreadLocator locator)
  match loaded with
  | none => Program.abort (runStoreError "model_history_not_found")
  | some history => do
    let kept ← Program.read fun indexes => indexes.find (contextKey locator)
    let start := startIndex hash locator history randomUUID kept
    Program.onAbort (do
      let next ← Program.check (indexItems hash locator history start
        ((history.drop start.through.toNat).take contextBatch))
      Program.update fun indexes => indexes.set (contextKey locator) next
      let context ← Program.check (
        if next.through = history.length then (contextState next history).map some else .ok none)
      return ⟨next.through, history.length, context⟩)
      fun indexes => indexes.erase (contextKey locator)

/-- List the content behind a sequence, as long as the index stands where the checkpoint says. -/
def listItems (locator : ThreadLocator) (loaded : Option (List ModelHistoryItem))
    (indexes : ContextIndexes) (checkpoint : ModelHistoryContextCheckpoint)
    (afterSequence limit : Int) : Checked (List ModelHistoryItem) := do
  validateModelHistoryPage locator afterSequence limit
  rejectIf (100 < limit) (runStoreError "model_history_context_page_limit_invalid")
  match loaded, indexes.find (contextKey locator) with
  | some history, some state => do
    rejectIf (state.through ≠ history.length ∨ state.through ≠ checkpoint.throughHistorySequence ∨
        state.fingerprint ≠ checkpoint.fingerprint ∨ state.stale hash history = true)
      (runStoreError "model_history_context_changed")
    let compaction ← lastCompaction state history
    let cursor := max afterSequence ((compaction.bind (·.replacesThrough)).getD 0)
    let place := lowerBound state.content cursor
    let start := if state.content[place]? = some cursor then place + 1 else place
    return ((state.content.drop start).take limit.toNat).filterMap (sequencedItem history)
  | _, _ => .error (runStoreError "model_history_context_changed")

end Hashing

end Crewon.Store
