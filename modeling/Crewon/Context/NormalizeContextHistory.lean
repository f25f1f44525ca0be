import Crewon.Domain.ModelHistory
import Crewon.Lib.OrderedMap

/-!
# Normalising what a model sees

The items shown to a model are bounded in number and in bytes. A result without its call is
dropped and a call without its result is given one, and each repair is reported.
-/

namespace Crewon.Context

open Crewon.Js Crewon.Checked Crewon.Domain Crewon.Lib

/-- Who speaks in a message that a model sees. -/
inductive ContextMessageRole where
  | user
  | assistant
  | developer
  | system
deriving DecidableEq

/-- An item that a model sees. -/
inductive ContextHistoryItem where
  | message (role : ContextMessageRole) (content : JsString)
  | toolCall (kind : ModelHistoryToolKind) (callId name input : JsString)
  | toolResult (kind : ModelHistoryToolKind) (callId output : JsString)
deriving DecidableEq

/-- What was done to an unpaired tool item. -/
inductive ContextHistoryRepairKind where
  | missingToolResultInserted
  | orphanToolResultDropped
deriving DecidableEq

/-- A repair. -/
structure ContextHistoryRepair where
  kind : ContextHistoryRepairKind
  toolKind : ModelHistoryToolKind
  callId : JsString
deriving DecidableEq

/-- An item with the sequence of the history item it comes from. -/
structure ContextProjectionEntry where
  sourceSequence : Int
  item : ContextHistoryItem
deriving DecidableEq

/-- The normalised items. -/
structure NormalizedContextHistory where
  items : List ContextHistoryItem
  sourceSequences : List Int
  repairs : List ContextHistoryRepair
  historyRewritten : Bool
  byteLength : Int
deriving DecidableEq

/-- The limits a caller may set. -/
structure ContextNormalizationOptions where
  maxItems : Option Int
  maxBytes : Option Int

/-- The number of items unless the caller sets another one. -/
def defaultMaxItems : Int := 256

/-- The number of bytes unless the caller sets another one. -/
def maxContextBytes : Int := 512 * 1024

/-- The largest number of bytes a caller may set. -/
def maxNormalizableContextBytes : Int := 64 * 1024 * 1024

/-- The result of a call that has none. -/
def missingToolResultOutput : JsString := js "aborted"

/-- A rejection of the context. -/
def contextHistoryError (code : String) : Failure := ⟨.context, code⟩

/-- The checks of the limits. -/
def validateLimits (maxItems maxBytes : Int) : Checked Unit := do
  rejectIf (isPositiveInteger maxItems = false ∨ 10000 < maxItems)
    (contextHistoryError "context_item_limit_invalid")
  rejectIf (isPositiveInteger maxBytes = false ∨ maxNormalizableContextBytes < maxBytes)
    (contextHistoryError "context_byte_limit_invalid")

/-- A text that is not empty and not too long. -/
def isBoundedString (value : JsString) (maxBytes : Nat) : Bool :=
  0 < value.length && value.byteLength ≤ maxBytes

/-- The checks of an item. The result is its length. -/
def validateItem : ContextHistoryItem → Checked Int
  | .message _ content =>
    if isBoundedString content (64 * 1024) then .ok content.byteLength
    else .error (contextHistoryError "context_message_invalid")
  | .toolCall _ callId name input =>
    if isBoundedString callId 512 && isBoundedString name 256 &&
        decide (input.byteLength ≤ 32 * 1024)
    then .ok input.byteLength
    else .error (contextHistoryError "context_tool_call_invalid")
  | .toolResult _ callId output =>
    if isBoundedString callId 512 && decide (output.byteLength ≤ 40000)
    then .ok output.byteLength
    else .error (contextHistoryError "context_tool_result_invalid")

/-- A call and its place among the entries. -/
structure IndexedCall where
  index : Nat
  kind : ModelHistoryToolKind
deriving DecidableEq

/-- The calls by their ids. -/
abbrev IndexedCalls := OrderedMap JsString IndexedCall

/-- Collect the calls of the entries from an index on, and add up the lengths. -/
def collectCalls : Nat → IndexedCalls → Int → List ContextProjectionEntry →
    Checked (IndexedCalls × Int)
  | _, calls, totalBytes, [] => .ok (calls, totalBytes)
  | index, calls, totalBytes, entry :: rest => do
    rejectIf (isPositiveInteger entry.sourceSequence = false)
      (contextHistoryError "context_source_sequence_invalid")
    let length ← validateItem entry.item
    match entry.item with
    | .toolCall kind callId _ _ => do
      rejectIf ((calls.find callId).isSome = true)
        (contextHistoryError "context_tool_call_duplicate")
      collectCalls (index + 1) (calls.set callId ⟨index, kind⟩) (totalBytes + length) rest
    | _ => collectCalls (index + 1) calls (totalBytes + length) rest

/-- The results and the calls that belong together, as places and as ids. -/
structure MatchedTools where
  results : List Nat
  calls : List JsString
deriving DecidableEq

/-- Match the results of the entries from an index on with the calls before them. -/
def matchResults (calls : IndexedCalls) : Nat → MatchedTools → List ContextProjectionEntry →
    MatchedTools
  | _, found, [] => found
  | index, found, entry :: rest =>
    match entry.item with
    | .toolResult kind callId _ =>
      if (calls.find callId).any (fun call => call.index < index && call.kind = kind) = true ∧
          callId ∉ found.calls then
        matchResults calls (index + 1) ⟨index :: found.results, callId :: found.calls⟩ rest
      else matchResults calls (index + 1) found rest
    | _ => matchResults calls (index + 1) found rest

/-- The entries of one entry after the repair, with the repair. -/
def repairEntry (matching : MatchedTools) (index : Nat) (entry : ContextProjectionEntry) :
    List ContextProjectionEntry × List ContextHistoryRepair :=
  match entry.item with
  | .toolResult kind callId _ =>
    if index ∈ matching.results then ([entry], [])
    else ([], [⟨.orphanToolResultDropped, kind, callId⟩])
  | .toolCall kind callId _ _ =>
    if callId ∈ matching.calls then ([entry], [])
    else ([entry, ⟨entry.sourceSequence, .toolResult kind callId missingToolResultOutput⟩],
      [⟨.missingToolResultInserted, kind, callId⟩])
  | .message .. => ([entry], [])

/-- The repaired entries from an index on. -/
def repairEntries (matching : MatchedTools) : Nat → List ContextProjectionEntry →
    List ContextProjectionEntry × List ContextHistoryRepair
  | _, [] => ([], [])
  | index, entry :: rest =>
    let here := repairEntry matching index entry
    let later := repairEntries matching (index + 1) rest
    (here.1 ++ later.1, here.2 ++ later.2)

/-- The lengths of checked entries added up. -/
def addLengths : Int → List ContextProjectionEntry → Checked Int
  | total, [] => .ok total
  | total, entry :: rest => do
    let length ← validateItem entry.item
    addLengths (total + length) rest

/-- Normalise entries within the limits. -/
def normalizeContextHistoryEntries (input : List ContextProjectionEntry)
    (options : ContextNormalizationOptions) : Checked NormalizedContextHistory := do
  let maxItems := options.maxItems.getD defaultMaxItems
  let maxBytes := options.maxBytes.getD maxContextBytes
  validateLimits maxItems maxBytes
  rejectIf (input = []) (contextHistoryError "context_history_empty")
  rejectIf (maxItems < input.length)
    (contextHistoryError "context_history_item_limit_exceeded")
  let (calls, totalBytes) ← collectCalls 0 .empty 0 input
  rejectIf (maxBytes < totalBytes) (contextHistoryError "context_history_byte_limit_exceeded")
  let (entries, repairs) := repairEntries (matchResults calls 0 ⟨[], []⟩ input) 0 input
  rejectIf (maxItems < entries.length)
    (contextHistoryError "normalized_context_item_limit_exceeded")
  let normalizedBytes ← addLengths 0 entries
  rejectIf (maxBytes < normalizedBytes)
    (contextHistoryError "normalized_context_byte_limit_exceeded")
  return {
    items := entries.map (·.item)
    sourceSequences := entries.map (·.sourceSequence)
    repairs := repairs
    historyRewritten := repairs ≠ []
    byteLength := normalizedBytes }

/-- The items as entries, numbered from an index on. -/
def projectionEntries : Int → List ContextHistoryItem → List ContextProjectionEntry
  | _, [] => []
  | index, item :: rest => ⟨index + 1, item⟩ :: projectionEntries (index + 1) rest

/-- Normalise items within the limits. Items that need no repair are kept. -/
def normalizeContextHistory (input : List ContextHistoryItem)
    (options : ContextNormalizationOptions) : Checked NormalizedContextHistory := do
  let normalized ← normalizeContextHistoryEntries (projectionEntries 0 input) options
  return if normalized.historyRewritten then normalized else { normalized with items := input }

/-- The lengths of checked items added up. -/
def itemLengths : Int → List ContextHistoryItem → Checked Int
  | total, [] => .ok total
  | total, item :: rest => do
    let length ← validateItem item
    itemLengths (total + length) rest

/-- The bytes kept free for the result of an item. -/
def reservedBytes : ContextHistoryItem → Int
  | .toolCall .. => missingToolResultOutput.byteLength
  | _ => 0

/-- The newest items, given from the newest to the oldest, as long as they are fewer than the limit
and have room for a result of every call. -/
def newestItems (maxItems maxBytes : Int) : Int → List ContextHistoryItem →
    List ContextHistoryItem → Checked (List ContextHistoryItem)
  | _, kept, [] => .ok kept
  | bytes, kept, next :: older =>
    if kept.length < maxItems - 1 then do
      let length ← validateItem next
      let nextBytes := length + reservedBytes next
      if maxBytes < bytes + nextBytes then .ok kept
      else newestItems maxItems maxBytes (bytes + nextBytes) (next :: kept) older
    else .ok kept

/-- The newest bounded items, repaired where the bound cuts a call from its result. -/
def boundedContextTail (input : List ContextHistoryItem) (maxItems : Int)
    (maxBytes : Option Int) : Checked NormalizedContextHistory := do
  let maxBytes := maxBytes.getD maxContextBytes
  validateLimits maxItems maxBytes
  let inputBytes ← itemLengths 0 input
  if input.length ≤ maxItems ∧ inputBytes ≤ maxBytes then
    normalizeContextHistory input ⟨some maxItems, some maxBytes⟩
  else do
    let kept ← newestItems maxItems maxBytes 0 [] input.reverse
    let normalized ← normalizeContextHistory kept ⟨some maxItems, some maxBytes⟩
    return { normalized with historyRewritten := true }

end Crewon.Context
