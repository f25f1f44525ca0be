import Crewon.Context.NormalizeContextHistory
import Crewon.Domain.ThreadRollback

/-!
# Projecting a model history

What a model sees of a history is its latest compaction and the items in effect behind what the
compaction replaces.
-/

namespace Crewon.Context

open Crewon.Js Crewon.Checked Crewon.Domain Crewon.Lib

/-- The introduction of a compaction summary. -/
def contextCompactionSummaryPrefix : JsString :=
  js "Another language model started to solve this problem and produced a summary of its thinking process. You also have access to the state of the tools that were used by that language model. Use this to build on the work that has already been done and avoid duplicating work. Here is the summary produced by the other language model, use the information in this summary to assist with your own analysis:"

/-- What a model sees. -/
structure ModelContextProjection where
  normalized : NormalizedContextHistory
  revision : JsString
  historyRewritten : Bool
  throughHistorySequence : Int
  compactedThroughSequence : Option Int
deriving DecidableEq

/-- A window of an effective history, with the markers that rewrote what is in front of it. -/
structure ModelHistoryWindow where
  items : List ModelHistoryItem
  lastCompaction : Option ModelHistoryItem
  latestRollback : Option ModelHistoryItem
  throughHistorySequence : Int
deriving DecidableEq

/-- The item as a model sees it. -/
def projectItem (item : ModelHistoryItem) : Checked ContextHistoryItem :=
  match item.body with
  | .message .user _ content _ _ => .ok (.message .user content)
  | .message .assistant _ content _ _ => .ok (.message .assistant content)
  | .message .system _ content _ _ => .ok (.message .system content)
  | .message .tool _ _ _ _ => .error (contextHistoryError "legacy_tool_message_unsupported")
  | .toolCall kind callId name input => .ok (.toolCall kind callId name input)
  | .toolResult kind callId output _ _ => .ok (.toolResult kind callId output)
  -- the type of a window excludes compactions and markers
  | _ => .error (contextHistoryError "context_history_item_invalid")

/-- The item is valid, of the thread of the first item and inside the history. -/
def validateWindowItem (throughHistorySequence : Int) (identity : Option ModelHistoryItem)
    (item : ModelHistoryItem) : Checked (Option ModelHistoryItem) := do
  validateModelHistoryItem item
  let known := identity.getD item
  rejectIf (item.tenantId ≠ known.tenantId ∨ item.threadId ≠ known.threadId ∨
      throughHistorySequence < item.sequence)
    (contextHistoryError "context_history_sequence_gap")
  return some known

/-- The checks of an item in front of the window, if there is one. -/
def validateFrontItem (throughHistorySequence : Int) (identity : Option ModelHistoryItem) :
    Option ModelHistoryItem → Checked (Option ModelHistoryItem)
  | none => .ok identity
  | some item => validateWindowItem throughHistorySequence identity item

/-- The items are valid and ascend from a sequence on. -/
def validateWindowItems (throughHistorySequence : Int) :
    Option ModelHistoryItem → Int → List ModelHistoryItem → Checked Unit
  | _, _, [] => .ok ()
  | identity, cursor, item :: rest => do
    let known ← validateWindowItem throughHistorySequence identity item
    rejectIf (item.sequence ≤ cursor) (contextHistoryError "context_history_sequence_gap")
    validateWindowItems throughHistorySequence known item.sequence rest

/-- The entries of a compaction. -/
def compactionEntries (compaction : ModelHistoryItem) : List ContextProjectionEntry :=
  match compaction.body with
  | .compaction _ _ _ summary _ retainedUserMessages =>
    (retainedUserMessages.map fun retained =>
      ⟨compaction.sequence, .message .user retained.content⟩) ++
      [⟨compaction.sequence,
        .message .user (contextCompactionSummaryPrefix ++ ⟨[unit '\n']⟩ ++ summary)⟩]
  | _ => []

/-- The entries of the items of a window. -/
def itemEntries : List ModelHistoryItem → Checked (List ContextProjectionEntry)
  | [] => .ok []
  | item :: rest => do
    let projected ← projectItem item
    let later ← itemEntries rest
    return ⟨item.sequence, projected⟩ :: later

/-- The sequence a compaction replaces the history through, zero without one. -/
def replacedThrough (lastCompaction : Option ModelHistoryItem) : Int :=
  (lastCompaction.bind (·.replacesThrough)).getD 0

/-- Project a window. -/
def projectModelHistoryWindow (window : ModelHistoryWindow)
    (options : ContextNormalizationOptions) : Checked ModelContextProjection := do
  rejectIf ((window.lastCompaction.all (·.isCompaction) = false) ∨
      (window.latestRollback.all (·.isRollback) = false))
    (contextHistoryError "context_compaction_projection_invalid")
  rejectIf (isPositiveInteger window.throughHistorySequence = false)
    (contextHistoryError "context_history_empty")
  let through := window.throughHistorySequence
  let afterCompaction ← validateFrontItem through none window.lastCompaction
  let afterRollback ← validateFrontItem through afterCompaction window.latestRollback
  validateWindowItems through afterRollback (replacedThrough window.lastCompaction) window.items
  let projected ← itemEntries window.items
  let entries := (window.lastCompaction.map compactionEntries).getD [] ++ projected
  let normalized ← normalizeContextHistoryEntries entries options
  let latestRewrite :=
    if window.lastCompaction.any (fun compaction =>
        window.latestRollback.all fun marker => marker.sequence < compaction.sequence) = true
    then window.lastCompaction else window.latestRollback
  return {
    normalized := normalized
    revision := (latestRewrite.map (·.itemId)).getD (js "canonical")
    historyRewritten := latestRewrite.isSome || normalized.historyRewritten
    throughHistorySequence := through
    compactedThroughSequence := window.lastCompaction.bind (·.replacesThrough) }

/-- The history is not empty and numbered from one. -/
def validateHistorySequence (history : List ModelHistoryItem) : Checked Unit := do
  rejectIf (history = []) (contextHistoryError "context_history_empty")
  forEach history.zipIdx fun entry =>
    rejectIf (entry.1.sequence ≠ entry.2 + 1)
      (contextHistoryError "context_history_sequence_gap")

/-- The window of an effective history. -/
def effectiveWindow (effective : EffectiveModelHistory) : ModelHistoryWindow :=
  let lastCompaction := (effective.items.filter (·.isCompaction)).getLast?
  { items := (effective.items.filter fun item => !item.isCompaction).filter fun item =>
      replacedThrough lastCompaction < item.sequence
    lastCompaction := lastCompaction
    latestRollback := effective.latestRollback
    throughHistorySequence := effective.throughHistorySequence }

/-- Project a whole history. -/
def projectModelHistory (history : List ModelHistoryItem)
    (options : ContextNormalizationOptions) : Checked ModelContextProjection := do
  validateHistorySequence history
  let effective ← projectEffectiveModelHistory history
  projectModelHistoryWindow (effectiveWindow effective) options

/-- The last index, counted on from one, of a sequence that is not behind a place in the history. -/
def boundaryIndex (throughHistorySequence : Int) : Nat → Option Nat → List Int → Option Nat
  | _, found, [] => found
  | index, found, sequence :: rest =>
    boundaryIndex throughHistorySequence (index + 1)
      (if sequence ≤ throughHistorySequence then some index else found) rest

/-- What was projected for the provider before: the revision and how far the history went. -/
structure ContinuationInput where
  contextRevision : JsString
  throughHistorySequence : Int
deriving DecidableEq

/-- The item ends what a model said. -/
def endsModelOutput : ContextHistoryItem → Bool
  | .message role _ => role = .assistant
  | .toolCall .. => true
  | .toolResult .. => false

/-- Where the items start that the provider has not seen, if it can go on from what it has seen. -/
def projectedContinuationStart (projection : ModelContextProjection) (input : ContinuationInput) :
    Option Nat :=
  if input.contextRevision ≠ projection.revision ∨
      isPositiveInteger input.throughHistorySequence = false then none
  else
    match boundaryIndex input.throughHistorySequence 0 none projection.normalized.sourceSequences with
    | none => none
    | some index =>
      if (projection.normalized.items[index]?).any endsModelOutput then some (index + 1) else none

end Crewon.Context
