import Crewon.Domain.ThreadLifecycle

/-!
# Rollback of turns

A rollback removes the latest turns from what the models see without touching the stored
history: it appends a marker that names the first removed sequence. Replaying a history through
its markers yields the items still in effect, and recomputes every marker on the way.
-/

namespace Crewon.Domain

open Crewon.Js Crewon.Checked

/-- The part of a history that a rollback removes. -/
structure ThreadRollbackBoundary where
  requestedTurns : Int
  removedTurns : Int
  historyFromSequence : Option Int
  historyThroughSequence : Int
  markerHistorySequence : Int
deriving DecidableEq

/-- What is left of a history after its rollbacks. -/
structure EffectiveModelHistory where
  items : List ModelHistoryItem
  rollbackMarkers : List ModelHistoryItem
  latestRollback : Option ModelHistoryItem
  throughHistorySequence : Int
deriving DecidableEq

/-- A user message that only updates the context of a turn. -/
def isContextualUpdate (item : ModelHistoryItem) : Bool :=
  match item.body with
  | .message role source _ _ _ =>
    role = .user && (source = .goalContinuation || source = .goalSteering)
  | _ => false

/-- Walk back from the last item, given in reverse, until enough instructions were met. The
result is the index of the last instruction met and the number of instructions. -/
def scanTurns (requestedTurns : Int) : List ModelHistoryItem → Nat × Int → Nat × Int
  | [], found => found
  | item :: earlier, (cutIndex, removedTurns) =>
    if isModelHistoryInstructionBoundary item then
      if removedTurns + 1 = requestedTurns then (earlier.length, removedTurns + 1)
      else scanTurns requestedTurns earlier (earlier.length, removedTurns + 1)
    else scanTurns requestedTurns earlier (cutIndex, removedTurns)

/-- Move an index back over the contextual updates in front of it, but not past the bound. -/
def retreat (items : List ModelHistoryItem) (bound : Nat) : Nat → Nat
  | 0 => 0
  | index + 1 =>
    if bound < index + 1 ∧ (items[index]?).any isContextualUpdate then retreat items bound index
    else index + 1

/-- Plan a rollback of the items still in effect. -/
def planFromEffectiveItems (items : List ModelHistoryItem) (requestedTurns : Int)
    (historyThroughSequence : Int) : Checked ThreadRollbackBoundary := do
  rejectIf (isPositiveInteger requestedTurns = false ∨
      maxModelHistoryRollbackTurns < requestedTurns)
    (modelHistoryError "model_history_rollback_turns_invalid")
  let (scanned, removedTurns) := scanTurns requestedTurns items.reverse (items.length, 0)
  let cutIndex :=
    if 0 < removedTurns then
      retreat items (items.findIdx isModelHistoryInstructionBoundary) scanned
    else scanned
  return {
    requestedTurns := requestedTurns
    removedTurns := removedTurns
    historyFromSequence :=
      if removedTurns = 0 then none else (items[cutIndex]?).map (·.sequence)
    historyThroughSequence := historyThroughSequence
    markerHistorySequence := historyThroughSequence + 1 }

/-- The items are numbered from one and belong to one thread. -/
def validateRawHistoryFrom (tenantId threadId : JsString) :
    Int → List ModelHistoryItem → Checked Unit
  | _, [] => .ok ()
  | index, item :: rest => do
    validateModelHistoryItem item
    rejectIf (item.sequence ≠ index + 1) (modelHistoryError "model_history_sequence_gap")
    rejectIf (item.tenantId ≠ tenantId ∨ item.threadId ≠ threadId)
      (modelHistoryError "model_history_identity_mismatch")
    validateRawHistoryFrom tenantId threadId (index + 1) rest

/-- The checks of a stored history. The first item says which thread it is. -/
def validateRawHistory (history : List ModelHistoryItem) : Checked Unit :=
  match history with
  | [] => .ok ()
  | first :: _ => validateRawHistoryFrom first.tenantId first.threadId 0 history

/-- The items still in effect and the markers met so far. -/
structure EffectiveReplay where
  items : List ModelHistoryItem
  rollbackMarkers : List ModelHistoryItem
deriving DecidableEq

/-- Replay one item. -/
def replayEffectiveItem (replay : EffectiveReplay) (item : ModelHistoryItem) :
    Checked EffectiveReplay :=
  match item.body with
  | .rollback _ _ requestedTurns removedTurns historyFromSequence historyThroughSequence => do
    let expected ← planFromEffectiveItems replay.items requestedTurns historyThroughSequence
    rejectIf (removedTurns ≠ expected.removedTurns ∨
        historyFromSequence ≠ expected.historyFromSequence ∨
        item.sequence ≠ expected.markerHistorySequence)
      (modelHistoryError "model_history_rollback_boundary_mismatch")
    return {
      items := match expected.historyFromSequence with
        | none => replay.items
        | some fromSequence => replay.items.filter (·.sequence < fromSequence)
      rollbackMarkers := replay.rollbackMarkers ++ [item] }
  | _ => .ok { replay with items := replay.items ++ [item] }

/-- Replay items in order. -/
def replayEffectiveItems (replay : EffectiveReplay) :
    List ModelHistoryItem → Checked EffectiveReplay
  | [] => .ok replay
  | item :: rest => do
    let next ← replayEffectiveItem replay item
    replayEffectiveItems next rest

/-- Replay a history through its markers. -/
def replayEffectiveHistory (history : List ModelHistoryItem) : Checked EffectiveModelHistory := do
  validateRawHistory history
  let replay ← replayEffectiveItems ⟨[], []⟩ history
  return {
    items := replay.items
    rollbackMarkers := replay.rollbackMarkers
    latestRollback := replay.rollbackMarkers.getLast?
    throughHistorySequence := (history.getLast?.map (·.sequence)).getD 0 }

/-- What is left of a history after its rollbacks. -/
def projectEffectiveModelHistory (history : List ModelHistoryItem) :
    Checked EffectiveModelHistory :=
  replayEffectiveHistory history

/-- Plan a rollback of a stored history. -/
def planModelHistoryRollback (history : List ModelHistoryItem) (requestedTurns : Int) :
    Checked ThreadRollbackBoundary := do
  let replayed ← replayEffectiveHistory history
  planFromEffectiveItems replayed.items requestedTurns replayed.throughHistorySequence

/-- A rollback marker. -/
structure ModelHistoryRollbackMarker where
  schemaVersion : JsString
  itemId : JsString
  tenantId : JsString
  threadId : JsString
  sequence : Int
  runId : Option JsString
  segmentId : Option JsString
  createdAt : JsString
  rollbackId : JsString
  threadEventId : JsString
  requestedTurns : Int
  removedTurns : Int
  historyFromSequence : Option Int
  historyThroughSequence : Int
deriving DecidableEq

/-- A rollback marker as an item. -/
def ModelHistoryRollbackMarker.item (marker : ModelHistoryRollbackMarker) : ModelHistoryItem where
  schemaVersion := marker.schemaVersion
  itemId := marker.itemId
  tenantId := marker.tenantId
  threadId := marker.threadId
  sequence := marker.sequence
  runId := marker.runId
  segmentId := marker.segmentId
  createdAt := marker.createdAt
  body := .rollback marker.rollbackId marker.threadEventId marker.requestedTurns
    marker.removedTurns marker.historyFromSequence marker.historyThroughSequence

/-- The event of a rollback. -/
structure ThreadRolledBackEvent where
  schemaVersion : JsString
  threadId : JsString
  eventId : JsString
  sequence : Int
  occurredAt : JsString
  data : ThreadRolledBackData
  /-- The data has a field `workspaceId` of its own. -/
  ownsWorkspaceId : Bool
deriving DecidableEq

/-- The event of a rollback as an event. -/
def ThreadRolledBackEvent.event (event : ThreadRolledBackEvent) : ThreadLifecycleEvent where
  schemaVersion := event.schemaVersion
  threadId := event.threadId
  eventId := event.eventId
  sequence := event.sequence
  occurredAt := event.occurredAt
  data := .threadRolledBack event.data
  ownsWorkspaceId := event.ownsWorkspaceId

/-- The boundary that an event of a rollback repeats. -/
def ThreadRolledBackEvent.boundary (event : ThreadRolledBackEvent) : ThreadRollbackBoundary where
  requestedTurns := event.data.requestedTurns
  removedTurns := event.data.removedTurns
  historyFromSequence := event.data.historyFromSequence
  historyThroughSequence := event.data.historyThroughSequence
  markerHistorySequence := event.data.markerHistorySequence

/-- What a rollback writes. -/
structure ThreadRollbackArtifacts where
  boundary : ThreadRollbackBoundary
  marker : ModelHistoryRollbackMarker
  event : ThreadRolledBackEvent
deriving DecidableEq

/-- The marker, the event and the boundary repeat each other and the plan that the history in
front of the marker gives. -/
def validateThreadRollbackArtifacts (historyBeforeMarker : List ModelHistoryItem)
    (artifacts : ThreadRollbackArtifacts) : Checked Unit := do
  let marker := artifacts.marker
  let event := artifacts.event
  validateModelHistoryItem marker.item
  validateThreadLifecycleEvent event.event
  let expected ← planModelHistoryRollback historyBeforeMarker marker.requestedTurns
  rejectIf (artifacts.boundary ≠ expected ∨
      marker.sequence ≠ expected.markerHistorySequence ∨
      marker.removedTurns ≠ expected.removedTurns ∨
      marker.historyFromSequence ≠ expected.historyFromSequence ∨
      marker.historyThroughSequence ≠ expected.historyThroughSequence ∨
      marker.threadId ≠ event.threadId ∨ marker.threadEventId ≠ event.eventId ∨
      marker.createdAt ≠ event.occurredAt ∨ marker.rollbackId ≠ event.data.rollbackId ∨
      marker.itemId ≠ event.data.markerItemId ∨
      event.data.requestedTurns ≠ expected.requestedTurns ∨
      event.data.removedTurns ≠ expected.removedTurns ∨
      event.data.historyFromSequence ≠ expected.historyFromSequence ∨
      event.data.historyThroughSequence ≠ expected.historyThroughSequence ∨
      event.data.markerHistorySequence ≠ expected.markerHistorySequence)
    (modelHistoryError "model_history_rollback_boundary_mismatch")
  whenPresent historyBeforeMarker.head? fun first =>
    rejectIf (marker.tenantId ≠ first.tenantId ∨ marker.threadId ≠ first.threadId)
      (modelHistoryError "model_history_rollback_identity_mismatch")
  let _ ← replayEffectiveHistory (historyBeforeMarker ++ [marker.item])
  return ()

/-- A request to roll a thread back. -/
structure CreateThreadRollbackInput where
  tenantId : JsString
  threadId : JsString
  actorId : JsString
  rollbackId : JsString
  markerItemId : JsString
  threadEventId : JsString
  threadEventSequence : Int
  occurredAt : JsString
  requestedTurns : Int
deriving DecidableEq

/-- The marker that a request and its plan give. -/
def CreateThreadRollbackInput.marker (input : CreateThreadRollbackInput)
    (boundary : ThreadRollbackBoundary) : ModelHistoryRollbackMarker where
  schemaVersion := js "crewon.model-history-item.v0"
  itemId := input.markerItemId
  tenantId := input.tenantId
  threadId := input.threadId
  sequence := boundary.markerHistorySequence
  runId := none
  segmentId := none
  createdAt := input.occurredAt
  rollbackId := input.rollbackId
  threadEventId := input.threadEventId
  requestedTurns := boundary.requestedTurns
  removedTurns := boundary.removedTurns
  historyFromSequence := boundary.historyFromSequence
  historyThroughSequence := boundary.historyThroughSequence

/-- The event that a request and its plan give. -/
def CreateThreadRollbackInput.event (input : CreateThreadRollbackInput)
    (boundary : ThreadRollbackBoundary) : ThreadRolledBackEvent where
  schemaVersion := js "crewon.thread-event.v0"
  threadId := input.threadId
  eventId := input.threadEventId
  sequence := input.threadEventSequence
  occurredAt := input.occurredAt
  data := {
    actorId := input.actorId
    rollbackId := input.rollbackId
    markerItemId := input.markerItemId
    requestedTurns := boundary.requestedTurns
    removedTurns := boundary.removedTurns
    historyFromSequence := boundary.historyFromSequence
    historyThroughSequence := boundary.historyThroughSequence
    markerHistorySequence := boundary.markerHistorySequence }
  ownsWorkspaceId := false

/-- Create what a rollback writes, with the boundary that the history gives. -/
def createThreadRollbackArtifacts (history : List ModelHistoryItem)
    (input : CreateThreadRollbackInput) : Checked ThreadRollbackArtifacts := do
  let boundary ← planModelHistoryRollback history input.requestedTurns
  whenPresent history.head? fun first =>
    rejectIf (first.tenantId ≠ input.tenantId ∨ first.threadId ≠ input.threadId)
      (modelHistoryError "model_history_rollback_identity_mismatch")
  let artifacts : ThreadRollbackArtifacts := ⟨boundary, input.marker boundary, input.event boundary⟩
  validateThreadRollbackArtifacts history artifacts
  return artifacts

/-- A replay of an appended history goes on where the first part ended. -/
theorem replayEffectiveItems_append (replay : EffectiveReplay)
    (before after : List ModelHistoryItem) :
    replayEffectiveItems replay (before ++ after) =
      replayEffectiveItems replay before >>= fun middle => replayEffectiveItems middle after := by
  induction before generalizing replay with
  | nil => rfl
  | cons item rest hypothesis =>
    simp only [List.cons_append, replayEffectiveItems]
    cases replayEffectiveItem replay item with
    | error failure => rfl
    | ok next => exact hypothesis next

end Crewon.Domain
