import Crewon.Domain.ModelHistory
import Crewon.Lib.Replay

/-!
# The thread lifecycle reducer

A thread is an append-only log of events: it is created, collects messages, may be forked from
another thread, archived and taken back, renamed and rolled back, and is deleted at most once.
The branches and the order of their checks are those of the source.
-/

namespace Crewon.Domain

open Crewon.Js Crewon.Checked Crewon.Replay

/-- The status of a thread. -/
inductive ThreadStatus where
  | active
  | archived
  | deleted
deriving DecidableEq

/-- Who speaks in a message of a thread. -/
inductive MessageRole where
  | user
  | assistant
  | system
  | tool
deriving DecidableEq

/-- The facts of a rollback. -/
structure ThreadRolledBackData where
  actorId : JsString
  rollbackId : JsString
  markerItemId : JsString
  requestedTurns : Int
  removedTurns : Int
  historyFromSequence : Option Int
  historyThroughSequence : Int
  markerHistorySequence : Int
deriving DecidableEq

/-- The type of a thread event with its data. -/
inductive ThreadEventData where
  | threadCreated (tenantId spaceId createdByActorId : JsString) (title workspaceId :
      Option JsString)
  | threadMessageAppended (messageId : JsString) (messageSequence : Int) (role : MessageRole)
      (contentDigest : JsString) (initialTitle : Option JsString)
  | threadForked (sourceThreadId : JsString) (throughHistorySequence throughMessageSequence : Int)
      (actorId : JsString)
  | threadArchived (actorId : JsString)
  | threadUnarchived (actorId : JsString)
  | threadRenamed (actorId : JsString) (title : Option JsString)
  | threadRolledBack (data : ThreadRolledBackData)
  | threadDeleted (actorId : JsString)
deriving DecidableEq

/-- The event creates the thread. -/
def ThreadEventData.isCreated : ThreadEventData → Bool
  | .threadCreated .. => true
  | _ => false

/-- The event appends a message. -/
def ThreadEventData.isMessage : ThreadEventData → Bool
  | .threadMessageAppended .. => true
  | _ => false

/-- The event marks the thread as a fork. -/
def ThreadEventData.isForked : ThreadEventData → Bool
  | .threadForked .. => true
  | _ => false

/-- One event of the log of a thread. -/
structure ThreadLifecycleEvent where
  schemaVersion : JsString
  threadId : JsString
  eventId : JsString
  sequence : Int
  occurredAt : JsString
  data : ThreadEventData
  /-- The data has a field `workspaceId` of its own. -/
  ownsWorkspaceId : Bool
deriving DecidableEq

/-- The state of a thread. -/
structure ThreadState where
  threadId : JsString
  tenantId : JsString
  spaceId : JsString
  createdByActorId : JsString
  title : Option JsString
  workspaceId : Option JsString
  status : ThreadStatus
  revision : Int
  lastEventSequence : Int
  lastMessageSequence : Int
  createdAt : JsString
  updatedAt : JsString
  archivedAt : Option JsString
  deletedAt : Option JsString
  deletedByActorId : Option JsString
  forkedFromThreadId : Option JsString
  forkedThroughHistorySequence : Option Int
deriving DecidableEq

/-- A role as a text. -/
def MessageRole.text : MessageRole → JsString
  | .user => js "user"
  | .assistant => js "assistant"
  | .system => js "system"
  | .tool => js "tool"

/-- A role of a message as a role of an item. -/
def MessageRole.history : MessageRole → ModelHistoryMessageRole
  | .user => .user
  | .assistant => .assistant
  | .system => .system
  | .tool => .tool

/-- The type and the data of an event as the fields of its JSON. -/
def ThreadLifecycleEvent.fields (event : ThreadLifecycleEvent) :
    JsString × List (String × JsonValue) :=
  match event.data with
  | .threadCreated tenantId spaceId createdByActorId title workspaceId =>
    (js "thread.created", [
      ("tenantId", .string tenantId),
      ("spaceId", .string spaceId),
      ("createdByActorId", .string createdByActorId),
      ("title", .ofOption .string title)] ++
      JsonValue.optionalField "workspaceId" .string
        (if event.ownsWorkspaceId then some workspaceId else none))
  | .threadMessageAppended messageId messageSequence role contentDigest initialTitle =>
    (js "thread.message.appended", [
      ("messageId", .string messageId),
      ("messageSequence", .number messageSequence),
      ("role", .string role.text),
      ("contentDigest", .string contentDigest)] ++
      JsonValue.optionalField "initialTitle" .string (initialTitle.map some))
  | .threadForked sourceThreadId throughHistorySequence throughMessageSequence actorId =>
    (js "thread.forked", [
      ("sourceThreadId", .string sourceThreadId),
      ("throughHistorySequence", .number throughHistorySequence),
      ("throughMessageSequence", .number throughMessageSequence),
      ("actorId", .string actorId)])
  | .threadArchived actorId => (js "thread.archived", [("actorId", .string actorId)])
  | .threadUnarchived actorId => (js "thread.unarchived", [("actorId", .string actorId)])
  | .threadRenamed actorId title =>
    (js "thread.renamed", [("actorId", .string actorId), ("title", .ofOption .string title)])
  | .threadRolledBack data =>
    (js "thread.rolled_back", [
      ("actorId", .string data.actorId),
      ("rollbackId", .string data.rollbackId),
      ("markerItemId", .string data.markerItemId),
      ("requestedTurns", .number data.requestedTurns),
      ("removedTurns", .number data.removedTurns),
      ("historyFromSequence", .ofOption .number data.historyFromSequence),
      ("historyThroughSequence", .number data.historyThroughSequence),
      ("markerHistorySequence", .number data.markerHistorySequence)])
  | .threadDeleted actorId => (js "thread.deleted", [("actorId", .string actorId)])

/-- An event as JSON. -/
def ThreadLifecycleEvent.json (event : ThreadLifecycleEvent) : JsonValue :=
  .object [
    ("schemaVersion", .string event.schemaVersion),
    ("identity", .object [("threadId", .string event.threadId)]),
    ("eventId", .string event.eventId),
    ("sequence", .number event.sequence),
    ("occurredAt", .string event.occurredAt),
    ("type", .string event.fields.1),
    ("data", .object event.fields.2)]

/-- A rejection of the thread lifecycle. -/
def threadLifecycleError (code : String) : Failure := ⟨.threadLifecycle, code⟩

/-- Reject a text that is blank. -/
def requireThreadText (value : JsString) (code : String) : Checked Unit :=
  requireNonEmpty value (threadLifecycleError code)

/-- A title that is present has text and at most 256 units. -/
def requireNullableTitle (value : Option JsString) : Checked Unit :=
  whenPresent value fun title =>
    rejectIf (title.isBlank = true ∨ 256 < title.length)
      (threadLifecycleError "thread_title_invalid")

/-- The digest pattern of messages. -/
def requireMessageDigest (value : JsString) : Checked Unit :=
  rejectIf (isDigest value = false) (threadLifecycleError "message_content_digest_invalid")

/-- A workspace identity is an opaque token of at most 128 units. -/
def isWorkspaceId (value : JsString) : Bool := isOpaqueId value && value.length ≤ 128

/-- The workspace of a thread; an absent one is none. -/
def normalizeThreadWorkspaceId (value : Option JsString) : Checked (Option JsString) :=
  if value.all isWorkspaceId then .ok value
  else .error (threadLifecycleError "thread_workspace_id_invalid")

/-- Messages are not appended to an archived thread. -/
def requireActive (state : ThreadState) : Checked Unit :=
  rejectIf (state.status = .archived) (threadLifecycleError "thread_archived")

/-- The checks of a title that comes with the first message. -/
def validateInitialTitle (role : MessageRole) (messageSequence : Int) (title : JsString) :
    Checked Unit := do
  requireNullableTitle (some title)
  rejectIf (role ≠ .user ∨ messageSequence ≠ 1 ∨ 48 < title.codePoints.length)
    (threadLifecycleError "thread_initial_title_invalid")

/-- The checks of the numbers of a rollback. -/
def validateRolledBack (data : ThreadRolledBackData) : Checked Unit := do
  requireThreadText data.actorId "rollback_actor_id_invalid"
  requireThreadText data.rollbackId "rollback_id_invalid"
  requireThreadText data.markerItemId "rollback_marker_id_invalid"
  rejectIf (isPositiveInteger data.requestedTurns = false ∨
      maxModelHistoryRollbackTurns < data.requestedTurns ∨
      isNonNegativeInteger data.removedTurns = false ∨
      data.requestedTurns < data.removedTurns ∨
      isNonNegativeInteger data.historyThroughSequence = false ∨
      data.markerHistorySequence ≠ data.historyThroughSequence + 1 ∨
      ¬ (data.historyFromSequence = none ↔ data.removedTurns = 0) ∨
      data.historyFromSequence.any (fun sequence =>
        !isPositiveInteger sequence || data.historyThroughSequence < sequence) = true)
    (threadLifecycleError "thread_rollback_invalid")

/-- The checks of an event that do not look at the state. -/
def validateThreadLifecycleEvent (event : ThreadLifecycleEvent) : Checked Unit := do
  rejectIf (event.schemaVersion ≠ js "crewon.thread-event.v0")
    (threadLifecycleError "thread_event_schema_version_unsupported")
  requireThreadText event.eventId "thread_event_id_invalid"
  requireThreadText event.threadId "thread_id_invalid"
  requirePositiveInteger event.sequence (threadLifecycleError "thread_event_sequence_invalid")
  requireTimestamp event.occurredAt (threadLifecycleError "thread_event_occurred_at_invalid")
  rejectIf (event.data.isCreated = false ∧ event.ownsWorkspaceId = true)
    (threadLifecycleError "thread_workspace_immutable")
  match event.data with
  | .threadCreated tenantId spaceId createdByActorId title workspaceId => do
    requireThreadText tenantId "tenant_id_invalid"
    requireThreadText spaceId "space_id_invalid"
    requireThreadText createdByActorId "created_by_actor_id_invalid"
    requireNullableTitle title
    let _ ← normalizeThreadWorkspaceId workspaceId
    return ()
  | .threadMessageAppended messageId messageSequence role contentDigest initialTitle => do
    whenPresent initialTitle (validateInitialTitle role messageSequence)
    requireThreadText messageId "message_id_invalid"
    requirePositiveInteger messageSequence (threadLifecycleError "message_sequence_invalid")
    requireMessageDigest contentDigest
  | .threadForked sourceThreadId throughHistorySequence throughMessageSequence actorId => do
    requireThreadText sourceThreadId "fork_source_thread_id_invalid"
    requireThreadText actorId "fork_actor_id_invalid"
    rejectIf (isNonNegativeInteger throughHistorySequence = false ∨
        isNonNegativeInteger throughMessageSequence = false)
      (threadLifecycleError "thread_fork_invalid")
  | .threadArchived actorId => requireThreadText actorId "archive_actor_id_invalid"
  | .threadUnarchived actorId => requireThreadText actorId "unarchive_actor_id_invalid"
  | .threadRenamed actorId title => do
    requireThreadText actorId "rename_actor_id_invalid"
    requireNullableTitle title
  | .threadRolledBack data => validateRolledBack data
  | .threadDeleted actorId => requireThreadText actorId "delete_actor_id_invalid"

/-- The stamps of a thread fit its status. -/
def stampsMismatch (state : ThreadState) : Bool :=
  match state.status with
  | .active =>
    state.archivedAt.isSome || state.deletedAt.isSome || state.deletedByActorId.isSome
  | .archived =>
    !state.archivedAt.any isTimestamp || state.deletedAt.isSome || state.deletedByActorId.isSome
  | .deleted =>
    state.title.isSome || state.archivedAt.isSome || !state.deletedAt.any isTimestamp ||
      !state.deletedByActorId.any fun actorId => !actorId.isBlank

/-- The origin of a fork is given in full and is another thread. -/
def forkMismatch (state : ThreadState) : Bool :=
  state.forkedFromThreadId.isSome != state.forkedThroughHistorySequence.isSome ||
    state.forkedFromThreadId.any fun source =>
      source.isBlank || source == state.threadId ||
        !state.forkedThroughHistorySequence.any isNonNegativeInteger

/-- The checks every stored thread passes. -/
def validateThreadState (state : ThreadState) : Checked Unit := do
  requireThreadText state.threadId "thread_id_invalid"
  requireThreadText state.tenantId "tenant_id_invalid"
  requireThreadText state.spaceId "space_id_invalid"
  requireThreadText state.createdByActorId "created_by_actor_id_invalid"
  requireNullableTitle state.title
  let _ ← normalizeThreadWorkspaceId state.workspaceId
  rejectIf (isPositiveInteger state.revision = false ∨
      isSafeInteger state.lastEventSequence = false ∨
      state.lastEventSequence ≠ state.revision ∨
      isNonNegativeInteger state.lastMessageSequence = false ∨
      isTimestamp state.createdAt = false ∨ isTimestamp state.updatedAt = false ∨
      isEarlier state.updatedAt state.createdAt = true)
    (threadLifecycleError "thread_state_invalid")
  rejectIf (stampsMismatch state = true) (threadLifecycleError "thread_state_invalid")
  rejectIf (forkMismatch state = true) (threadLifecycleError "thread_state_invalid")

/-- The thread that its first event creates. -/
def createThread (event : ThreadLifecycleEvent) : Checked ThreadState :=
  match event.data with
  | .threadCreated tenantId spaceId createdByActorId title workspaceId => do
    rejectIf (event.sequence ≠ 1) (threadLifecycleError "thread_event_sequence_gap")
    requireThreadText event.threadId "thread_id_invalid"
    requireThreadText tenantId "tenant_id_invalid"
    requireThreadText spaceId "space_id_invalid"
    requireThreadText createdByActorId "created_by_actor_id_invalid"
    requireNullableTitle title
    let workspaceId ← normalizeThreadWorkspaceId workspaceId
    return {
      threadId := event.threadId
      tenantId := tenantId
      spaceId := spaceId
      createdByActorId := createdByActorId
      title := title
      workspaceId := workspaceId
      status := .active
      revision := 1
      lastEventSequence := 1
      lastMessageSequence := 0
      createdAt := event.occurredAt
      updatedAt := event.occurredAt
      archivedAt := none
      deletedAt := none
      deletedByActorId := none
      forkedFromThreadId := none
      forkedThroughHistorySequence := none }
  | _ => .error (threadLifecycleError "thread_not_created")

/-- The branch of an event that follows the creation. The state given is the one after the
changes that every event makes. -/
def applyThreadEvent (state next : ThreadState) (event : ThreadLifecycleEvent) :
    Checked ThreadState :=
  match event.data with
  | .threadCreated .. => .error (threadLifecycleError "thread_already_created")
  | .threadMessageAppended messageId messageSequence _ contentDigest initialTitle => do
    requireActive state
    requireThreadText messageId "message_id_invalid"
    rejectIf (messageSequence ≠ state.lastMessageSequence + 1)
      (threadLifecycleError "message_sequence_gap")
    requireMessageDigest contentDigest
    return { next with
      title := state.title.or initialTitle
      lastMessageSequence := messageSequence }
  | .threadForked sourceThreadId throughHistorySequence throughMessageSequence actorId => do
    requireActive state
    requireThreadText sourceThreadId "fork_source_thread_id_invalid"
    requireThreadText actorId "fork_actor_id_invalid"
    rejectIf (state.forkedFromThreadId ≠ none ∨ sourceThreadId = state.threadId ∨
        isNonNegativeInteger throughHistorySequence = false ∨
        isNonNegativeInteger throughMessageSequence = false ∨
        throughMessageSequence ≠ state.lastMessageSequence ∨
        throughHistorySequence < throughMessageSequence)
      (threadLifecycleError "thread_fork_invalid")
    return { next with
      forkedFromThreadId := some sourceThreadId
      forkedThroughHistorySequence := some throughHistorySequence }
  | .threadArchived _ => do
    rejectIf (state.status = .archived) (threadLifecycleError "thread_archived")
    return { next with status := .archived, archivedAt := some event.occurredAt }
  | .threadUnarchived _ => do
    rejectIf (state.status ≠ .archived) (threadLifecycleError "thread_not_archived")
    return { next with status := .active, archivedAt := none }
  | .threadRenamed _ title => .ok { next with title := title }
  | .threadRolledBack _ => do
    requireActive state
    return next
  | .threadDeleted actorId => .ok { next with
      title := none
      status := .deleted
      archivedAt := none
      deletedAt := some event.occurredAt
      deletedByActorId := some actorId }

/-- Accept or reject one event in a state. -/
def reduceThreadLifecycleEvent (state : Option ThreadState) (event : ThreadLifecycleEvent) :
    Checked ThreadState := do
  validateThreadLifecycleEvent event
  match state with
  | none => createThread event
  | some state => do
    validateThreadState state
    rejectIf (event.threadId ≠ state.threadId) (threadLifecycleError "thread_id_mismatch")
    rejectIf (event.sequence ≠ state.lastEventSequence + 1)
      (threadLifecycleError "thread_event_sequence_gap")
    rejectIf (state.status = .deleted) (threadLifecycleError "thread_deleted")
    rejectIf (isEarlier event.occurredAt state.updatedAt = true)
      (threadLifecycleError "thread_event_time_regression")
    let workspaceId ← normalizeThreadWorkspaceId state.workspaceId
    let next := { state with
      workspaceId := workspaceId
      revision := state.revision + 1
      lastEventSequence := event.sequence
      updatedAt := event.occurredAt }
    applyThreadEvent state next event

/-- Fold a log from its first event. -/
def replayThreadLifecycle (events : List ThreadLifecycleEvent) : Checked ThreadState :=
  fold reduceThreadLifecycleEvent (threadLifecycleError "thread_events_empty") events

end Crewon.Domain
