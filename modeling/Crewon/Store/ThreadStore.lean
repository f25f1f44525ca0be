import Crewon.Domain.RunEvent
import Crewon.Store.ThreadMessages

/-!
# The threads of the in-memory store

The store keeps the threads with their events, messages and model histories. Threads are changed
by commits of their own and by commits of runs, which append to them as well; a rollback appends
its marker and invalidates messages. The binding of a thread to an office and the deletion of a
thread together with its goal are not part of this model; what they append to a thread is.
-/

namespace Crewon.Store

open Crewon.Js Crewon.Checked Crewon.Domain Crewon.Lib

/-- What makes a request recognizable when it is sent again. -/
structure IdempotencyDescriptor where
  scope : JsString
  key : JsString
  requestFingerprint : JsString
deriving DecidableEq

/-- Whether a commit was made now or before. -/
inductive CommitDisposition where
  | committed
  | replayed
deriving DecidableEq

/-- The thread from which a new one is forked. -/
structure ThreadForkSource where
  threadId : JsString
  spaceId : JsString
  expectedRevision : Int
deriving DecidableEq

/-- A commit of a thread. -/
structure CommitThreadInput where
  tenantId : JsString
  idempotency : IdempotencyDescriptor
  expectedRevision : Int
  events : List ThreadLifecycleEvent
  messages : List MessageRecord
  history : ModelHistoryAppend
  sourceFence : Option ThreadForkSource

/-- What a commit of a thread returns. -/
structure CommitThreadResult where
  disposition : CommitDisposition
  state : ThreadState
  events : List ThreadLifecycleEvent
  messages : List MessageRecord
  historyItems : List ModelHistoryItem

/-- A rollback of a thread. -/
structure CommitThreadRollbackInput where
  tenantId : JsString
  idempotency : IdempotencyDescriptor
  expectedThreadRevision : Int
  expectedHistorySequence : Int
  event : ThreadRolledBackEvent
  marker : ModelHistoryRollbackMarker

/-- What a rollback discards besides messages. -/
structure ThreadRollbackEffects where
  invalidatedContinuationCount : Int
  invalidatedModelState : Bool
deriving DecidableEq

/-- What a rollback returns. -/
structure CommitThreadRollbackResult where
  disposition : CommitDisposition
  state : ThreadState
  event : ThreadRolledBackEvent
  marker : ModelHistoryRollbackMarker
  invalidatedMessages : List InvalidatedMessage
  effects : ThreadRollbackEffects

/-- What the store remembers of a commit. -/
structure CommitReceipt (α : Type) where
  tenantId : JsString
  threadId : JsString
  fingerprint : JsString
  result : α

/-- An item in the queue of work. -/
inductive QueuedWork where
  /-- The execution of a run. -/
  | runExecute (tenantId runId : JsString)
  /-- Any other item. -/
  | other
deriving DecidableEq

/-- The tables of the store that threads use. -/
structure ThreadStore where
  threads : OrderedMap JsString ThreadState
  threadEvents : OrderedMap JsString (List ThreadLifecycleEvent)
  threadEventIds : List JsString
  messages : OrderedMap JsString (List MessageRecord)
  messageIds : List JsString
  messageInvalidations : OrderedMap JsString (OrderedMap Int MessageInvalidation)
  modelHistory : OrderedMap JsString (List ModelHistoryItem)
  modelHistoryAppend : InMemoryModelHistoryAppendIndex
  modelHistoryItemIds : List JsString
  threadIdempotency : OrderedMap JsString (CommitReceipt CommitThreadResult)
  threadRollbackIdempotency : OrderedMap JsString (CommitReceipt CommitThreadRollbackResult)
  threadRollbackEffects : OrderedMap JsString ThreadRollbackEffects
  threadContinuations : OrderedMap JsString ThreadLocator
  threadModelStates : List JsString
  runs : OrderedMap JsString RunState
  workItems : Queue QueuedWork

/-- The store without any entry. -/
def ThreadStore.empty : ThreadStore where
  threads := .empty
  threadEvents := .empty
  threadEventIds := []
  messages := .empty
  messageIds := []
  messageInvalidations := .empty
  modelHistory := .empty
  modelHistoryAppend := .empty
  modelHistoryItemIds := []
  threadIdempotency := .empty
  threadRollbackIdempotency := .empty
  threadRollbackEffects := .empty
  threadContinuations := .empty
  threadModelStates := []
  runs := .empty
  workItems := .empty

namespace ThreadStore

/-- The messages of a thread. -/
def messagesOf (store : ThreadStore) (threadId : JsString) : List MessageRecord :=
  (store.messages.find threadId).getD []

/-- The model history of a thread. -/
def historyOf (store : ThreadStore) (threadId : JsString) : List ModelHistoryItem :=
  (store.modelHistory.find threadId).getD []

/-- How a message of a thread was invalidated, if it was. -/
def invalidationOf (store : ThreadStore) (threadId : JsString) (messageSequence : Int) :
    Option MessageInvalidation :=
  (store.messageInvalidations.find threadId).bind (·.find messageSequence)

/-- The messages of a thread that are not invalidated. -/
def standardMessages (store : ThreadStore) (threadId : JsString) : List MessageRecord :=
  (store.messagesOf threadId).filter fun message =>
    (store.invalidationOf threadId message.sequence).isNone

/-- Append validated items to the history of a thread. -/
def appendModelHistory (threadId : JsString) (items : List ModelHistoryItem)
    (store : ThreadStore) : ThreadStore :=
  match items with
  | [] => store
  | _ :: _ => { store with
      modelHistory := store.modelHistory.set threadId (store.historyOf threadId ++ items)
      modelHistoryAppend := committed store.modelHistoryAppend items
      modelHistoryItemIds := store.modelHistoryItemIds ++ items.map (·.itemId) }

/-- Append validated events to a thread, and enter its next state. -/
def appendThreadEvents (threadId : JsString) (next : ThreadState)
    (events : List ThreadLifecycleEvent) (store : ThreadStore) : ThreadStore :=
  { store with
    threads := store.threads.set threadId next
    threadEvents := store.threadEvents.set threadId
      ((store.threadEvents.find threadId).getD [] ++ events)
    threadEventIds := store.threadEventIds ++ events.map (·.eventId) }

/-- Append validated messages to a thread. -/
def appendMessages (threadId : JsString) (messages : List MessageRecord) (store : ThreadStore) :
    ThreadStore :=
  { store with
    messages := store.messages.set threadId (store.messagesOf threadId ++ messages)
    messageIds := store.messageIds ++ messages.map (·.messageId) }

/-- Check items against the history of a thread. -/
def validateHistory (store : ThreadStore) (append : ModelHistoryAppend)
    (locator : ThreadLocator) : Checked Unit :=
  validateIndexedAppend store.modelHistoryAppend (store.historyOf locator.threadId) append locator
    fun itemId => itemId ∈ store.modelHistoryItemIds

end ThreadStore

/-- The key of a receipt. -/
def idempotencyReceiptKey (idempotency : IdempotencyDescriptor) : JsString :=
  stringifyPair (some idempotency.scope) idempotency.key

/-- The checks of the descriptor of a request. -/
def validateIdempotency (idempotency : IdempotencyDescriptor) : Checked Unit := do
  requireBoundedNonEmpty idempotency.scope 512 (runStoreError "idempotency_scope_invalid")
  requireBoundedNonEmpty idempotency.key 256 (runStoreError "idempotency_key_invalid")
  requireBoundedNonEmpty idempotency.requestFingerprint (64 * 1024)
    (runStoreError "idempotency_fingerprint_invalid")

/-- The checks of the thread from which a new one is forked. -/
def validateForkSource (threadId : JsString) (fence : ThreadForkSource) : Checked Unit := do
  requireBoundedNonEmpty fence.threadId 512 (runStoreError "thread_fork_source_id_invalid")
  requireBoundedNonEmpty fence.spaceId 256 (runStoreError "thread_fork_source_space_id_invalid")
  rejectIf (fence.threadId = threadId ∨ isPositiveInteger fence.expectedRevision = false)
    (runStoreError "thread_fork_source_invalid")

/-- The event says that the whole input was forked from a thread. -/
def forksFrom (input : CommitThreadInput) (fence : ThreadForkSource)
    (event : ThreadLifecycleEvent) : Bool :=
  match event.data with
  | .threadForked sourceThreadId throughHistorySequence throughMessageSequence _ =>
    sourceThreadId = fence.threadId && throughHistorySequence = input.history.items.length &&
      throughMessageSequence = input.messages.length
  | _ => false

/-- A fork is created in one commit, which ends with the event of the fork. -/
def validateForkShape (input : CommitThreadInput) : Checked Unit :=
  let forkEvents := input.events.filter (·.data.isForked)
  match input.sourceFence with
  | none => rejectIf (forkEvents ≠ []) (runStoreError "thread_fork_source_fence_missing")
  | some fence =>
    rejectIf (forkEvents.length ≠ 1 ∨
        input.events.getLast?.any (forksFrom input fence) = false ∨
        input.events.head?.any (·.data.isCreated) = false ∨ input.expectedRevision ≠ 0 ∨
        input.history.expectedLastSequence ≠ 0)
      (runStoreError "thread_fork_shape_invalid")

/-- The event creates the thread for another tenant. -/
def createsForOther (tenantId : JsString) (event : ThreadLifecycleEvent) : Bool :=
  match event.data with
  | .threadCreated owner _ _ _ _ => owner ≠ tenantId
  | _ => false

/-- The event rolls the thread back. -/
def isRolledBack (event : ThreadLifecycleEvent) : Bool :=
  match event.data with
  | .threadRolledBack _ => true
  | _ => false

/-- The checks of a commit of a thread. The result is the id of the thread. -/
def validateThreadCommitInput (input : CommitThreadInput) : Checked JsString := do
  requireNonEmpty input.tenantId (runStoreError "tenant_id_invalid")
  validateIdempotency input.idempotency
  rejectIf (isNonNegativeInteger input.expectedRevision = false)
    (runStoreError "expected_revision_invalid")
  match input.events with
  | [] => .error (runStoreError "thread_events_empty")
  | first :: _ => do
    rejectIf (input.events.any isRolledBack = true) (runStoreError "thread_rollback_store_required")
    requireNonEmpty first.threadId (runStoreError "thread_id_invalid")
    whenPresent input.sourceFence (validateForkSource first.threadId)
    validateForkShape input
    rejectIf (createsForOther input.tenantId first = true) (runStoreError "tenant_id_mismatch")
    return first.threadId

/-- The last event of a receipt explains its state. -/
def validTerminalEvent (result : CommitThreadResult) (event : ThreadLifecycleEvent) : Bool :=
  let state := result.state
  match event.data with
  | .threadCreated _ _ _ title _ =>
    state.status = .active && state.revision = 1 && state.title = title
  | .threadMessageAppended _ messageSequence _ _ _ =>
    state.status = .active && state.lastMessageSequence = messageSequence
  | .threadForked sourceThreadId throughHistorySequence _ _ =>
    state.status = .active && state.forkedFromThreadId = some sourceThreadId &&
      state.forkedThroughHistorySequence = some throughHistorySequence
  | .threadArchived _ => state.status = .archived && state.archivedAt = some event.occurredAt
  | .threadUnarchived _ => state.status = .active && state.archivedAt = none
  | .threadRenamed _ title => state.status ≠ .deleted && state.title = title
  | .threadRolledBack data =>
    state.status = .active && result.historyItems.getLast?.any fun marker =>
      match marker.body with
      | .rollback rollbackId threadEventId _ _ _ _ =>
        marker.itemId = data.markerItemId && threadEventId = event.eventId &&
          rollbackId = data.rollbackId && marker.sequence = data.markerHistorySequence
      | _ => false
  | .threadDeleted actorId =>
    state.status = .deleted && state.title = none && state.archivedAt = none &&
      state.deletedAt = some event.occurredAt && state.deletedByActorId = some actorId

/-- The events of a receipt are those up to the sequence of its state. -/
def receiptEventsMatch (state : ThreadState) (threadId : JsString) (count : Int) :
    Int → List ThreadLifecycleEvent → Bool
  | _, [] => true
  | index, event :: rest =>
    event.threadId = threadId && event.sequence = state.lastEventSequence - count + index + 1 &&
      receiptEventsMatch state threadId count (index + 1) rest

/-- The checks of the result that a receipt of a commit keeps. Whatever fails, the receipt is
rejected as a whole. -/
def validateThreadReceiptResult (result : CommitThreadResult) (locator : ThreadLocator) :
    Checked Unit := do
  let invalid := runStoreError "thread_idempotency_receipt_invalid"
  rejectIf (result.disposition ≠ .committed) invalid
  Except.mapError (fun _ => invalid) (do
    validateThreadState result.state
    forEach result.events validateThreadLifecycleEvent)
  rejectIf (result.state.tenantId ≠ locator.tenantId ∨
      result.state.threadId ≠ locator.threadId ∨
      receiptEventsMatch result.state locator.threadId result.events.length 0
        result.events = false ∨
      result.events.getLast?.any (fun event =>
        event.sequence = result.state.lastEventSequence &&
          event.occurredAt = result.state.updatedAt) = false) invalid
  Except.mapError (fun _ => invalid) (do
    validateThreadEvents result.events locator.threadId fun _ => false
    validateMessages result.messages result.events locator.threadId locator.tenantId fun _ => false
    forEach result.historyItems fun item => do
      validateModelHistoryItem item
      rejectIf (item.tenantId ≠ locator.tenantId ∨ item.threadId ≠ locator.threadId) invalid
    validateModelHistoryPairing result.historyItems)
  rejectIf (result.events.getLast?.any (validTerminalEvent result) = false) invalid

/-- Return what the receipt of an earlier commit keeps. -/
def replayThreadReceipt (prior : CommitReceipt CommitThreadResult) (input : CommitThreadInput) :
    Checked CommitThreadResult := do
  rejectIf (prior.tenantId ≠ input.tenantId) (runStoreError "tenant_id_mismatch")
  rejectIf (prior.fingerprint ≠ input.idempotency.requestFingerprint)
    (runStoreError "idempotency_conflict")
  validateThreadReceiptResult prior.result ⟨input.tenantId, prior.threadId⟩
  return { prior.result with disposition := .replayed }

/-- The thread is the one at the revision from which a fork starts. -/
def ThreadForkSource.isCurrent (fence : ThreadForkSource) (tenantId : JsString)
    (source : ThreadState) : Bool :=
  source.tenantId = tenantId && source.spaceId = fence.spaceId &&
    source.revision = fence.expectedRevision

/-- The checks of a commit of a thread against the store. The result is the next state of the
thread. -/
def prepareThreadCommit (store : ThreadStore) (threadId : JsString) (input : CommitThreadInput) :
    Checked ThreadState := do
  rejectIf ((store.threadRollbackIdempotency.find
      (idempotencyReceiptKey input.idempotency)).isSome = true)
    (runStoreError "idempotency_conflict")
  whenPresent input.sourceFence fun fence =>
    rejectIf ((store.threads.find fence.threadId).any (fence.isCurrent input.tenantId) = false)
      (runStoreError "thread_fork_source_revision_conflict")
  let current := store.threads.find threadId
  rejectIf (current.any (fun state => state.tenantId ≠ input.tenantId) = true)
    (runStoreError "tenant_id_mismatch")
  rejectIf (input.expectedRevision ≠ (current.map (·.revision)).getD 0)
    (runStoreError "revision_conflict")
  validateThreadEvents input.events threadId fun eventId => eventId ∈ store.threadEventIds
  let reduced ← Replay.replayFrom reduceThreadLifecycleEvent current input.events
  match reduced with
  | none => .error (runStoreError "thread_events_empty")
  | some next => do
    validateMessages input.messages input.events threadId input.tenantId fun messageId =>
      messageId ∈ store.messageIds
    store.validateHistory input.history ⟨input.tenantId, threadId⟩
    return next

/-- Commit events, messages and items of a thread. A commit that was made before is replayed. -/
def commitThread (input : CommitThreadInput) : Program Failure ThreadStore CommitThreadResult := do
  let threadId ← Program.check (validateThreadCommitInput input)
  let store ← Program.read id
  let key := idempotencyReceiptKey input.idempotency
  match store.threadIdempotency.find key with
  | some prior => Program.check (replayThreadReceipt prior input)
  | none => do
    let next ← Program.check (prepareThreadCommit store threadId input)
    let result : CommitThreadResult :=
      ⟨.committed, next, input.events, input.messages, input.history.items⟩
    Program.update (ThreadStore.appendThreadEvents threadId next input.events)
    Program.update (ThreadStore.appendMessages threadId input.messages)
    Program.update (ThreadStore.appendModelHistory threadId input.history.items)
    Program.update fun store => { store with
      threadIdempotency := store.threadIdempotency.set key
        ⟨input.tenantId, threadId, input.idempotency.requestFingerprint, result⟩ }
    return result

/-- What the commit of a run appends to its thread: the state is absent where the thread has no
new events. -/
structure ThreadAppend where
  tenantId : JsString
  threadId : JsString
  next : Option ThreadState
  events : List ThreadLifecycleEvent
  messages : List MessageRecord
  history : ModelHistoryAppend

/-- Append to a thread as the commits of runs do: the start of a turn, its completion, and the
steps between them that reach the history only. -/
def appendThread (input : ThreadAppend) : Program Failure ThreadStore Unit := do
  let store ← Program.read id
  Program.check (validateThreadEvents input.events input.threadId fun eventId =>
    eventId ∈ store.threadEventIds)
  Program.check (validateMessages input.messages input.events input.threadId input.tenantId
    fun messageId => messageId ∈ store.messageIds)
  Program.check (store.validateHistory input.history ⟨input.tenantId, input.threadId⟩)
  Program.update fun store =>
    match input.next with
    | none => store
    | some next => store.appendThreadEvents input.threadId next input.events
  Program.update (ThreadStore.appendMessages input.threadId input.messages)
  Program.update (ThreadStore.appendModelHistory input.threadId input.history.items)

/-- What a commit of a rollback is found to do. -/
structure PreparedThreadRollback where
  state : ThreadState
  invalidatedMessages : List InvalidatedMessage

/-- The checks of a rollback against a thread with its history and its messages. -/
def prepareThreadRollbackCommit (input : CommitThreadRollbackInput) (current : Option ThreadState)
    (history : List ModelHistoryItem) (messages : List MessageRecord) :
    Checked PreparedThreadRollback := do
  let threadId := input.event.threadId
  validateThreadLocator ⟨input.tenantId, threadId⟩
  validateIdempotency input.idempotency
  rejectIf (isPositiveInteger input.expectedThreadRevision = false ∨
      isNonNegativeInteger input.expectedHistorySequence = false)
    (runStoreError "thread_rollback_expected_revision_invalid")
  match current with
  | none => .error (runStoreError "thread_not_found")
  | some current => do
    rejectIf (current.tenantId ≠ input.tenantId ∨ current.threadId ≠ threadId)
      (runStoreError "thread_not_found")
    rejectIf (current.revision ≠ input.expectedThreadRevision) (runStoreError "revision_conflict")
    rejectIf ((history.getLast?.map (·.sequence)).getD 0 ≠ input.expectedHistorySequence ∨
        input.marker.historyThroughSequence ≠ input.expectedHistorySequence ∨
        input.marker.sequence ≠ input.expectedHistorySequence + 1)
      (runStoreError "model_history_sequence_conflict")
    (validateThreadRollbackArtifacts history
      ⟨input.event.boundary, input.marker, input.event⟩).mapError fun _ =>
        runStoreError "thread_rollback_artifacts_invalid"
    let state ← (reduceThreadLifecycleEvent (some current) input.event.event).mapError fun _ =>
      runStoreError "thread_rollback_event_invalid"
    let invalidatedMessages ← deriveRollbackMessageInvalidationsFromLedger history history
      messages input.tenantId input.event input.marker
    return ⟨state, invalidatedMessages⟩

/-- The checks of the messages that a receipt of a rollback names, each against the ones before
it. -/
def validateReceiptInvalidations (marker : ModelHistoryRollbackMarker)
    (event : ThreadRolledBackEvent) :
    List JsString → List Int → List Int → List InvalidatedMessage → Checked Unit
  | _, _, _, [] => .ok ()
  | messageIds, messageSequences, historySequences, invalidated :: rest => do
    let invalidation := invalidated.invalidation
    rejectIf (invalidated.messageId.isBlank = true ∨
        isPositiveInteger invalidated.messageSequence = false ∨
        invalidation.rollbackId ≠ marker.rollbackId ∨
        invalidation.markerItemId ≠ marker.itemId ∨
        invalidation.invalidatedAt ≠ event.occurredAt ∨
        isSafeInteger invalidation.historySequence = false ∨
        invalidation.historySequence < marker.historyFromSequence.getD maxSafeInteger ∨
        marker.historyThroughSequence < invalidation.historySequence ∨
        invalidated.messageId ∈ messageIds ∨
        invalidated.messageSequence ∈ messageSequences ∨
        invalidation.historySequence ∈ historySequences)
      (runStoreError "thread_rollback_receipt_invalid")
    validateReceiptInvalidations marker event (invalidated.messageId :: messageIds)
      (invalidated.messageSequence :: messageSequences)
      (invalidation.historySequence :: historySequences) rest

/-- The checks of the result that a receipt of a rollback keeps. -/
def validateThreadRollbackReceiptResult (result : CommitThreadRollbackResult)
    (locator : ThreadLocator) : Checked Unit := do
  let invalid := runStoreError "thread_rollback_receipt_invalid"
  let state := result.state
  let event := result.event
  let marker := result.marker
  rejectIf (result.disposition ≠ .committed ∨
    isNonNegativeInteger result.effects.invalidatedContinuationCount = false) invalid
  Except.mapError (fun _ => invalid) (do
    validateThreadState state
    validateThreadLifecycleEvent event.event
    validateModelHistoryItem marker.item)
  rejectIf (state.tenantId ≠ locator.tenantId ∨ state.threadId ≠ locator.threadId ∨
      state.status ≠ .active ∨ event.threadId ≠ locator.threadId ∨
      event.sequence ≠ state.lastEventSequence ∨ event.occurredAt ≠ state.updatedAt ∨
      marker.tenantId ≠ locator.tenantId ∨ marker.threadId ≠ locator.threadId ∨
      marker.itemId ≠ event.data.markerItemId ∨ marker.threadEventId ≠ event.eventId ∨
      marker.rollbackId ≠ event.data.rollbackId ∨
      marker.requestedTurns ≠ event.data.requestedTurns ∨
      marker.removedTurns ≠ event.data.removedTurns ∨
      marker.historyFromSequence ≠ event.data.historyFromSequence ∨
      marker.historyThroughSequence ≠ event.data.historyThroughSequence ∨
      marker.sequence ≠ event.data.markerHistorySequence) invalid
  validateReceiptInvalidations marker event [] [] [] result.invalidatedMessages

/-- Invalidated messages as one JSON text. -/
def invalidationsText (invalidated : List InvalidatedMessage) : JsString :=
  stableJson (.array (invalidated.map (·.json)))

/-- The receipt of a rollback agrees with what the store holds of it. -/
def validateThreadRollbackReceiptAuthority (result : CommitThreadRollbackResult)
    (history : List ModelHistoryItem) (messages : List MessageRecord)
    (storedInvalidatedMessages : List InvalidatedMessage) (effects : ThreadRollbackEffects) :
    Checked Unit := do
  let invalid := runStoreError "thread_rollback_receipt_authority_invalid"
  let markerIndex := (result.marker.sequence - 1).toNat
  rejectIf (result.marker.sequence < 1 ∨ (history[markerIndex]?).any (fun storedMarker =>
    stableJson storedMarker.json = stableJson result.marker.item.json) = false) invalid
  let historyBeforeMarker := history.take markerIndex
  (validateThreadRollbackArtifacts historyBeforeMarker
    ⟨result.event.boundary, result.marker, result.event⟩).mapError fun _ => invalid
  let expected ← deriveRollbackMessageInvalidationsFromLedger historyBeforeMarker history messages
    result.state.tenantId result.event result.marker
  rejectIf (invalidationsText result.invalidatedMessages ≠ invalidationsText expected ∨
      invalidationsText storedInvalidatedMessages ≠ invalidationsText expected ∨
      result.effects ≠ effects) invalid

namespace ThreadStore

/-- The messages of a thread that a rollback invalidated. -/
def invalidatedMessages (store : ThreadStore) (threadId rollbackId : JsString) :
    List InvalidatedMessage :=
  (store.messagesOf threadId).filterMap fun message =>
    (store.invalidationOf threadId message.sequence).bind fun invalidation =>
      if invalidation.rollbackId = rollbackId then
        some ⟨message.messageId, message.sequence, invalidation⟩
      else none

/-- The key of the effects of a rollback. -/
def rollbackEffectsKey (tenantId threadId rollbackId : JsString) : JsString :=
  stableJson (.array [.string tenantId, .string threadId, .string rollbackId])

/-- The receipt of a rollback agrees with what the store holds of it. -/
def validateRollbackReceiptAuthority (store : ThreadStore) (result : CommitThreadRollbackResult) :
    Checked Unit :=
  let threadId := result.state.threadId
  match store.threadRollbackEffects.find
    (rollbackEffectsKey result.state.tenantId threadId result.marker.rollbackId) with
  | none => .error (runStoreError "thread_rollback_receipt_authority_invalid")
  | some effects =>
    validateThreadRollbackReceiptAuthority result (store.historyOf threadId)
      (store.messagesOf threadId)
      (store.invalidatedMessages threadId result.marker.rollbackId) effects

/-- The runs of a thread that have not ended. -/
def activeRuns (store : ThreadStore) (tenantId threadId : JsString) : List RunState :=
  store.runs.values.filter fun run =>
    run.tenantId = tenantId && run.threadId = threadId && !isTerminal run.status

/-- The executions of runs of a thread that wait or are under way. -/
def unsettledWork (store : ThreadStore) (tenantId threadId : JsString) :
    List (QueueRecord QueuedWork) :=
  store.workItems.values.filter fun record =>
    record.status ≠ .settled && match record.item with
      | .runExecute _ runId => (store.runs.find runId).any fun run =>
        run.tenantId = tenantId && run.threadId = threadId
      | .other => false

/-- What a rollback of a thread discards besides messages. -/
def rollbackEffects (store : ThreadStore) (locator : ThreadLocator) : ThreadRollbackEffects where
  invalidatedContinuationCount :=
    (store.threadContinuations.values.filter (· = locator)).length
  invalidatedModelState :=
    stringifyPair (some locator.tenantId) locator.threadId ∈ store.threadModelStates

/-- Enter invalidations of messages of a thread. -/
def invalidate (threadId : JsString) (invalidated : List InvalidatedMessage)
    (store : ThreadStore) : ThreadStore :=
  { store with
    messageInvalidations := store.messageInvalidations.set threadId
      (((store.messageInvalidations.find threadId).getD .empty).setAll
        (invalidated.map fun message => (message.messageSequence, message.invalidation))) }

/-- Drop the continuations and the model state of a thread. -/
def discardContinuations (locator : ThreadLocator) (store : ThreadStore) : ThreadStore :=
  { store with
    threadContinuations := (store.threadContinuations.entries.filter (·.2 = locator)).foldl
      (fun continuations entry => continuations.erase entry.1) store.threadContinuations
    threadModelStates := store.threadModelStates.filter
      (· ≠ stringifyPair (some locator.tenantId) locator.threadId) }

end ThreadStore

/-- Return what the receipt of an earlier rollback keeps. -/
def replayThreadRollbackReceipt (store : ThreadStore)
    (prior : CommitReceipt CommitThreadRollbackResult) (input : CommitThreadRollbackInput) :
    Checked CommitThreadRollbackResult := do
  rejectIf (prior.tenantId ≠ input.tenantId) (runStoreError "tenant_id_mismatch")
  rejectIf (prior.fingerprint ≠ input.idempotency.requestFingerprint)
    (runStoreError "idempotency_conflict")
  validateThreadRollbackReceiptResult prior.result ⟨input.tenantId, prior.threadId⟩
  store.validateRollbackReceiptAuthority prior.result
  return { prior.result with disposition := .replayed }

/-- A message has been invalidated before. -/
def ThreadStore.alreadyInvalidated (store : ThreadStore) (threadId : JsString)
    (invalidated : List InvalidatedMessage) : Bool :=
  invalidated.any fun message => (store.invalidationOf threadId message.messageSequence).isSome

/-- The checks of a rollback against the store. -/
def prepareThreadRollback (store : ThreadStore) (input : CommitThreadRollbackInput) :
    Checked PreparedThreadRollback := do
  let threadId := input.event.threadId
  rejectIf ((store.threadIdempotency.find
      (idempotencyReceiptKey input.idempotency)).isSome = true)
    (runStoreError "idempotency_conflict")
  let activeRuns := store.activeRuns input.tenantId threadId
  rejectIf (1 < activeRuns.length) (runStoreError "thread_active_run_invariant")
  rejectIf (activeRuns.length ≠ 0) (runStoreError "thread_active_run_conflict")
  rejectIf ((store.unsettledWork input.tenantId threadId).length ≠ 0)
    (runStoreError "thread_active_work_conflict")
  let prepared ← prepareThreadRollbackCommit input (store.threads.find threadId)
    (store.historyOf threadId) (store.messagesOf threadId)
  validateThreadEvents [input.event.event] threadId fun eventId =>
    eventId ∈ store.threadEventIds
  store.validateHistory ⟨input.expectedHistorySequence, [input.marker.item]⟩
    ⟨input.tenantId, threadId⟩
  rejectIf (store.alreadyInvalidated threadId prepared.invalidatedMessages = true)
    (runStoreError "message_already_invalidated")
  return prepared

/-- Commit a rollback of a thread. A rollback that was committed before is replayed. -/
def commitThreadRollback (input : CommitThreadRollbackInput) :
    Program Failure ThreadStore CommitThreadRollbackResult := do
  let threadId := input.event.threadId
  let locator : ThreadLocator := ⟨input.tenantId, threadId⟩
  let key := idempotencyReceiptKey input.idempotency
  let store ← Program.read id
  match store.threadRollbackIdempotency.find key with
  | some prior => Program.check (replayThreadRollbackReceipt store prior input)
  | none => do
    let prepared ← Program.check (prepareThreadRollback store input)
    let result : CommitThreadRollbackResult := ⟨.committed, prepared.state, input.event,
      input.marker, prepared.invalidatedMessages, store.rollbackEffects locator⟩
    Program.update (ThreadStore.appendThreadEvents threadId prepared.state [input.event.event])
    Program.update (ThreadStore.appendModelHistory threadId [input.marker.item])
    Program.update (ThreadStore.invalidate threadId prepared.invalidatedMessages)
    Program.update (ThreadStore.discardContinuations locator)
    Program.update fun store => { store with
      threadRollbackEffects := store.threadRollbackEffects.set
        (ThreadStore.rollbackEffectsKey input.tenantId threadId input.marker.rollbackId)
        result.effects
      threadRollbackIdempotency := store.threadRollbackIdempotency.set key
        ⟨input.tenantId, threadId, input.idempotency.requestFingerprint, result⟩ }
    return result

/-- An operation on the threads of the store. What commits append to a history has no rollback
marker in it: a marker is written by a rollback. -/
inductive ThreadOperation where
  /-- A commit of a thread. -/
  | commitThread (input : CommitThreadInput)
      (unmarked : ∀ item ∈ input.history.items, item.isRollback = false)
  /-- What the commit of a run appends to its thread. -/
  | appendThread (input : ThreadAppend)
      (unmarked : ∀ item ∈ input.history.items, item.isRollback = false)
  /-- A rollback. -/
  | commitThreadRollback (input : CommitThreadRollbackInput)
  /-- Whatever changes in the tables of runs, work, continuations and model states. -/
  | elsewhere (runs : OrderedMap JsString RunState) (workItems : Queue QueuedWork)
      (threadContinuations : OrderedMap JsString ThreadLocator)
      (threadModelStates : List JsString)

/-- What an operation on threads returns. -/
inductive ThreadOutcome where
  | committed (result : CommitThreadResult)
  | appended
  | rolledBack (result : CommitThreadRollbackResult)
  | elsewhere

/-- Perform an operation on threads. -/
def performThreadOperation : ThreadOperation → Program Failure ThreadStore ThreadOutcome
  | .commitThread input _ => do
    let result ← commitThread input
    return .committed result
  | .appendThread input _ => do
    appendThread input
    return .appended
  | .commitThreadRollback input => do
    let result ← commitThreadRollback input
    return .rolledBack result
  | .elsewhere runs workItems threadContinuations threadModelStates => do
    Program.update fun store => { store with
      runs := runs
      workItems := workItems
      threadContinuations := threadContinuations
      threadModelStates := threadModelStates }
    return .elsewhere

end Crewon.Store
