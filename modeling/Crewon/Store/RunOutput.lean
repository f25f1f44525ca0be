import Crewon.Domain.RunLifecycle
import Crewon.Store.ThreadStore

/-!
# Appending the output of a run

A worker sends the output of a run in batches, and sends a batch again when it does not know
whether it arrived. Every entry names a segment and a number in it. The store keeps a receipt for
every entry it has taken in, and for every segment the largest number among them; of a batch it
replays the entries with a receipt and appends those behind them.
-/

namespace Crewon.Store

open Crewon.Js Crewon.Checked Crewon.Domain Crewon.Lib

/-- The two kinds of batches. -/
inductive RunStreamMode where
  | output
  | progress
deriving DecidableEq

/-- An event to be appended. Its sequence is a proposal. -/
structure RunStreamAppendEntry where
  event : RunLifecycleEvent
  idempotency : IdempotencyDescriptor
deriving DecidableEq

/-- How the readers of the outbox are told. -/
structure RunStreamNotification where
  messageId : JsString
  createdAt : JsString
deriving DecidableEq

/-- A batch. -/
structure AppendRunStreamEventsInput where
  tenantId : JsString
  runId : JsString
  lease : WorkItemLeaseInput
  expectedRevision : Int
  entries : List RunStreamAppendEntry
  notification : RunStreamNotification

/-- What a batch returns. -/
structure AppendRunStreamEventsResult where
  state : RunState
  appendedEvents : List RunLifecycleEvent
  replayedCount : Nat

/-- The receipt of an entry. -/
structure RunOutputReceipt where
  fingerprint : JsString
  runSequence : Int
  eventId : JsString
deriving DecidableEq

/-- The range of events that a message announces. -/
structure RunEventRange where
  fromSequence : Int
  throughSequence : Int
  firstEventId : JsString
  lastEventId : JsString
deriving DecidableEq

/-- A message about the events of a run. -/
structure RunEventsMessage where
  messageId : JsString
  tenantId : JsString
  runId : JsString
  topic : JsString
  payload : RunEventRange
  createdAt : JsString
deriving DecidableEq

/-- What the store remembers of a commit of a run, as far as a batch reads it. -/
structure RunCommitReceipt where
  tenantId : JsString
  fingerprint : JsString
  state : RunState
  events : List RunLifecycleEvent

/-- The segment that a stream event belongs to, with its number there. -/
def streamSource : RunEventData → Option (JsString × Int)
  | .modelOutputDelta segmentId segmentSequence _ => some (segmentId, segmentSequence)
  | .segmentStarted segmentId segmentSequence _ => some (segmentId, segmentSequence)
  | .usageRecorded segmentId segmentSequence _ => some (segmentId, segmentSequence)
  | _ => none

/-- The events that a kind of batch carries. -/
def RunStreamMode.carries : RunStreamMode → RunEventData → Bool
  | .output, .modelOutputDelta .. => true
  | .progress, .segmentStarted .. => true
  | .progress, .usageRecorded .. => true
  | _, _ => false

/-- The data of a stream event as the fields of its JSON. -/
def streamDataFields : RunEventData → List (String × JsonValue)
  | .modelOutputDelta segmentId segmentSequence delta =>
    [("segmentId", .string segmentId), ("segmentSequence", .number segmentSequence),
      ("delta", .string delta)]
  | .segmentStarted segmentId segmentSequence attempt =>
    [("segmentId", .string segmentId), ("segmentSequence", .number segmentSequence),
      ("attempt", .number attempt)]
  | .usageRecorded segmentId segmentSequence usage =>
    [("segmentId", .string segmentId), ("segmentSequence", .number segmentSequence),
      ("inputTokens", .number usage.inputTokens)] ++
      JsonValue.optionalField "cachedInputTokens" .number (usage.cachedInputTokens.map some) ++
      JsonValue.optionalField "cachedInputTokensReported" .bool
        (usage.cachedInputTokensReported.map some) ++
      [("outputTokens", .number usage.outputTokens), ("totalTokens", .number usage.totalTokens)]
  | _ => []

/-- A stream event as JSON. -/
def streamEventJson (event : RunLifecycleEvent) : JsonValue :=
  .object [
    ("schemaVersion", .string event.schemaVersion),
    ("type", .string (js event.data.type)),
    ("identity", .object [("runId", .string event.runId)]),
    ("eventId", .string event.eventId),
    ("sequence", .number event.sequence),
    ("occurredAt", .string event.occurredAt),
    ("data", .object (streamDataFields event.data))]

/-- A descriptor as JSON. -/
def IdempotencyDescriptor.json (idempotency : IdempotencyDescriptor) : JsonValue :=
  .object [
    ("scope", .string idempotency.scope),
    ("key", .string idempotency.key),
    ("requestFingerprint", .string idempotency.requestFingerprint)]

/-- An entry as JSON. -/
def RunStreamAppendEntry.json (entry : RunStreamAppendEntry) : JsonValue :=
  .object [("event", streamEventJson entry.event), ("idempotency", entry.idempotency.json)]

/-- A batch as JSON. -/
def AppendRunStreamEventsInput.json (input : AppendRunStreamEventsInput) : JsonValue :=
  .object [
    ("tenantId", .string input.tenantId),
    ("runId", .string input.runId),
    ("lease", .object [
      ("workItemId", .string input.lease.workItemId),
      ("ownerId", .string input.lease.lease.ownerId),
      ("leaseId", .string input.lease.lease.leaseId),
      ("leaseEpoch", .number input.lease.lease.leaseEpoch)]),
    ("expectedRevision", .number input.expectedRevision),
    ("entries", .array (input.entries.map (·.json))),
    ("notification", .object [
      ("messageId", .string input.notification.messageId),
      ("createdAt", .string input.notification.createdAt)])]

/-- A message about the events of a run as JSON. -/
def RunEventsMessage.json (message : RunEventsMessage) : JsonValue :=
  .object [
    ("messageId", .string message.messageId),
    ("createdAt", .string message.createdAt),
    ("tenantId", .string message.tenantId),
    ("runId", .string message.runId),
    ("topic", .string message.topic),
    ("payload", .object [
      ("schemaVersion", .string (js "crewon.run-event-range.v0")),
      ("fromSequence", .number message.payload.fromSequence),
      ("throughSequence", .number message.payload.throughSequence),
      ("firstEventId", .string message.payload.firstEventId),
      ("lastEventId", .string message.payload.lastEventId)])]

/-- The checks of the entries of a batch, each against the number before it. -/
def validateRunOutputEntries (runId segmentId : JsString) (mode : RunStreamMode) :
    Int → List RunStreamAppendEntry → Checked Unit
  | _, [] => .ok ()
  | lastSourceSequence, entry :: rest =>
    match streamSource entry.event.data with
    | none => .error (runStoreError "run_output_batch_invalid")
    | some (entrySegmentId, segmentSequence) => do
      rejectIf (mode.carries entry.event.data = false ∨ entry.event.runId ≠ runId ∨
          entrySegmentId ≠ segmentId ∨ isSafeInteger segmentSequence = false ∨
          segmentSequence ≤ lastSourceSequence ∨ entry.idempotency.scope.length = 0 ∨
          entry.idempotency.key.length = 0 ∨ entry.idempotency.requestFingerprint.length = 0)
        (runStoreError "run_output_batch_invalid")
      validateRunOutputEntries runId segmentId mode segmentSequence rest

/-- The segment of a batch: that of its first entry. -/
def batchSegment (input : AppendRunStreamEventsInput) : JsString :=
  ((input.entries.head?.bind fun entry => streamSource entry.event.data).map Prod.fst).getD .empty

/-- What a batch is found to do. -/
structure RunOutputAppendPlan where
  state : RunState
  appendedEvents : List RunLifecycleEvent
  replayedCount : Nat
  receipts : List RunOutputReceipt
  outbox : Option RunEventsMessage

section Hashing

variable (hash : JsString → JsString)

/-- The fingerprint of an entry. -/
def runOutputFingerprint (entry : RunStreamAppendEntry) : JsString :=
  js "crewon.run-output-fingerprint.v1:sha256:" ++ hash (stableJson (.object [
    ("type", .string (js entry.event.data.type)),
    ("identity", .object [("runId", .string entry.event.runId)]),
    ("data", .object (streamDataFields entry.event.data)),
    ("idempotency", entry.idempotency.json)]))

/-- The receipt of an entry whose event was committed on its own before there were batches. -/
def legacyRunOutputReceipt (input : AppendRunStreamEventsInput) (entry : RunStreamAppendEntry)
    (prior : Option RunCommitReceipt) : Checked (Option RunOutputReceipt) :=
  match prior with
  | none => .ok none
  | some prior => do
    rejectIf (prior.tenantId ≠ input.tenantId ∨ prior.state.runId ≠ input.runId)
      (runStoreError "tenant_id_mismatch")
    match prior.events with
    | [event] => do
      rejectIf (prior.fingerprint ≠ entry.idempotency.requestFingerprint ∨
          prior.state.tenantId ≠ input.tenantId ∨ event.runId ≠ input.runId ∨
          event.data.type ≠ entry.event.data.type ∨
          stableJson (.object (streamDataFields event.data)) ≠
            stableJson (.object (streamDataFields entry.event.data)) ∨
          isPositiveInteger event.sequence = false)
        (runStoreError "idempotency_conflict")
      return some ⟨runOutputFingerprint hash entry, event.sequence, event.eventId⟩
    | _ => .error (runStoreError "idempotency_conflict")

end Hashing

/-- The tables of the store that batches use, and the model histories beside them. -/
structure RunOutputStore where
  runs : OrderedMap JsString RunState
  events : OrderedMap JsString (List RunLifecycleEvent)
  eventIds : List JsString
  runOutputReceipts : OrderedMap JsString RunOutputReceipt
  runOutputHeads : OrderedMap JsString Int
  idempotency : OrderedMap JsString RunCommitReceipt
  outbox : Queue RunEventsMessage
  retiredOutboxIds : List JsString
  workItems : Queue QueuedWork
  modelHistory : OrderedMap JsString (List ModelHistoryItem)

/-- The store without any entry. -/
def RunOutputStore.empty : RunOutputStore where
  runs := .empty
  events := .empty
  eventIds := []
  runOutputReceipts := .empty
  runOutputHeads := .empty
  idempotency := .empty
  outbox := .empty
  retiredOutboxIds := []
  workItems := .empty
  modelHistory := .empty

/-- The events of a run. -/
def RunOutputStore.eventsOf (store : RunOutputStore) (runId : JsString) :
    List RunLifecycleEvent :=
  (store.events.find runId).getD []

/-- The key of the receipt of an entry. -/
def runOutputKey (tenantId runId : JsString) (entry : RunStreamAppendEntry) : JsString :=
  let origin := (streamSource entry.event.data).getD (.empty, 0)
  stableJson (.array [.string tenantId, .string runId, .string origin.1, .number origin.2])

/-- The key of the largest number of a segment. -/
def runOutputHeadKey (tenantId runId segmentId : JsString) : JsString :=
  stableJson (.array [.string tenantId, .string runId, .string segmentId])

/-- The largest number of a segment. -/
def RunOutputStore.headOf (store : RunOutputStore) (tenantId runId segmentId : JsString) : Int :=
  (store.runOutputHeads.find (runOutputHeadKey tenantId runId segmentId)).getD 0

/-- The receipt of an entry, from a batch or from a commit of its own. -/
def RunOutputStore.priorReceipt (hash : JsString → JsString) (store : RunOutputStore)
    (input : AppendRunStreamEventsInput) (entry : RunStreamAppendEntry) :
    Checked (Option RunOutputReceipt) :=
  match store.runOutputReceipts.find (runOutputKey input.tenantId input.runId entry) with
  | some compact => .ok (some compact)
  | none => legacyRunOutputReceipt hash input entry
      (store.idempotency.find (idempotencyReceiptKey entry.idempotency))

/-- The receipts of entries in order. -/
def RunOutputStore.priorReceipts (hash : JsString → JsString) (store : RunOutputStore)
    (input : AppendRunStreamEventsInput) :
    List RunStreamAppendEntry → Checked (List (Option RunOutputReceipt))
  | [] => .ok []
  | entry :: rest => do
    let prior ← store.priorReceipt hash input entry
    let later ← store.priorReceipts hash input rest
    return prior :: later

/-- Store appended events with the state they lead to and the message about them. -/
def RunOutputStore.storeEvents (runId : JsString) (state : RunState)
    (appendedEvents : List RunLifecycleEvent)
    (record : Option (JsString × QueueRecord RunEventsMessage)) (store : RunOutputStore) :
    RunOutputStore :=
  match appendedEvents with
  | [] => store
  | _ :: _ => { store with
      runs := store.runs.set runId state
      events := store.events.set runId (store.eventsOf runId ++ appendedEvents)
      eventIds := store.eventIds ++ appendedEvents.map (·.eventId)
      outbox := store.outbox.setAll record.toList }

/-- Store the receipts of a batch, and raise the largest number of its segment. -/
def RunOutputStore.storeReceipts (input : AppendRunStreamEventsInput)
    (receipts : List RunOutputReceipt) (store : RunOutputStore) : RunOutputStore :=
  let lastSegmentSequence := ((input.entries.getLast?.bind fun entry =>
    streamSource entry.event.data).map Prod.snd).getD 0
  { store with
    runOutputReceipts := store.runOutputReceipts.setAll
      ((input.entries.map (runOutputKey input.tenantId input.runId)).zip receipts)
    runOutputHeads := store.runOutputHeads.set
      (runOutputHeadKey input.tenantId input.runId (batchSegment input))
      (max (store.headOf input.tenantId input.runId (batchSegment input)) lastSegmentSequence) }

section Appending

-- the digest of a text, and the host's reading of a date text in any format
variable (hash : JsString → JsString) (parse : JsString → Option Int)

/-- An operation on the runs of the store. Output gets into a run by batches: what another commit
records of a run comes from no segment. -/
inductive RunOutputOperation where
  /-- A batch. -/
  | append (input : AppendRunStreamEventsInput) (mode : RunStreamMode) (reading : Int)
  /-- Another commit. -/
  | commit (runId : JsString) (events : List RunLifecycleEvent)
      (sourceless : ∀ event ∈ events, streamSource event.data = none)
  /-- Whatever changes in the tables of receipts of commits, messages, work and histories. -/
  | elsewhere (idempotency : OrderedMap JsString RunCommitReceipt)
      (outbox : Queue RunEventsMessage) (retiredOutboxIds : List JsString)
      (workItems : Queue QueuedWork) (modelHistory : OrderedMap JsString (List ModelHistoryItem))

/-- What an operation on runs returns. -/
inductive RunOutputOutcome where
  | appended (result : AppendRunStreamEventsResult)
  | committed
  | elsewhere

end Appending

end Crewon.Store
