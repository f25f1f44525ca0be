import Crewon.Domain.ThreadRollback
import Crewon.Js.StableJson
import Crewon.Store.ModelHistoryAppend

/-!
# The messages of a thread

A thread shows its messages to the user. Every message has an item in the model history of the
thread, and the i-th message belongs to the i-th such item. A rollback does not remove messages:
it invalidates those whose items it takes out of effect.
-/

namespace Crewon.Store

open Crewon.Js Crewon.Checked Crewon.Domain Crewon.Lib

/-- Which rollback invalidated a message. -/
structure MessageInvalidation where
  rollbackId : JsString
  markerItemId : JsString
  historySequence : Int
  invalidatedAt : JsString
deriving DecidableEq

/-- A message of a thread. In a field that may be missing, `none` is the missing field and
`some none` is the null. -/
structure MessageRecord where
  messageId : JsString
  tenantId : JsString
  threadId : JsString
  sequence : Int
  role : MessageRole
  content : JsString
  contentDigest : JsString
  createdAt : JsString
  origin : Option (Option AutomationInvocationOrigin)
  proposedPlan : Option (Option ProposedPlan)
  invalidation : Option (Option MessageInvalidation)
deriving DecidableEq

/-- A message that a rollback invalidates. -/
structure InvalidatedMessage where
  messageId : JsString
  messageSequence : Int
  invalidation : MessageInvalidation
deriving DecidableEq

/-- An invalidation as JSON. -/
def MessageInvalidation.json (invalidation : MessageInvalidation) : JsonValue :=
  .object [
    ("rollbackId", .string invalidation.rollbackId),
    ("markerItemId", .string invalidation.markerItemId),
    ("historySequence", .number invalidation.historySequence),
    ("invalidatedAt", .string invalidation.invalidatedAt)]

/-- A message as JSON. -/
def MessageRecord.json (message : MessageRecord) : JsonValue :=
  .object ([
    ("messageId", .string message.messageId),
    ("tenantId", .string message.tenantId),
    ("threadId", .string message.threadId),
    ("sequence", .number message.sequence),
    ("role", .string (message.role.text)),
    ("content", .string message.content),
    ("contentDigest", .string message.contentDigest),
    ("createdAt", .string message.createdAt)] ++
    JsonValue.optionalField "origin" AutomationInvocationOrigin.json message.origin ++
    JsonValue.optionalField "proposedPlan" ProposedPlan.json message.proposedPlan ++
    JsonValue.optionalField "invalidation" MessageInvalidation.json message.invalidation)

/-- An invalidated message as JSON. -/
def InvalidatedMessage.json (invalidated : InvalidatedMessage) : JsonValue :=
  .object [
    ("messageId", .string invalidated.messageId),
    ("messageSequence", .number invalidated.messageSequence),
    ("invalidation", invalidated.invalidation.json)]

/-- The longest event, and the longest message, as JSON. -/
def maxThreadEventBytes : Nat := 64 * 1024

/-- The longest text of a message. -/
def maxMessageBytes : Nat := 32 * 1024

/-- The longest instruction of an automation. -/
def maxAutomationInstructionBytes : Nat := 9999

/-- The checks of events of a thread, each against the ones before it. -/
def validateThreadEventsFrom (threadId : JsString) (eventIdExists : JsString → Bool) :
    List JsString → List ThreadLifecycleEvent → Checked Unit
  | _, [] => .ok ()
  | eventIds, event :: rest => do
    requireNonEmpty event.eventId (runStoreError "thread_event_id_invalid")
    rejectIf (event.threadId ≠ threadId) (runStoreError "thread_id_mismatch")
    rejectIf (event.eventId ∈ eventIds ∨ eventIdExists event.eventId = true)
      (runStoreError "thread_event_id_conflict")
    rejectIf (maxThreadEventBytes < event.json.encodedSize)
      (runStoreError "thread_event_too_large")
    validateThreadEventsFrom threadId eventIdExists (event.eventId :: eventIds) rest

/-- The checks of new events of a thread. -/
def validateThreadEvents (events : List ThreadLifecycleEvent) (threadId : JsString)
    (eventIdExists : JsString → Bool) : Checked Unit :=
  validateThreadEventsFrom threadId eventIdExists [] events

/-- The checks of the origin of a message. -/
def validateMessageOrigin (message : MessageRecord) (origin : AutomationInvocationOrigin) :
    Checked Unit := do
  let parsed ← (parseAutomationInvocationOrigin origin).mapError fun _ =>
    runStoreError "message_origin_invalid"
  rejectIf (message.role ≠ .user ∨ parsed.binding.instructionDigest ≠ message.contentDigest)
    (runStoreError "message_automation_origin_mismatch")
  rejectIf (message.content.fitsBytes maxAutomationInstructionBytes = false)
    (runStoreError "message_automation_content_too_large")

/-- The checks of the plan that a message proposes. -/
def validateMessageProposedPlan (message : MessageRecord) : Checked Unit :=
  whenPresent (message.proposedPlan.bind id) fun proposedPlan => do
    (validateProposedPlan proposedPlan).mapError fun _ => runStoreError "proposed_plan_invalid"
    rejectIf (message.role ≠ .assistant ∨ proposedPlan.tenantId ≠ message.tenantId ∨
        proposedPlan.threadId ≠ message.threadId ∨
        proposedPlan.messageId ≠ message.messageId ∨
        proposedPlan.content ≠ message.content ∨
        proposedPlan.contentDigest ≠ message.contentDigest ∨
        proposedPlan.createdAt ≠ message.createdAt)
      (runStoreError "proposed_plan_message_mismatch")

/-- The event that announces a message repeats it. -/
def announces (event : ThreadLifecycleEvent) (message : MessageRecord) : Bool :=
  match event.data with
  | .threadMessageAppended messageId messageSequence role contentDigest _ =>
    messageId = message.messageId && messageSequence = message.sequence &&
      role = message.role && contentDigest = message.contentDigest &&
      event.occurredAt = message.createdAt
  | _ => false

/-- The checks of messages with the events that announce them, each against the ones before
it. -/
def validateMessagesFrom (threadId tenantId : JsString) (messageIdExists : JsString → Bool) :
    List JsString → List ThreadLifecycleEvent → List MessageRecord → Checked Unit
  | _, _, [] => .ok ()
  | messageIds, appended, message :: rest => do
    rejectIf (message.invalidation ≠ none)
      (runStoreError "message_invalidation_write_forbidden")
    rejectIf (message.origin = none) (runStoreError "message_origin_missing")
    requireNonEmpty message.messageId (runStoreError "message_id_invalid")
    requireNonEmpty message.createdAt (runStoreError "message_created_at_invalid")
    requireNonEmpty message.content (runStoreError "message_content_invalid")
    rejectIf (message.threadId ≠ threadId) (runStoreError "message_thread_id_mismatch")
    rejectIf (message.tenantId ≠ tenantId) (runStoreError "message_tenant_id_mismatch")
    requirePositiveInteger message.sequence (runStoreError "message_sequence_invalid")
    rejectIf (isDigest message.contentDigest = false)
      (runStoreError "message_content_digest_invalid")
    whenPresent (message.origin.bind id) (validateMessageOrigin message)
    rejectIf (message.content.fitsBytes maxMessageBytes = false)
      (runStoreError "message_content_too_large")
    validateMessageProposedPlan message
    rejectIf (message.messageId ∈ messageIds ∨ messageIdExists message.messageId = true)
      (runStoreError "message_id_conflict")
    rejectIf ((appended.head?.any (announces · message)) = false)
      (runStoreError "message_event_mismatch")
    rejectIf (maxThreadEventBytes < message.json.encodedSize) (runStoreError "message_too_large")
    validateMessagesFrom threadId tenantId messageIdExists (message.messageId :: messageIds)
      appended.tail rest

/-- The checks of new messages of a thread. -/
def validateMessages (messages : List MessageRecord) (events : List ThreadLifecycleEvent)
    (threadId tenantId : JsString) (messageIdExists : JsString → Bool) : Checked Unit := do
  let appended := events.filter (·.data.isMessage)
  rejectIf (messages.length ≠ appended.length) (runStoreError "message_event_count_mismatch")
  validateMessagesFrom threadId tenantId messageIdExists [] appended messages

/-- The message came from where its item says. -/
def messageOriginMatchesHistory (message : MessageRecord) (source : ModelHistoryMessageSource)
    (historyOrigin : Option AutomationInvocationOrigin) : Bool :=
  match message.origin.bind id with
  | none => source ≠ .automationInvocation
  | some origin =>
    source = .automationInvocation &&
      stableJson origin.json = stableJson (.ofOption AutomationInvocationOrigin.json historyOrigin)

/-- The message at a place of its thread is the one of an item. -/
def messageMatchesHistory (tenantId threadId : JsString) (index : Nat) (message : MessageRecord)
    (historyItem : ModelHistoryItem) : Bool :=
  match historyItem.body with
  | .message role source content contentDigest origin =>
    message.tenantId = tenantId && message.threadId = threadId &&
      message.sequence = index + 1 && message.role.history = role &&
      message.content = content && message.contentDigest = contentDigest &&
      message.createdAt = historyItem.createdAt &&
      messageOriginMatchesHistory message source origin
  | _ => false

/-- Pair the messages from a place on with their items. -/
def pairMessages (tenantId threadId : JsString) : Nat → List MessageRecord →
    List ModelHistoryItem → Checked (List (MessageRecord × ModelHistoryItem))
  | _, [], _ => .ok []
  | _, _ :: _, [] => .error (runStoreError "message_history_correlation_invalid")
  | index, message :: messages, historyItem :: historyMessages => do
    rejectIf (messageMatchesHistory tenantId threadId index message historyItem = false)
      (runStoreError "message_history_correlation_invalid")
    let rest ← pairMessages tenantId threadId (index + 1) messages historyMessages
    return (message, historyItem) :: rest

/-- Pair the messages of a thread with the items that carry them. -/
def correlateMessages (tenantId threadId : JsString) (ledgerHistory : List ModelHistoryItem)
    (messages : List MessageRecord) : Checked (List (MessageRecord × ModelHistoryItem)) := do
  let historyMessages := ledgerHistory.filter isModelHistoryMessageBacked
  rejectIf (historyMessages.length ≠ messages.length)
    (runStoreError "message_history_correlation_invalid")
  pairMessages tenantId threadId 0 messages historyMessages

/-- The sequences of the messages that a rollback takes out of effect. -/
def effectiveTargetSequences (items : List ModelHistoryItem) (boundary through : Int) :
    List Int :=
  (items.filter fun item =>
    isModelHistoryMessageBacked item && boundary ≤ item.sequence &&
      item.sequence ≤ through).map (·.sequence)

/-- A message as a rollback invalidates it. -/
def invalidatedBy (marker : ModelHistoryRollbackMarker) (event : ThreadRolledBackEvent)
    (pair : MessageRecord × ModelHistoryItem) : InvalidatedMessage where
  messageId := pair.1.messageId
  messageSequence := pair.1.sequence
  invalidation := {
    rollbackId := marker.rollbackId
    markerItemId := marker.itemId
    historySequence := pair.2.sequence
    invalidatedAt := event.occurredAt }

/-- The messages that a rollback invalidates. -/
def deriveRollbackMessageInvalidationsFromLedger
    (historyBeforeMarker ledgerHistory : List ModelHistoryItem) (messages : List MessageRecord)
    (tenantId : JsString) (event : ThreadRolledBackEvent) (marker : ModelHistoryRollbackMarker) :
    Checked (List InvalidatedMessage) := do
  let pairs ← correlateMessages tenantId event.threadId ledgerHistory messages
  match marker.historyFromSequence with
  | none => return []
  | some boundary => do
    let effective ← projectEffectiveModelHistory historyBeforeMarker
    let targets := effectiveTargetSequences effective.items boundary marker.historyThroughSequence
    return (pairs.filter (·.2.sequence ∈ targets)).map (invalidatedBy marker event)

end Crewon.Store
