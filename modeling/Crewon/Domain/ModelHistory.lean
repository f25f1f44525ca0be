import Crewon.Domain.RunRecords

/-!
# The items of a model history

A thread keeps everything its models have seen as an append-only list of items: messages, tool
calls with their results, compactions and rollback markers.
-/

namespace Crewon.Domain

open Crewon.Js Crewon.Checked

/-- Who speaks in a message. -/
inductive ModelHistoryMessageRole where
  | user
  | assistant
  | system
  | tool
deriving DecidableEq

/-- The interface of a tool. -/
inductive ModelHistoryToolKind where
  | function
  | custom
deriving DecidableEq

/-- Where a message came from. -/
inductive ModelHistoryMessageSource where
  | threadMessage
  | assistantCompletion
  | turnAborted
  | goalContinuation
  | goalSteering
  | automationInvocation
deriving DecidableEq

/-- What made a compaction happen. -/
inductive ModelHistoryCompactionMode where
  | auto
  | manual
deriving DecidableEq

/-- How a tool call ended. -/
inductive ModelHistoryToolStatus where
  | completed
  | aborted
deriving DecidableEq

/-- A user message that a compaction keeps. -/
structure RetainedUserMessage where
  content : JsString
  contentDigest : JsString
deriving DecidableEq

/-- What an item says. -/
inductive ModelHistoryBody where
  | message (role : ModelHistoryMessageRole) (source : ModelHistoryMessageSource)
      (content contentDigest : JsString) (origin : Option AutomationInvocationOrigin)
  | toolCall (kind : ModelHistoryToolKind) (callId name input : JsString)
  | toolResult (kind : ModelHistoryToolKind) (callId output : JsString) (isError : Bool)
      (status : ModelHistoryToolStatus)
  | compaction (mode : ModelHistoryCompactionMode) (replacesThroughSequence : Int)
      (sourceDigest summary summaryDigest : JsString)
      (retainedUserMessages : List RetainedUserMessage)
  | rollback (rollbackId threadEventId : JsString) (requestedTurns removedTurns : Int)
      (historyFromSequence : Option Int) (historyThroughSequence : Int)
deriving DecidableEq

/-- An item of a model history. -/
structure ModelHistoryItem where
  schemaVersion : JsString
  itemId : JsString
  tenantId : JsString
  threadId : JsString
  sequence : Int
  runId : Option JsString
  segmentId : Option JsString
  createdAt : JsString
  body : ModelHistoryBody
deriving DecidableEq

/-- A rejection of a model history. -/
def modelHistoryError (code : String) : Failure := ⟨.modelHistory, code⟩

/-- A user instruction, the beginning of a turn that can be rolled back. -/
def isModelHistoryInstructionBoundary (item : ModelHistoryItem) : Bool :=
  match item.body with
  | .message role source _ _ _ =>
    role = .user && (source = .threadMessage || source = .automationInvocation)
  | _ => false

/-- A message that the thread shows to its user as well. -/
def isModelHistoryMessageBacked (item : ModelHistoryItem) : Bool :=
  match item.body with
  | .message _ source _ _ _ =>
    source = .threadMessage || source = .automationInvocation || source = .assistantCompletion
  | _ => false

/-- The item is a message. -/
def ModelHistoryItem.isMessage (item : ModelHistoryItem) : Bool :=
  match item.body with
  | .message .. => true
  | _ => false

/-- The item is a tool call. -/
def ModelHistoryItem.isToolCall (item : ModelHistoryItem) : Bool :=
  match item.body with
  | .toolCall .. => true
  | _ => false

/-- The item is a tool call or a tool result. -/
def ModelHistoryItem.isTool (item : ModelHistoryItem) : Bool :=
  match item.body with
  | .toolCall .. => true
  | .toolResult .. => true
  | _ => false

/-- The call that a tool item is about. -/
def ModelHistoryItem.callId (item : ModelHistoryItem) : Option JsString :=
  match item.body with
  | .toolCall _ callId _ _ => some callId
  | .toolResult _ callId _ _ _ => some callId
  | _ => none

/-- The item is a compaction. -/
def ModelHistoryItem.isCompaction (item : ModelHistoryItem) : Bool :=
  match item.body with
  | .compaction .. => true
  | _ => false

/-- The item is a rollback marker. -/
def ModelHistoryItem.isRollback (item : ModelHistoryItem) : Bool :=
  match item.body with
  | .rollback .. => true
  | _ => false

/-- The sequence a compaction replaces the history through. -/
def ModelHistoryItem.replacesThrough (item : ModelHistoryItem) : Option Int :=
  match item.body with
  | .compaction _ replacesThroughSequence _ _ _ _ => some replacesThroughSequence
  | _ => none

/-- Reject a text that is no digest. -/
def requireItemDigest (value : JsString) (code : String) : Checked Unit :=
  rejectIf (isDigest value = false) (modelHistoryError code)

/-- Reject a text that is blank or longer than the bound. -/
def requireItemBounded (value : JsString) (maxBytes : Nat) (code : String) : Checked Unit :=
  requireBoundedNonEmpty value maxBytes (modelHistoryError code)

/-- Reject a text longer than the bound. -/
def requireItemStringAtMost (value : JsString) (maxBytes : Nat) (code : String) : Checked Unit :=
  requireBoundedString value maxBytes (modelHistoryError code)

/-- What a user sees in the history of an aborted turn. -/
def turnAbortedHistoryMarker : JsString :=
  js "<turn_aborted>\nThe user interrupted the previous turn on purpose. Any running unified exec processes may still be running in the background. If any tools/commands were aborted, they may have partially executed.\n</turn_aborted>"

/-- The longest text of a message. -/
def maxContentBytes : ModelHistoryMessageSource → Nat
  | .automationInvocation => 9999
  | .goalContinuation => 36 * 1024
  | .goalSteering => 36 * 1024
  | _ => 32 * 1024

/-- The checks of a message that an automation wrote. -/
def validateAutomationInvocationMessage (item : ModelHistoryItem)
    (role : ModelHistoryMessageRole) (contentDigest : JsString)
    (origin : Option AutomationInvocationOrigin) : Checked Unit := do
  rejectIf (origin = none ∨ role ≠ .user ∨ item.runId = none ∨ item.segmentId ≠ none)
    (modelHistoryError "model_history_automation_invocation_invalid")
  whenPresent origin fun value => do
    let parsed ← (parseAutomationInvocationOrigin value).mapError fun _ =>
      modelHistoryError "model_history_automation_invocation_origin_invalid"
    rejectIf (some parsed.binding.runId ≠ item.runId)
      (modelHistoryError "model_history_automation_invocation_run_id_mismatch")
    rejectIf (parsed.binding.instructionDigest ≠ contentDigest)
      (modelHistoryError "model_history_automation_invocation_instruction_digest_mismatch")

/-- A tool item belongs to a segment of a run. -/
def requireExecutionIdentity (item : ModelHistoryItem) : Checked Unit :=
  rejectIf (item.runId = none ∨ item.segmentId = none)
    (modelHistoryError "model_history_tool_run_id_missing")

/-- The checks of a message that a compaction keeps. -/
def validateRetainedUserMessage (retained : RetainedUserMessage) : Checked Unit := do
  requireItemBounded retained.content (32 * 1024)
    "model_history_compaction_retained_message_invalid"
  requireItemDigest retained.contentDigest "model_history_compaction_retained_digest_invalid"

/-- The most turns a rollback may ask for. -/
def maxModelHistoryRollbackTurns : Int := 0xFFFFFFFF

/-- The checks of what an item says. -/
def validateModelHistoryBody (item : ModelHistoryItem) : Checked Unit :=
  match item.body with
  | .message role source content contentDigest origin => do
    requireItemBounded content (maxContentBytes source) "model_history_content_invalid"
    requireItemDigest contentDigest "model_history_content_digest_invalid"
    if source = .automationInvocation then
      validateAutomationInvocationMessage item role contentDigest origin
    else
      rejectIf (origin ≠ none) (modelHistoryError "model_history_message_origin_invalid")
    rejectIf (source = .turnAborted ∧ (role ≠ .user ∨ content ≠ turnAbortedHistoryMarker))
      (modelHistoryError "model_history_abort_marker_invalid")
    rejectIf (source = .goalContinuation ∧ role ≠ .user)
      (modelHistoryError "model_history_goal_continuation_invalid")
    rejectIf (source = .goalSteering ∧ role ≠ .user)
      (modelHistoryError "model_history_goal_steering_invalid")
  | .toolCall _ callId name input => do
    requireItemBounded callId 512 "model_history_call_id_invalid"
    requireItemBounded name 256 "model_history_tool_name_invalid"
    requireItemStringAtMost input (32 * 1024) "model_history_tool_input_invalid"
    requireExecutionIdentity item
  | .toolResult _ callId output isError status => do
    requireItemBounded callId 512 "model_history_call_id_invalid"
    requireItemStringAtMost output 40000 "model_history_tool_output_invalid"
    rejectIf (status = .aborted ∧ isError = false)
      (modelHistoryError "model_history_aborted_tool_not_error")
    requireExecutionIdentity item
  | .compaction _ replacesThroughSequence sourceDigest summary summaryDigest retained => do
    rejectIf (item.runId = none ∨ item.segmentId = none ∨
        isPositiveInteger replacesThroughSequence = false ∨
        item.sequence ≤ replacesThroughSequence ∨ 128 < retained.length)
      (modelHistoryError "model_history_compaction_invalid")
    requireItemBounded summary (32 * 1024) "model_history_compaction_summary_invalid"
    requireItemDigest summaryDigest "model_history_compaction_summary_digest_invalid"
    requireItemDigest sourceDigest "model_history_compaction_source_digest_invalid"
    forEach retained validateRetainedUserMessage
    rejectIf (32 * 1024 < (retained.map (·.content.byteLength)).sum)
      (modelHistoryError "model_history_compaction_retained_messages_too_large")
  | .rollback rollbackId threadEventId requestedTurns removedTurns historyFromSequence
      historyThroughSequence => do
    requireItemBounded rollbackId 512 "model_history_rollback_id_invalid"
    requireItemBounded threadEventId 512 "model_history_rollback_event_id_invalid"
    rejectIf (item.runId ≠ none ∨ item.segmentId ≠ none ∨
        isPositiveInteger requestedTurns = false ∨
        maxModelHistoryRollbackTurns < requestedTurns ∨
        isNonNegativeInteger removedTurns = false ∨ requestedTurns < removedTurns ∨
        isSafeInteger historyThroughSequence = false ∨
        historyThroughSequence ≠ item.sequence - 1 ∨
        ¬ (historyFromSequence = none ↔ removedTurns = 0) ∨
        historyFromSequence.any (fun sequence =>
          !isPositiveInteger sequence || historyThroughSequence < sequence) = true)
      (modelHistoryError "model_history_rollback_invalid")

/-- The checks every item passes. -/
def validateModelHistoryItem (item : ModelHistoryItem) : Checked Unit := do
  rejectIf (item.schemaVersion ≠ js "crewon.model-history-item.v0")
    (modelHistoryError "model_history_item_invalid")
  requireItemBounded item.itemId 512 "model_history_item_id_invalid"
  requireItemBounded item.tenantId 256 "model_history_tenant_id_invalid"
  requireItemBounded item.threadId 512 "model_history_thread_id_invalid"
  requirePositiveInteger item.sequence (modelHistoryError "model_history_sequence_invalid")
  whenPresent item.runId fun runId => requireItemBounded runId 512 "model_history_run_id_invalid"
  whenPresent item.segmentId fun segmentId =>
    requireItemBounded segmentId 512 "model_history_segment_id_invalid"
  rejectIf (item.segmentId ≠ none ∧ item.runId = none)
    (modelHistoryError "model_history_execution_identity_invalid")
  requireTimestamp item.createdAt (modelHistoryError "model_history_created_at_invalid")
  validateModelHistoryBody item

/-- A role as a text. -/
def ModelHistoryMessageRole.text : ModelHistoryMessageRole → JsString
  | .user => js "user"
  | .assistant => js "assistant"
  | .system => js "system"
  | .tool => js "tool"

/-- A source as a text. -/
def ModelHistoryMessageSource.text : ModelHistoryMessageSource → JsString
  | .threadMessage => js "thread_message"
  | .assistantCompletion => js "assistant_completion"
  | .turnAborted => js "turn_aborted"
  | .goalContinuation => js "goal_continuation"
  | .goalSteering => js "goal_steering"
  | .automationInvocation => js "automation_invocation"

/-- A tool kind as a text. -/
def ModelHistoryToolKind.text : ModelHistoryToolKind → JsString
  | .function => js "function"
  | .custom => js "custom"

/-- A compaction mode as a text. -/
def ModelHistoryCompactionMode.text : ModelHistoryCompactionMode → JsString
  | .auto => js "auto"
  | .manual => js "manual"

/-- A tool status as a text. -/
def ModelHistoryToolStatus.text : ModelHistoryToolStatus → JsString
  | .completed => js "completed"
  | .aborted => js "aborted"

/-- An automation origin as JSON. -/
def AutomationInvocationOrigin.json (origin : AutomationInvocationOrigin) : JsonValue :=
  .object [
    ("kind", .string (js "automation")),
    ("binding", .object [
      ("automationId", .string origin.binding.automationId),
      ("automationRevision", .number origin.binding.automationRevision),
      ("definitionDigest", .string origin.binding.definitionDigest),
      ("instructionDigest", .string origin.binding.instructionDigest),
      ("invocationId", .string origin.binding.invocationId),
      ("routeDigest", .string origin.binding.routeDigest),
      ("runId", .string origin.binding.runId)])]

/-- What an item says as the fields of its JSON. -/
def ModelHistoryBody.fields : ModelHistoryBody → List (String × JsonValue)
  | .message role source content contentDigest origin =>
    [("type", .string (js "message")), ("role", .string role.text),
      ("source", .string source.text), ("content", .string content),
      ("contentDigest", .string contentDigest)] ++
      (origin.map fun value => ("origin", value.json)).toList
  | .toolCall kind callId name input =>
    [("type", .string (js "tool_call")), ("kind", .string kind.text),
      ("callId", .string callId), ("name", .string name), ("input", .string input)]
  | .toolResult kind callId output isError status =>
    [("type", .string (js "tool_result")), ("kind", .string kind.text),
      ("callId", .string callId), ("output", .string output), ("isError", .bool isError),
      ("status", .string status.text)]
  | .compaction mode replacesThroughSequence sourceDigest summary summaryDigest retained =>
    [("type", .string (js "compaction")), ("mode", .string mode.text),
      ("replacesThroughSequence", .number replacesThroughSequence),
      ("sourceDigest", .string sourceDigest), ("summary", .string summary),
      ("summaryDigest", .string summaryDigest),
      ("retainedUserMessages", .array (retained.map fun message => .object [
        ("content", .string message.content),
        ("contentDigest", .string message.contentDigest)]))]
  | .rollback rollbackId threadEventId requestedTurns removedTurns historyFromSequence
      historyThroughSequence =>
    [("type", .string (js "rollback")), ("rollbackId", .string rollbackId),
      ("threadEventId", .string threadEventId), ("requestedTurns", .number requestedTurns),
      ("removedTurns", .number removedTurns),
      ("historyFromSequence", .ofOption .number historyFromSequence),
      ("historyThroughSequence", .number historyThroughSequence)]

/-- An item as JSON. -/
def ModelHistoryItem.json (item : ModelHistoryItem) : JsonValue :=
  .object ([
    ("schemaVersion", .string item.schemaVersion),
    ("itemId", .string item.itemId),
    ("tenantId", .string item.tenantId),
    ("threadId", .string item.threadId),
    ("sequence", .number item.sequence),
    ("runId", .ofOption .string item.runId),
    ("segmentId", .ofOption .string item.segmentId),
    ("createdAt", .string item.createdAt)] ++ item.body.fields)

end Crewon.Domain
