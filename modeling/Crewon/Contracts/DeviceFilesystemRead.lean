import Crewon.Contracts.DeviceProtocol

/-!
# Reading a file on a device

The command that asks a device for the text of a file, the two events with which the device answers
it, and what is checked of both.
-/

namespace Crewon.Contracts

open Crewon.Js Crewon.Checked Crewon.Domain

/-- The capability of reading a file. -/
def deviceFilesystemReadCapability : JsString := js "workspace.read_file.v0"

/-- The most bytes of a result. -/
def deviceFilesystemReadMaxBytes : Nat := 64 * 1024

/-- The longest that a read may take. -/
def deviceFilesystemReadMaxTimeoutMs : Int := 30000

/-- Which file to read. -/
structure DeviceFilesystemReadArguments where
  workspaceIncarnationId : JsString
  relativePathSegments : List JsString
deriving DecidableEq

/-- The arguments as JSON. -/
def DeviceFilesystemReadArguments.json (arguments : DeviceFilesystemReadArguments) : JsonValue :=
  .object [("schemaVersion", .string (js "crewon.device-filesystem-read-arguments.v0")),
    ("workspaceIncarnationId", .string arguments.workspaceIncarnationId),
    ("relativePathSegments", .array (arguments.relativePathSegments.map .string)),
    ("encoding", .string (js "utf8"))]

/-- A command to read a file. Its capability is fixed, and it refers to no payload. -/
structure DeviceFilesystemReadCommand where
  deviceId : JsString
  leaseId : JsString
  leaseEpoch : Int
  expiresAt : JsString
  runId : JsString
  stepId : JsString
  attemptId : JsString
  executionId : JsString
  workspaceBindingId : JsString
  actionDigest : JsString
  arguments : DeviceFilesystemReadArguments
  limits : DeviceExecutionLimits
  idempotencyKey : JsString
  traceContext : DeviceTraceContext
  authorization : DeviceCommandAuthorization
deriving DecidableEq

/-- The command among all commands. -/
def DeviceFilesystemReadCommand.execution (command : DeviceFilesystemReadCommand) :
    DeviceExecutionCommand where
  deviceId := command.deviceId
  leaseId := command.leaseId
  leaseEpoch := command.leaseEpoch
  expiresAt := command.expiresAt
  runId := command.runId
  stepId := command.stepId
  attemptId := command.attemptId
  executionId := command.executionId
  workspaceBindingId := command.workspaceBindingId
  capability := deviceFilesystemReadCapability
  actionDigest := command.actionDigest
  arguments := command.arguments.json
  payloadRef := none
  limits := command.limits
  idempotencyKey := command.idempotencyKey
  traceContext := command.traceContext
  authorization := command.authorization

/-- The component of a path is not one name. -/
def isUnsafeComponent (component : JsString) : Bool :=
  component.length == 0 || 255 < component.byteLength || component == js "." ||
    component == js ".." || component.units.any fun point =>
      point == unit '/' || point == unit '\\' || point == unit ':' || point == 0

/-- The checks of a command to read a file. -/
def parseDeviceFilesystemReadCommand (command : DeviceFilesystemReadCommand) : Checked Unit := do
  parseDeviceExecutionCommand command.execution
  rejectIf (command.authorization.approvalProof.isSome = true ∨
      (deviceFilesystemReadMaxBytes : Int) < command.limits.maxOutputBytes ∨
      deviceFilesystemReadMaxTimeoutMs < command.limits.timeoutMs)
    (contractError "device_filesystem_read_command_invalid")
  rejectIf (isWireId command.arguments.workspaceIncarnationId = false ∨
      command.arguments.relativePathSegments.length = 0 ∨
      32 < command.arguments.relativePathSegments.length)
    (contractError "device_filesystem_read_arguments_invalid")
  forEach command.arguments.relativePathSegments fun component =>
    rejectIf (isUnsafeComponent component = true)
      (contractError "device_filesystem_read_path_invalid")

/-- The text of a file, with its digest. -/
structure DeviceFilesystemReadResult where
  content : JsString
  byteLength : Int
  outputDigest : JsString
deriving DecidableEq

/-- The result as JSON. -/
def DeviceFilesystemReadResult.json (result : DeviceFilesystemReadResult) : JsonValue :=
  .object [("schemaVersion", .string (js "crewon.workspace-file-read-result.v0")),
    ("encoding", .string (js "utf8")), ("content", .string result.content),
    ("byteLength", .number result.byteLength), ("outputDigest", .string result.outputDigest)]

/-- What an event tells. The device accepts a command first and then ends it. -/
inductive DeviceFilesystemReadEventData where
  | accepted (leaseId : JsString) (leaseEpoch : Int) (expiresAt : JsString)
  | completed (result : DeviceFilesystemReadResult)
  | failed (code : JsString) (retryable : Bool)
  | canceled (reasonCode : JsString)
  | unknownOutcome (providerReceiptId : Option JsString)
deriving DecidableEq

namespace DeviceFilesystemReadEventData

/-- The number of an event that tells this. -/
def sequence : DeviceFilesystemReadEventData → Int
  | .accepted .. => 1
  | .completed .. | .failed .. | .canceled .. | .unknownOutcome .. => 2

/-- The name of an event that tells this. -/
def type : DeviceFilesystemReadEventData → JsString
  | .accepted .. => js "workspace_read.accepted"
  | .completed .. => js "workspace_read.completed"
  | .failed .. => js "workspace_read.failed"
  | .canceled .. => js "workspace_read.canceled"
  | .unknownOutcome .. => js "workspace_read.unknown_outcome"

/-- What an event tells, as JSON. -/
def json : DeviceFilesystemReadEventData → JsonValue
  | .accepted leaseId leaseEpoch expiresAt => .object [("leaseId", .string leaseId),
      ("leaseEpoch", .number leaseEpoch), ("expiresAt", .string expiresAt)]
  | .completed result => .object [("result", result.json)]
  | .failed code retryable => .object [("code", .string code), ("retryable", .bool retryable)]
  | .canceled reasonCode => .object [("reasonCode", .string reasonCode)]
  | .unknownOutcome providerReceiptId =>
    .object [("providerReceiptId", .ofOption .string providerReceiptId)]

end DeviceFilesystemReadEventData

/-- An event of a device about a command. -/
structure DeviceFilesystemReadEvent where
  deviceId : JsString
  executionId : JsString
  receiptId : JsString
  connectionEpoch : Int
  workspaceBindingId : JsString
  incarnationId : JsString
  commandDigest : JsString
  sequence : Int
  observedAt : JsString
  data : DeviceFilesystemReadEventData
deriving DecidableEq

/-- The event as JSON. -/
def DeviceFilesystemReadEvent.json (event : DeviceFilesystemReadEvent) : JsonValue :=
  .object [("schemaVersion", .string (js "crewon.device-filesystem-read-event.v0")),
    ("protocolVersion", .number 1), ("commandKind", .string (js "workspaceRead")),
    ("deviceId", .string event.deviceId), ("executionId", .string event.executionId),
    ("receiptId", .string event.receiptId), ("connectionEpoch", .number event.connectionEpoch),
    ("workspaceBindingId", .string event.workspaceBindingId),
    ("incarnationId", .string event.incarnationId), ("commandDigest", .string event.commandDigest),
    ("sequence", .number event.sequence), ("observedAt", .string event.observedAt),
    ("type", .string event.data.type), ("data", event.data.json)]

/-- The rejection of an event. -/
def readEventInvalid : Failure := contractError "device_filesystem_read_event_invalid"

/-- The pattern `^[a-z][a-z0-9_]{0,127}$`. -/
def isReadEventCode (text : JsString) : Bool :=
  text.length ≤ 128 && text.units.head?.any isLowerLetter &&
    text.units.all fun point => isDigit point || isLowerLetter point || point == unit '_'

/-- The checks of the result of an event. -/
def completedReadResult (digestUtf8 : JsString → JsString) (result : DeviceFilesystemReadResult) :
    Checked Unit :=
  rejectIf (result.byteLength ≠ result.content.byteLength ∨
      result.outputDigest ≠ digestUtf8 result.content ∨
      deviceFilesystemReadMaxBytes < result.json.encodedSize) readEventInvalid

/-- The checks of what an event tells. -/
def parseReadEventData (digestUtf8 : JsString → JsString) (sequence : Int) :
    DeviceFilesystemReadEventData → Checked Unit
  | .accepted leaseId leaseEpoch expiresAt => do
    rejectIf (sequence ≠ 1) readEventInvalid
    rejectIf (isWireId leaseId = false) readEventInvalid
    requirePositiveInteger leaseEpoch readEventInvalid
    requireTimestamp expiresAt readEventInvalid
  | .completed result => do
    rejectIf (sequence ≠ 2) readEventInvalid
    completedReadResult digestUtf8 result
  | .failed code _ => do
    rejectIf (sequence ≠ 2) readEventInvalid
    rejectIf (isReadEventCode code = false) readEventInvalid
  | .canceled reasonCode => do
    rejectIf (sequence ≠ 2) readEventInvalid
    rejectIf (isReadEventCode reasonCode = false) readEventInvalid
  | .unknownOutcome providerReceiptId => do
    rejectIf (sequence ≠ 2) readEventInvalid
    whenPresent providerReceiptId fun receiptId =>
      rejectIf (isWireId receiptId = false) readEventInvalid

/-- The checks of an event. -/
def parseDeviceFilesystemReadEvent (digestUtf8 : JsString → JsString)
    (event : DeviceFilesystemReadEvent) : Checked Unit := do
  rejectIf (isWireId event.deviceId = false) readEventInvalid
  rejectIf (isWireId event.executionId = false) readEventInvalid
  rejectIf (isWireId event.receiptId = false) readEventInvalid
  rejectIf (isWireId event.workspaceBindingId = false) readEventInvalid
  rejectIf (isWireId event.incarnationId = false) readEventInvalid
  requirePositiveInteger event.connectionEpoch readEventInvalid
  rejectIf (isDigest event.commandDigest = false) readEventInvalid
  requireTimestamp event.observedAt readEventInvalid
  parseReadEventData digestUtf8 event.sequence event.data
  rejectIf (96 * 1024 < event.json.encodedSize) readEventInvalid

/-- The digest of what the signature of a command is over. -/
def canonicalDeviceFilesystemReadCommandDigest (digestUtf8 : JsString → JsString)
    (command : DeviceFilesystemReadCommand) : Checked JsString := do
  parseDeviceFilesystemReadCommand command
  let payload ← canonicalDeviceCommandSigningPayload command.execution
  return digestUtf8 payload

/-- An event that is accepted has the number of what it tells. -/
theorem sequence_of_parseReadEventData {digestUtf8 : JsString → JsString} {sequence : Int}
    {data : DeviceFilesystemReadEventData}
    (parsed : parseReadEventData digestUtf8 sequence data = .ok ()) : sequence = data.sequence := by
  cases data with
  | accepted =>
    simp only [parseReadEventData, bind_eq_ok, exists_unit, rejectIf_eq_ok, not_not] at parsed
    exact parsed.1
  | completed | failed | canceled | unknownOutcome =>
    simp only [parseReadEventData, bind_eq_ok, exists_unit, rejectIf_eq_ok, not_not] at parsed
    exact parsed.1

/-- The number of what an event tells is one or two. -/
theorem sequence_eq_one_or_two (data : DeviceFilesystemReadEventData) :
    data.sequence = 1 ∨ data.sequence = 2 := by
  cases data with
  | accepted => exact .inl rfl
  | completed | failed | canceled | unknownOutcome => exact .inr rfl

end Crewon.Contracts
