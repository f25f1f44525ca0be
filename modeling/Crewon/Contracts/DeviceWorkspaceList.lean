import Crewon.Contracts.DeviceProtocol
import Crewon.Js.DateReading

/-!
# Listing a workspace on a device

The command that asks a device for the names at the top of a workspace, the two events with which
the device answers it, how a listing ends, and what is checked of them.
-/

namespace Crewon.Contracts

open Crewon.Js Crewon.Checked Crewon.Domain

/-- The most entries of a result. -/
def hardMaxEntries : Int := 200

/-- The most bytes of a name. -/
def hardMaxNameBytes : Int := 255

/-- The most bytes of a result. -/
def hardMaxOutputBytes : Int := 64 * 1024

/-- What a listing may use. It does not go below the top. -/
structure DeviceWorkspaceListLimits where
  maxEntries : Int
  maxNameBytes : Int
  maxOutputBytes : Int
  maxScannedEntries : Int
  maxScannedNameBytes : Int
  timeoutMs : Int
deriving DecidableEq

/-- A command to list a workspace. -/
structure DeviceWorkspaceListCommand where
  deviceId : JsString
  executionId : JsString
  leaseId : JsString
  leaseEpoch : Int
  expiresAt : JsString
  workspaceBindingId : JsString
  incarnationId : JsString
  deviceBindingId : JsString
  runtimeBindingId : JsString
  policySnapshotId : JsString
  limits : DeviceWorkspaceListLimits
  actionDigest : JsString
  commandDigest : JsString
  idempotencyKey : JsString
  traceContext : DeviceTraceContext
  authorization : DeviceCommandAuthorization
deriving DecidableEq

/-- The limits as JSON. -/
def DeviceWorkspaceListLimits.json (limits : DeviceWorkspaceListLimits) : JsonValue :=
  .object [("depth", .number 0), ("maxEntries", .number limits.maxEntries),
    ("maxNameBytes", .number limits.maxNameBytes),
    ("maxOutputBytes", .number limits.maxOutputBytes),
    ("maxScannedEntries", .number limits.maxScannedEntries),
    ("maxScannedNameBytes", .number limits.maxScannedNameBytes),
    ("timeoutMs", .number limits.timeoutMs)]

/-- The command as JSON. -/
def DeviceWorkspaceListCommand.json (command : DeviceWorkspaceListCommand) : JsonValue :=
  .object [("schemaVersion", .string (js "crewon.device-workspace-list-command.v0")),
    ("protocolVersion", .number 1), ("commandKind", .string (js "workspaceList")),
    ("deviceId", .string command.deviceId), ("executionId", .string command.executionId),
    ("leaseId", .string command.leaseId), ("leaseEpoch", .number command.leaseEpoch),
    ("expiresAt", .string command.expiresAt),
    ("workspaceBindingId", .string command.workspaceBindingId),
    ("incarnationId", .string command.incarnationId),
    ("deviceBindingId", .string command.deviceBindingId),
    ("runtimeBindingId", .string command.runtimeBindingId),
    ("policySnapshotId", .string command.policySnapshotId),
    ("operation", .string (js "listTopLevel")), ("limits", command.limits.json),
    ("actionDigest", .string command.actionDigest),
    ("commandDigest", .string command.commandDigest),
    ("idempotencyKey", .string command.idempotencyKey),
    ("traceContext", command.traceContext.json), ("authorization", command.authorization.json)]

/-- Reject a value that is longer than a bound as JSON. -/
def requireJsonSize (value : JsonValue) (maxBytes : Int) (code : String) : Checked Unit :=
  rejectIf (maxBytes < value.encodedSize) (contractError code)

/-- The checks of the limits of a listing. -/
def parseWorkspaceListLimits (limits : DeviceWorkspaceListLimits) : Checked Unit := do
  requirePositiveIntegerAtMost limits.maxEntries hardMaxEntries "device_workspace_limits_invalid"
  requirePositiveIntegerAtMost limits.maxNameBytes hardMaxNameBytes
    "device_workspace_limits_invalid"
  requirePositiveIntegerAtMost limits.maxOutputBytes hardMaxOutputBytes
    "device_workspace_limits_invalid"
  requirePositiveIntegerAtMost limits.maxScannedEntries 10000 "device_workspace_limits_invalid"
  requirePositiveIntegerAtMost limits.maxScannedNameBytes (1024 * 1024)
    "device_workspace_limits_invalid"
  requirePositiveIntegerAtMost limits.timeoutMs 30000 "device_workspace_limits_invalid"
  rejectIf (limits.maxScannedEntries < limits.maxEntries ∨
      limits.maxScannedNameBytes < limits.maxNameBytes)
    (contractError "device_workspace_limits_invalid")

/-- The checks of an authorization that needs no approval. -/
def parseReadOnlyAuthorization (authorization : DeviceCommandAuthorization)
    (commandExpiresAt : JsString) : Checked Unit := do
  requireOpaqueId authorization.keyId "device_authorization_key_invalid"
  requireTimestamp authorization.issuedAt (contractError "device_authorization_timestamp_invalid")
  requireTimestamp authorization.expiresAt (contractError "device_authorization_expiry_invalid")
  rejectIf (isEarlier authorization.issuedAt authorization.expiresAt = false ∨
      isEarlier commandExpiresAt authorization.expiresAt = true)
    (contractError "device_authorization_expiry_invalid")
  rejectIf (authorization.approvalProof.isSome = true)
    (contractError "device_approval_proof_forbidden")
  rejectIf (isSignature authorization.signature = false)
    (contractError "device_authorization_signature_invalid")

/-- The checks of a command to list a workspace. -/
def parseDeviceWorkspaceListCommand (command : DeviceWorkspaceListCommand) : Checked Unit := do
  requireOpaqueId command.deviceId "device_id_invalid"
  requireOpaqueId command.executionId "device_execution_id_invalid"
  requireOpaqueId command.leaseId "device_lease_id_invalid"
  requireOpaqueId command.workspaceBindingId "device_workspace_binding_invalid"
  requireOpaqueId command.incarnationId "device_workspace_incarnation_invalid"
  requireOpaqueId command.deviceBindingId "device_binding_id_invalid"
  requireOpaqueId command.runtimeBindingId "device_runtime_binding_id_invalid"
  requireOpaqueId command.policySnapshotId "device_policy_snapshot_id_invalid"
  requireOpaqueId command.idempotencyKey "device_idempotency_key_invalid"
  requirePositiveInteger command.leaseEpoch (contractError "device_lease_epoch_invalid")
  requireTimestamp command.expiresAt (contractError "device_lease_expiry_invalid")
  requireDigest command.actionDigest "device_action_digest_invalid"
  requireDigest command.commandDigest "device_command_digest_invalid"
  parseWorkspaceListLimits command.limits
  parseTraceContext command.traceContext
  parseReadOnlyAuthorization command.authorization command.expiresAt
  requireJsonSize command.json (128 * 1024) "device_command_too_large"

/-- What stands under a name. -/
inductive WorkspaceEntryKind where
  | file
  | directory
deriving DecidableEq

/-- A name at the top of a workspace. -/
structure WorkspaceEntry where
  name : JsString
  kind : WorkspaceEntryKind
deriving DecidableEq

/-- The names at the top of a workspace. -/
structure DeviceWorkspaceListResult where
  executionId : JsString
  actionDigest : JsString
  commandDigest : JsString
  entries : List WorkspaceEntry
  truncated : Bool
deriving DecidableEq

/-- The result as JSON. -/
def DeviceWorkspaceListResult.json (result : DeviceWorkspaceListResult) : JsonValue :=
  .object [("schemaVersion", .string (js "crewon.workspace-list-result.v0")),
    ("executionId", .string result.executionId), ("actionDigest", .string result.actionDigest),
    ("commandDigest", .string result.commandDigest),
    ("entries", .array (result.entries.map fun entry => .object [("name", .string entry.name),
      ("kind", .string (match entry.kind with
        | .file => js "file"
        | .directory => js "directory"))])),
    ("truncated", .bool result.truncated)]

/-- What a result is expected to be of, and how large it may be. -/
structure ExpectedResult where
  executionId : JsString
  actionDigest : JsString
  commandDigest : JsString
  maxEntries : Int
  maxNameBytes : Int
  maxOutputBytes : Int
deriving DecidableEq

/-- A code point of the Unicode category for format characters. -/
def isFormatCharacter (point : Nat) : Bool :=
  point == 0xAD || (0x600 ≤ point && point ≤ 0x605) || point == 0x61C || point == 0x6DD ||
    point == 0x70F || (0x890 ≤ point && point ≤ 0x891) || point == 0x8E2 || point == 0x180E ||
    (0x200B ≤ point && point ≤ 0x200F) || (0x202A ≤ point && point ≤ 0x202E) ||
    (0x2060 ≤ point && point ≤ 0x2064) || (0x2066 ≤ point && point ≤ 0x206F) ||
    point == 0xFEFF || (0xFFF9 ≤ point && point ≤ 0xFFFB) || point == 0x110BD ||
    point == 0x110CD || (0x13430 ≤ point && point ≤ 0x1343F) ||
    (0x1BCA0 ≤ point && point ≤ 0x1BCA3) || (0x1D173 ≤ point && point ≤ 0x1D17A) ||
    point == 0xE0001 || (0xE0020 ≤ point && point ≤ 0xE007F)

/-- The class `[\\/\p{Cc}\p{Cf}\p{Zl}\p{Zp}]`. -/
def isUnsafeInName (point : Nat) : Bool :=
  point == 0x5C || point == 0x2F || point < 0x20 || (0x7F ≤ point && point ≤ 0x9F) ||
    isFormatCharacter point || point == 0x2028 || point == 0x2029

/-- The checks of a name at the top of a workspace. -/
def parseWorkspaceListEntry (maximumNameBytes : Int) (entry : WorkspaceEntry) : Checked Unit :=
  rejectIf (entry.name.byteLength < 1 ∨ maximumNameBytes < entry.name.byteLength ∨
      hardMaxNameBytes < entry.name.byteLength ∨ entry.name.hasLoneSurrogate = true ∨
      entry.name = js "." ∨ entry.name = js ".." ∨ entry.name.codePoints.any isUnsafeInName = true)
    (contractError "device_workspace_entry_name_invalid")

/-- The order of the code points of texts, which is the one of their bytes in UTF-8. -/
def pointsBefore : List Nat → List Nat → Bool
  | _, [] => false
  | [], _ :: _ => true
  | left :: lefts, right :: rights => left < right || (left == right && pointsBefore lefts rights)

/-- The names are in order, and none stands twice. -/
def namesAscend : List WorkspaceEntry → Bool
  | first :: second :: rest =>
    pointsBefore first.name.codePoints second.name.codePoints && namesAscend (second :: rest)
  | [] | [_] => true

/-- The checks of a result. -/
def parseDeviceWorkspaceListResult (result : DeviceWorkspaceListResult)
    (expected : ExpectedResult) : Checked Unit := do
  rejectIf (expected.maxEntries < result.entries.length ∨
      hardMaxEntries < result.entries.length) (contractError "device_workspace_result_invalid")
  requireOpaqueId result.executionId "device_execution_id_invalid"
  requireDigest result.actionDigest "device_action_digest_invalid"
  requireDigest result.commandDigest "device_command_digest_invalid"
  rejectIf (result.executionId ≠ expected.executionId ∨
      result.actionDigest ≠ expected.actionDigest ∨
      result.commandDigest ≠ expected.commandDigest)
    (contractError "device_workspace_result_identity_mismatch")
  forEach result.entries (parseWorkspaceListEntry expected.maxNameBytes)
  rejectIf (namesAscend result.entries = false) (contractError "device_workspace_result_invalid")
  requireJsonSize result.json (min expected.maxOutputBytes hardMaxOutputBytes)
    "device_workspace_result_too_large"

/-- What an event tells. The device accepts a command first and then ends it. -/
inductive DeviceWorkspaceListEventData where
  | accepted (leaseId : JsString) (leaseEpoch : Int) (expiresAt policySnapshotId : JsString)
  | completed (result : DeviceWorkspaceListResult)
  | failed (code : JsString) (retryable : Bool)
  | canceled (reasonCode : JsString)
  | unknownOutcome (providerReceiptId : Option JsString)
deriving DecidableEq

namespace DeviceWorkspaceListEventData

/-- The name of an event that tells this. -/
def type : DeviceWorkspaceListEventData → JsString
  | .accepted .. => js "workspace_list.accepted"
  | .completed .. => js "workspace_list.completed"
  | .failed .. => js "workspace_list.failed"
  | .canceled .. => js "workspace_list.canceled"
  | .unknownOutcome .. => js "workspace_list.unknown_outcome"

/-- What an event tells, as JSON. -/
def json : DeviceWorkspaceListEventData → JsonValue
  | .accepted leaseId leaseEpoch expiresAt policySnapshotId =>
    .object [("leaseId", .string leaseId), ("leaseEpoch", .number leaseEpoch),
      ("expiresAt", .string expiresAt), ("policySnapshotId", .string policySnapshotId)]
  | .completed result => .object [("result", result.json)]
  | .failed code retryable => .object [("code", .string code), ("retryable", .bool retryable)]
  | .canceled reasonCode => .object [("reasonCode", .string reasonCode)]
  | .unknownOutcome providerReceiptId =>
    .object [("providerReceiptId", .ofOption .string providerReceiptId)]

/-- The event accepts a command. -/
def isAccepted : DeviceWorkspaceListEventData → Bool
  | .accepted .. => true
  | .completed .. | .failed .. | .canceled .. | .unknownOutcome .. => false

end DeviceWorkspaceListEventData

/-- An event of a device about a listing. -/
structure DeviceWorkspaceListEvent where
  deviceId : JsString
  executionId : JsString
  receiptId : JsString
  connectionEpoch : Int
  workspaceBindingId : JsString
  incarnationId : JsString
  deviceBindingId : JsString
  runtimeBindingId : JsString
  actionDigest : JsString
  commandDigest : JsString
  sequence : Int
  observedAt : JsString
  data : DeviceWorkspaceListEventData
deriving DecidableEq

/-- The event as JSON. -/
def DeviceWorkspaceListEvent.json (event : DeviceWorkspaceListEvent) : JsonValue :=
  .object [("schemaVersion", .string (js "crewon.device-workspace-list-event.v0")),
    ("protocolVersion", .number 1), ("commandKind", .string (js "workspaceList")),
    ("deviceId", .string event.deviceId), ("executionId", .string event.executionId),
    ("receiptId", .string event.receiptId), ("connectionEpoch", .number event.connectionEpoch),
    ("workspaceBindingId", .string event.workspaceBindingId),
    ("incarnationId", .string event.incarnationId),
    ("deviceBindingId", .string event.deviceBindingId),
    ("runtimeBindingId", .string event.runtimeBindingId),
    ("actionDigest", .string event.actionDigest), ("commandDigest", .string event.commandDigest),
    ("sequence", .number event.sequence), ("observedAt", .string event.observedAt),
    ("type", .string event.data.type), ("data", event.data.json)]

/-- The pattern `^[a-z0-9_.:-]{1,128}$`. -/
def isSafeCode (text : JsString) : Bool :=
  1 ≤ text.length && text.length ≤ 128 && text.units.all fun point =>
    isDigit point || isLowerLetter point || point == unit '_' || point == unit '.' ||
      point == unit ':' || point == unit '-'

/-- How a listing ended. -/
inductive WorkspaceListStatus where
  | completed
  | failed
  | canceled
  | unknownOutcome
deriving DecidableEq

/-- The end of a listing. Only one whose outcome is unknown may have no receipt and no event. -/
structure DeviceWorkspaceListDispatchResolution where
  status : WorkspaceListStatus
  executionId : JsString
  receiptId : Option JsString
  terminal : Option DeviceWorkspaceListEvent
deriving DecidableEq

/-- The name of a status. -/
def WorkspaceListStatus.text : WorkspaceListStatus → JsString
  | .completed => js "completed"
  | .failed => js "failed"
  | .canceled => js "canceled"
  | .unknownOutcome => js "unknownOutcome"

/-- The name of the event that ends a listing with a status. -/
def WorkspaceListStatus.eventType : WorkspaceListStatus → JsString
  | .completed => js "workspace_list.completed"
  | .failed => js "workspace_list.failed"
  | .canceled => js "workspace_list.canceled"
  | .unknownOutcome => js "workspace_list.unknown_outcome"

/-- The end of a listing as JSON. -/
def DeviceWorkspaceListDispatchResolution.json
    (resolution : DeviceWorkspaceListDispatchResolution) : JsonValue :=
  .object [("status", .string resolution.status.text),
    ("executionId", .string resolution.executionId),
    ("receiptId", .ofOption .string resolution.receiptId),
    ("terminal", .ofOption DeviceWorkspaceListEvent.json resolution.terminal)]

section Dates

-- the host's reading of a date text in any format
variable (parseDate : JsString → Option Int)

/-- Reject a text that does not end in `Z` or names no instant. -/
def requireUtc (value : JsString) (code : String) : Checked Unit :=
  rejectIf (endsInUtc parseDate value = false) (contractError code)

/-- The checks of what an event tells. -/
def parseWorkspaceListEventData (event : DeviceWorkspaceListEvent) : Checked Unit :=
  match event.data with
  | .accepted leaseId leaseEpoch expiresAt policySnapshotId => do
    rejectIf (event.sequence ≠ 1) (contractError "device_event_sequence_invalid")
    requireOpaqueId leaseId "device_lease_id_invalid"
    requirePositiveInteger leaseEpoch (contractError "device_lease_epoch_invalid")
    requireUtc parseDate expiresAt "device_lease_expiry_invalid"
    requireOpaqueId policySnapshotId "device_policy_snapshot_id_invalid"
  | .completed result => do
    rejectIf (event.sequence ≠ 2) (contractError "device_event_sequence_invalid")
    parseDeviceWorkspaceListResult result ⟨event.executionId, event.actionDigest,
      event.commandDigest, hardMaxEntries, hardMaxNameBytes, hardMaxOutputBytes⟩
  | .failed code _ => do
    rejectIf (event.sequence ≠ 2) (contractError "device_event_sequence_invalid")
    rejectIf (isSafeCode code = false) (contractError "device_failure_code_invalid")
  | .canceled reasonCode => do
    rejectIf (event.sequence ≠ 2) (contractError "device_event_sequence_invalid")
    rejectIf (isSafeCode reasonCode = false) (contractError "device_cancel_reason_invalid")
  | .unknownOutcome providerReceiptId => do
    rejectIf (event.sequence ≠ 2) (contractError "device_event_sequence_invalid")
    whenPresent providerReceiptId fun receiptId =>
      requireOpaqueId receiptId "device_provider_receipt_id_invalid"

/-- The checks of an event. -/
def parseDeviceWorkspaceListEvent (event : DeviceWorkspaceListEvent) : Checked Unit := do
  requireOpaqueId event.deviceId "device_id_invalid"
  requireOpaqueId event.executionId "device_execution_id_invalid"
  requireOpaqueId event.receiptId "device_receipt_id_invalid"
  requireOpaqueId event.workspaceBindingId "device_workspace_binding_invalid"
  requireOpaqueId event.incarnationId "device_workspace_incarnation_invalid"
  requireOpaqueId event.deviceBindingId "device_binding_id_invalid"
  requireOpaqueId event.runtimeBindingId "device_runtime_binding_id_invalid"
  requirePositiveInteger event.connectionEpoch (contractError "device_connection_epoch_invalid")
  requirePositiveInteger event.sequence (contractError "device_event_sequence_invalid")
  requireUtc parseDate event.observedAt "device_event_timestamp_invalid"
  requireDigest event.actionDigest "device_action_digest_invalid"
  requireDigest event.commandDigest "device_command_digest_invalid"
  parseWorkspaceListEventData parseDate event
  requireJsonSize event.json (96 * 1024) "device_workspace_event_too_large"

/-- What an event tells fits its command. -/
def parseEventDataForCommand (command : DeviceWorkspaceListCommand) :
    DeviceWorkspaceListEventData → Checked Unit
  | .accepted leaseId leaseEpoch expiresAt policySnapshotId =>
    rejectIf (leaseId ≠ command.leaseId ∨ leaseEpoch ≠ command.leaseEpoch ∨
        expiresAt ≠ command.expiresAt ∨ policySnapshotId ≠ command.policySnapshotId)
      (contractError "device_workspace_event_identity_mismatch")
  | .completed result =>
    parseDeviceWorkspaceListResult result ⟨command.executionId, command.actionDigest,
      command.commandDigest, command.limits.maxEntries, command.limits.maxNameBytes,
      command.limits.maxOutputBytes⟩
  | .failed .. | .canceled .. | .unknownOutcome .. => .ok ()

/-- The checks of an event about a command, which may have to come over one connection. -/
def parseDeviceWorkspaceListEventForCommand (event : DeviceWorkspaceListEvent)
    (command : DeviceWorkspaceListCommand) (expectedConnectionEpoch : Option Int) :
    Checked Unit := do
  parseDeviceWorkspaceListEvent parseDate event
  parseDeviceWorkspaceListCommand command
  rejectIf (event.deviceId ≠ command.deviceId ∨ event.executionId ≠ command.executionId ∨
      event.workspaceBindingId ≠ command.workspaceBindingId ∨
      event.incarnationId ≠ command.incarnationId ∨
      event.deviceBindingId ≠ command.deviceBindingId ∨
      event.runtimeBindingId ≠ command.runtimeBindingId ∨
      event.actionDigest ≠ command.actionDigest ∨ event.commandDigest ≠ command.commandDigest ∨
      (expectedConnectionEpoch.any fun epoch => event.connectionEpoch ≠ epoch) = true)
    (contractError "device_workspace_event_identity_mismatch")
  parseEventDataForCommand command event.data

/-- The checks of the end of a listing that the device told. -/
def parseTerminalResolution (resolution : DeviceWorkspaceListDispatchResolution)
    (command : DeviceWorkspaceListCommand) : Checked Unit :=
  match resolution.receiptId with
  | none => .error (contractError "device_receipt_id_invalid")
  | some receiptId => do
    requireOpaqueId receiptId "device_receipt_id_invalid"
    match resolution.terminal with
    | none => .error (contractError "device_workspace_event_invalid")
    | some terminal => do
      parseDeviceWorkspaceListEventForCommand parseDate terminal command none
      rejectIf (terminal.data.type ≠ resolution.status.eventType ∨
          terminal.receiptId ≠ receiptId)
        (contractError "device_workspace_dispatch_resolution_identity_mismatch")

/-- The checks of the end of a listing whose outcome is unknown. -/
def parseUnknownResolution (resolution : DeviceWorkspaceListDispatchResolution)
    (command : DeviceWorkspaceListCommand) : Checked Unit := do
  whenPresent resolution.receiptId fun receiptId =>
    requireOpaqueId receiptId "device_receipt_id_invalid"
  whenPresent resolution.terminal fun terminal => do
    parseDeviceWorkspaceListEventForCommand parseDate terminal command none
    rejectIf (terminal.data.type ≠ resolution.status.eventType ∨
        resolution.receiptId ≠ some terminal.receiptId)
      (contractError "device_workspace_dispatch_resolution_identity_mismatch")

/-- The checks of the end of a listing. -/
def parseResolution (resolution : DeviceWorkspaceListDispatchResolution)
    (command : DeviceWorkspaceListCommand) : Checked Unit := do
  requireOpaqueId resolution.executionId "device_execution_id_invalid"
  rejectIf (resolution.executionId ≠ command.executionId)
    (contractError "device_workspace_dispatch_resolution_identity_mismatch")
  match resolution.status with
  | .completed | .failed | .canceled => parseTerminalResolution parseDate resolution command
  | .unknownOutcome => parseUnknownResolution parseDate resolution command

end Dates

/-- A request to execute a listing, as JSON. -/
def workerDispatchRequestJson (command : DeviceWorkspaceListCommand) : JsonValue :=
  .object [("schemaVersion", .string (js "crewon.device-workspace-list-dispatch-request.v0")),
    ("apiVersion", .number 1), ("operation", .string (js "execute")), ("command", command.json)]

/-- The response to a request to execute a listing, as JSON. -/
def workerDispatchResponseJson (resolution : DeviceWorkspaceListDispatchResolution) : JsonValue :=
  .object [("schemaVersion", .string (js "crewon.device-workspace-list-dispatch-response.v0")),
    ("apiVersion", .number 1), ("operation", .string (js "execute")),
    ("resolution", resolution.json)]

/-- The checks of a request to execute a listing. -/
def parseDeviceWorkspaceListWorkerDispatchRequest (command : DeviceWorkspaceListCommand) :
    Checked Unit := do
  parseDeviceWorkspaceListCommand command
  requireJsonSize (workerDispatchRequestJson command) (160 * 1024)
    "device_workspace_dispatch_request_too_large"

/-- The checks of the response to a request to execute a listing. -/
def parseDeviceWorkspaceListWorkerDispatchResponse (parseDate : JsString → Option Int)
    (resolution : DeviceWorkspaceListDispatchResolution) (command : DeviceWorkspaceListCommand) :
    Checked Unit := do
  parseDeviceWorkspaceListWorkerDispatchRequest command
  parseResolution parseDate resolution command
  requireJsonSize (workerDispatchResponseJson resolution) (128 * 1024)
    "device_workspace_dispatch_response_too_large"

end Crewon.Contracts
