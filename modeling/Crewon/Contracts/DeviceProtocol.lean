import Crewon.Domain.Failure
import Crewon.Js.StableJson

/-!
# Commands for a device

What the program asks a device to execute, what is checked of it before it is sent, and the text
that its signature is over.
-/

namespace Crewon.Contracts

open Crewon.Js Crewon.Checked Crewon.Domain

/-- A rejection of a contract. -/
def contractError (code : String) : Failure := ⟨.contractValidation, code⟩

/-- An id of the wire grammar, of at most 512 units. -/
def isWireId (text : JsString) : Bool := isOpaqueId text && text.length ≤ 512

/-- Reject a text that is no id of the wire grammar. -/
def requireOpaqueId (value : JsString) (code : String) : Checked Unit :=
  rejectIf (isWireId value = false) (contractError code)

/-- Reject a text that is no digest. -/
def requireDigest (value : JsString) (code : String) : Checked Unit :=
  rejectIf (isDigest value = false) (contractError code)

/-- Reject a number that is no safe integer between one and a bound. -/
def requirePositiveIntegerAtMost (value maximum : Int) (code : String) : Checked Unit :=
  rejectIf (isPositiveInteger value = false ∨ maximum < value) (contractError code)

/-- The pattern `^[a-z][a-z0-9]*(?:[._:-][a-z0-9]+){0,15}$`. -/
def isCapabilityName (text : JsString) : Bool :=
  let parts := text.units.splitOnP fun point =>
    point == unit '.' || point == unit '_' || point == unit ':' || point == unit '-'
  parts.length ≤ 16 && text.units.head?.any isLowerLetter &&
    parts.all fun part =>
      !part.isEmpty && part.all fun point => isDigit point || isLowerLetter point

/-- Reject a text that is no capability. -/
def requireCapability (value : JsString) : Checked Unit :=
  rejectIf (isCapabilityName value = false ∨ 128 < value.length)
    (contractError "device_capability_invalid")

mutual

/-- The value has at most this many levels below it. -/
def shallow (levels : Nat) : JsonValue → Bool
  | .array items => items.isEmpty || (1 ≤ levels && shallowItems (levels - 1) items)
  | .object fields => fields.isEmpty || (1 ≤ levels && shallowFields (levels - 1) fields)
  | .null | .bool _ | .number _ | .string _ => true

/-- The items have at most this many levels below them. -/
def shallowItems (levels : Nat) : List JsonValue → Bool
  | [] => true
  | item :: rest => shallow levels item && shallowItems levels rest

/-- The values of the fields have at most this many levels below them. -/
def shallowFields (levels : Nat) : List (String × JsonValue) → Bool
  | [] => true
  | (_, value) :: rest => shallow levels value && shallowFields levels rest

end

/-- Reject a value of more than 32 levels, or of more bytes than a bound. -/
def requireBoundedJson (value : JsonValue) (maxBytes : Nat) (code : String) : Checked Unit :=
  rejectIf (shallow 32 value = false ∨ maxBytes < value.encodedSize) (contractError code)

/-- What an execution may use. -/
structure DeviceExecutionLimits where
  timeoutMs : Int
  maxOutputBytes : Int
  maxArtifactBytes : Int
deriving DecidableEq

/-- The trace that a command belongs to. -/
structure DeviceTraceContext where
  traceparent : Option JsString
  tracestate : Option JsString
deriving DecidableEq

/-- The approval that a command was authorized by. -/
structure DeviceCommandApprovalProof where
  approvalId : JsString
  approvalRevision : Int
  actionDigest : JsString
  policySnapshotId : JsString
  decidedAt : JsString
deriving DecidableEq

/-- The authorization of a command. -/
structure DeviceCommandAuthorization where
  keyId : JsString
  issuedAt : JsString
  expiresAt : JsString
  approvalProof : Option DeviceCommandApprovalProof
  signature : JsString
deriving DecidableEq

/-- A command for a device. Its arguments are the absent value when it refers to a payload. -/
structure DeviceExecutionCommand where
  deviceId : JsString
  leaseId : JsString
  leaseEpoch : Int
  expiresAt : JsString
  runId : JsString
  stepId : JsString
  attemptId : JsString
  executionId : JsString
  workspaceBindingId : JsString
  capability : JsString
  actionDigest : JsString
  arguments : JsonValue
  payloadRef : Option JsString
  limits : DeviceExecutionLimits
  idempotencyKey : JsString
  traceContext : DeviceTraceContext
  authorization : DeviceCommandAuthorization

/-- The limits as JSON. -/
def DeviceExecutionLimits.json (limits : DeviceExecutionLimits) : JsonValue :=
  .object [("timeoutMs", .number limits.timeoutMs),
    ("maxOutputBytes", .number limits.maxOutputBytes),
    ("maxArtifactBytes", .number limits.maxArtifactBytes)]

/-- The trace as JSON. -/
def DeviceTraceContext.json (trace : DeviceTraceContext) : JsonValue :=
  .object [("traceparent", .ofOption .string trace.traceparent),
    ("tracestate", .ofOption .string trace.tracestate)]

/-- The approval as JSON. -/
def DeviceCommandApprovalProof.json (proof : DeviceCommandApprovalProof) : JsonValue :=
  .object [("schemaVersion", .string (js "crewon.device-approval-proof.v0")),
    ("approvalId", .string proof.approvalId), ("approvalRevision", .number proof.approvalRevision),
    ("actionDigest", .string proof.actionDigest),
    ("policySnapshotId", .string proof.policySnapshotId), ("decidedAt", .string proof.decidedAt)]

/-- The fields of an authorization that its signature is over. -/
def DeviceCommandAuthorization.unsignedFields (authorization : DeviceCommandAuthorization) :
    List (String × JsonValue) :=
  [("schemaVersion", .string (js "crewon.device-authorization.v0")),
    ("scheme", .string (js "ed25519")), ("keyId", .string authorization.keyId),
    ("issuedAt", .string authorization.issuedAt), ("expiresAt", .string authorization.expiresAt),
    ("approvalProof", .ofOption DeviceCommandApprovalProof.json authorization.approvalProof)]

/-- The authorization as JSON. -/
def DeviceCommandAuthorization.json (authorization : DeviceCommandAuthorization) : JsonValue :=
  .object (authorization.unsignedFields ++ [("signature", .string authorization.signature)])

namespace DeviceExecutionCommand

/-- The fields of a command but its authorization. -/
def unsignedFields (command : DeviceExecutionCommand) : List (String × JsonValue) :=
  [("schemaVersion", .string (js "crewon.device-command.v0")), ("protocolVersion", .number 1),
    ("deviceId", .string command.deviceId), ("leaseId", .string command.leaseId),
    ("leaseEpoch", .number command.leaseEpoch), ("expiresAt", .string command.expiresAt),
    ("runId", .string command.runId), ("stepId", .string command.stepId),
    ("attemptId", .string command.attemptId), ("executionId", .string command.executionId),
    ("workspaceBindingId", .string command.workspaceBindingId),
    ("capability", .string command.capability), ("actionDigest", .string command.actionDigest),
    ("arguments", command.arguments), ("payloadRef", .ofOption .string command.payloadRef),
    ("limits", command.limits.json), ("idempotencyKey", .string command.idempotencyKey),
    ("traceContext", command.traceContext.json)]

/-- The command as JSON. -/
def json (command : DeviceExecutionCommand) : JsonValue :=
  .object (command.unsignedFields ++ [("authorization", command.authorization.json)])

/-- The value that the signature of a command is over. -/
def signingValue (command : DeviceExecutionCommand) : JsonValue :=
  .object [("schemaVersion", .string (js "crewon.device-command-signature-payload.v0")),
    ("command", .object command.unsignedFields),
    ("authorization", .object command.authorization.unsignedFields)]

/-- The command has arguments. -/
def argumentsPresent (command : DeviceExecutionCommand) : Bool :=
  match command.arguments with
  | .null => false
  | .bool _ | .number _ | .string _ | .array _ | .object _ => true

end DeviceExecutionCommand

/-- The checks of the limits. -/
def parseDeviceExecutionLimits (limits : DeviceExecutionLimits) : Checked Unit := do
  requirePositiveIntegerAtMost limits.timeoutMs (24 * 60 * 60 * 1000) "device_timeout_invalid"
  requirePositiveIntegerAtMost limits.maxOutputBytes (1024 * 1024) "device_output_limit_invalid"
  requirePositiveIntegerAtMost limits.maxArtifactBytes (1024 * 1024 * 1024)
    "device_artifact_limit_invalid"

/-- The pattern `^[\da-f]{2}-[\da-f]{32}-[\da-f]{16}-[\da-f]{2}$`. -/
def isTraceparent (text : JsString) : Bool :=
  let parts := text.splitOn (unit '-')
  parts.map JsString.length == [2, 32, 16, 2] && parts.all fun part => part.units.all isHexDigit

/-- The checks of a trace. -/
def parseTraceContext (trace : DeviceTraceContext) : Checked Unit := do
  whenPresent trace.traceparent fun text =>
    rejectIf (isTraceparent text = false) (contractError "device_traceparent_invalid")
  whenPresent trace.tracestate fun text =>
    rejectIf (512 < text.length ∨ (text.units.any fun point => point == 13 || point == 10) = true)
      (contractError "device_tracestate_invalid")

/-- The pattern `^[A-Za-z0-9_-]{86}$`. -/
def isSignature (text : JsString) : Bool :=
  text.length == 86 &&
    text.units.all fun point => isAlphanumeric point || point == unit '_' || point == unit '-'

/-- The checks of the approval of a command. -/
def parseApprovalProof (proof : DeviceCommandApprovalProof) (actionDigest issuedAt : JsString) :
    Checked Unit := do
  rejectIf (proof.actionDigest ≠ actionDigest ∨ isSafeInteger proof.approvalRevision = false ∨
      proof.approvalRevision < 2) (contractError "device_approval_proof_invalid")
  requireOpaqueId proof.approvalId "device_approval_proof_invalid"
  requireOpaqueId proof.policySnapshotId "device_approval_proof_invalid"
  requireTimestamp proof.decidedAt (contractError "device_approval_proof_invalid")
  rejectIf (isEarlier issuedAt proof.decidedAt = true)
    (contractError "device_approval_proof_invalid")

/-- The checks of the authorization of a command. -/
def parseDeviceCommandAuthorization (authorization : DeviceCommandAuthorization)
    (actionDigest commandExpiresAt : JsString) : Checked Unit := do
  requireOpaqueId authorization.keyId "device_authorization_key_invalid"
  requireTimestamp authorization.issuedAt (contractError "device_authorization_timestamp_invalid")
  requireTimestamp authorization.expiresAt (contractError "device_authorization_expiry_invalid")
  rejectIf (isEarlier authorization.issuedAt authorization.expiresAt = false ∨
      isEarlier commandExpiresAt authorization.expiresAt = true)
    (contractError "device_authorization_expiry_invalid")
  rejectIf (isSignature authorization.signature = false)
    (contractError "device_authorization_signature_invalid")
  whenPresent authorization.approvalProof fun proof =>
    parseApprovalProof proof actionDigest authorization.issuedAt

/-- The checks of a command. -/
def parseDeviceExecutionCommand (command : DeviceExecutionCommand) : Checked Unit := do
  requireOpaqueId command.deviceId "device_id_invalid"
  requireOpaqueId command.leaseId "device_lease_id_invalid"
  requireOpaqueId command.runId "device_run_id_invalid"
  requireOpaqueId command.stepId "device_step_id_invalid"
  requireOpaqueId command.attemptId "device_attempt_id_invalid"
  requireOpaqueId command.executionId "device_execution_id_invalid"
  requireOpaqueId command.workspaceBindingId "device_workspace_binding_invalid"
  requireOpaqueId command.idempotencyKey "device_idempotency_key_invalid"
  requirePositiveInteger command.leaseEpoch (contractError "device_lease_epoch_invalid")
  requireTimestamp command.expiresAt (contractError "device_lease_expiry_invalid")
  requireCapability command.capability
  requireDigest command.actionDigest "device_action_digest_invalid"
  rejectIf (command.argumentsPresent = command.payloadRef.isSome)
    (contractError "device_payload_choice_invalid")
  match command.payloadRef with
  | none => requireBoundedJson command.arguments (64 * 1024) "device_arguments_invalid"
  | some payloadRef => requireOpaqueId payloadRef "device_payload_ref_invalid"
  parseDeviceExecutionLimits command.limits
  parseTraceContext command.traceContext
  parseDeviceCommandAuthorization command.authorization command.actionDigest command.expiresAt
  requireBoundedJson command.json (128 * 1024) "device_command_too_large"

/-- The text that the signature of a command is over. -/
def canonicalDeviceCommandSigningPayload (command : DeviceExecutionCommand) : Checked JsString := do
  parseDeviceExecutionCommand command
  return stableJson command.signingValue

end Crewon.Contracts
