import Crewon.Contracts.DeviceProtocol
import Crewon.Js.CanonicalJson
import Crewon.Js.JsonTree
import Crewon.Lib.OrderedMap
import Mathlib.Data.List.Sort

/-!
# The signature of a device command

A command is read from JSON: its fields are exactly the known ones, and every one is checked. The
signature is over a JSON text with the keys in order, which holds all of the command but the
signature itself.
-/

namespace Crewon.Contracts.DeviceCommandSigning

open Crewon.Js Crewon.Checked Crewon.Domain Crewon.Lib Json

/-- The value under a key; the keys of a record are checked before its values. -/
def valueOf (fields : Fields) (key : String) : Json :=
  (findIn (js key) fields).getD .null

/-- A record without a key. -/
def without (fields : Fields) (key : String) : Fields :=
  fields.filter fun field => field.1 ≠ js key

/-- The value with the keys of every record in order. -/
def sortJson (value : Json) : Json := rebuilt fromEntries value

/-! ## Checks of values -/

/-- The fields of a record. -/
def requireObject (value : Json) (code : String) : Checked Fields :=
  match value with
  | .object fields => .ok fields
  | _ => .error (contractError code)

/-- Reject a record whose keys are not the expected ones. -/
def requireExactKeys (value : Fields) (expected : List String) : Checked Unit :=
  rejectIf ((value.map Prod.fst).insertionSort (· ≤ ·) ≠
    (expected.map js).insertionSort (· ≤ ·)) (contractError "device_fields_invalid")

/-- A text. -/
def requireText (value : Json) (code : String) : Checked JsString :=
  match value with
  | .string text => .ok text
  | _ => .error (contractError code)

/-- An id of the wire grammar. -/
def requireOpaqueId (value : Json) (code : String) : Checked Unit := do
  let text ← requireText value code
  Contracts.requireOpaqueId text code

/-- A capability. -/
def requireCapability (value : Json) : Checked Unit := do
  let text ← requireText value "device_capability_invalid"
  Contracts.requireCapability text

/-- A digest. -/
def requireDigest (value : Json) (code : String) : Checked Unit := do
  let text ← requireText value code
  Contracts.requireDigest text code

/-- A timestamp. -/
def requireTimestamp (value : Json) (code : String) : Checked JsString := do
  let text ← requireText value code
  Domain.requireTimestamp text (contractError code)
  return text

/-- The safe integer that a value is. -/
def safeInteger (value : Json) : Option Int :=
  match value with
  | .number number =>
    if number.value.den = 1 ∧ isSafeInteger number.value.num then some number.value.num else none
  | _ => none

/-- A safe integer between one and a bound. -/
def requirePositiveIntegerAtMost (value : Json) (maximum : Int) (code : String) : Checked Unit :=
  match safeInteger value with
  | some number => Contracts.requirePositiveIntegerAtMost number maximum code
  | none => .error (contractError code)

/-- A positive safe integer. -/
def requirePositiveInteger (value : Json) (code : String) : Checked Unit :=
  requirePositiveIntegerAtMost value maxSafeInteger code

mutual

/-- The value is nested at most as deep as it may be. -/
def isJsonValue (value : Json) (depth : Nat) : Bool :=
  if maxDepth < depth then false
  else
    match value with
    | .array items => isJsonItems items (depth + 1)
    | .object fields => isJsonFields fields (depth + 1)
    | .null | .bool _ | .number _ | .string _ => true

/-- The items are nested at most as deep as they may be. -/
def isJsonItems (items : List Json) (depth : Nat) : Bool :=
  match items with
  | [] => true
  | item :: rest => isJsonValue item depth && isJsonItems rest depth

/-- The fields are nested at most as deep as they may be. -/
def isJsonFields (fields : Fields) (depth : Nat) : Bool :=
  match fields with
  | [] => true
  | (_, value) :: rest => isJsonValue value depth && isJsonFields rest depth

end

/-- The bytes of the JSON text of a value. -/
def encodedBytes (value : Json) : Nat := value.encodedSize fun number => number.text.length

/-- Reject a value that is nested too deep or too long. -/
def requireBoundedJson (value : Json) (maxBytes : Nat) (code : String) : Checked Unit := do
  rejectIf (isJsonValue value 0 = false) (contractError code)
  rejectIf (maxBytes < encodedBytes value) (contractError code)

/-! ## Reading a command -/

/-- The limits of an execution. -/
def parseDeviceExecutionLimits (value : Json) : Checked Unit := do
  let limits ← requireObject value "device_limits_invalid"
  requireExactKeys limits ["maxArtifactBytes", "maxOutputBytes", "timeoutMs"]
  requirePositiveIntegerAtMost (valueOf limits "timeoutMs") (24 * 60 * 60 * 1000)
    "device_timeout_invalid"
  requirePositiveIntegerAtMost (valueOf limits "maxOutputBytes") (1024 * 1024)
    "device_output_limit_invalid"
  requirePositiveIntegerAtMost (valueOf limits "maxArtifactBytes") (1024 * 1024 * 1024)
    "device_artifact_limit_invalid"

/-- The trace of a command. -/
def parseTraceContext (value : Json) : Checked Unit := do
  let trace ← requireObject value "device_trace_context_invalid"
  requireExactKeys trace ["traceparent", "tracestate"]
  match valueOf trace "traceparent" with
  | .null => pure ()
  | traceparent => do
    let text ← requireText traceparent "device_traceparent_invalid"
    rejectIf (isTraceparent text = false) (contractError "device_traceparent_invalid")
  match valueOf trace "tracestate" with
  | .null => pure ()
  | tracestate => do
    let text ← requireText tracestate "device_tracestate_invalid"
    rejectIf (512 < text.length ∨ (text.units.any fun point => point == 13 || point == 10) = true)
      (contractError "device_tracestate_invalid")

/-- The approval of a command, for the digest of its action and the time it was authorized at. -/
def parseApprovalProof (value actionDigest : Json) (issuedAt : JsString) : Checked Unit := do
  let proof ← requireObject value "device_approval_proof_invalid"
  requireExactKeys proof ["actionDigest", "approvalId", "approvalRevision", "decidedAt",
    "policySnapshotId", "schemaVersion"]
  rejectIf (valueOf proof "schemaVersion" ≠ .string (js "crewon.device-approval-proof.v0") ∨
      valueOf proof "actionDigest" ≠ actionDigest ∨
      ((safeInteger (valueOf proof "approvalRevision")).any fun revision => 2 ≤ revision) = false)
    (contractError "device_approval_proof_invalid")
  requireOpaqueId (valueOf proof "approvalId") "device_approval_proof_invalid"
  requireOpaqueId (valueOf proof "policySnapshotId") "device_approval_proof_invalid"
  let decidedAt ← requireTimestamp (valueOf proof "decidedAt") "device_approval_proof_invalid"
  rejectIf (isEarlier issuedAt decidedAt = true) (contractError "device_approval_proof_invalid")

/-- The approval of a command that needs one. -/
def parseOptionalProof (value actionDigest : Json) (issuedAt : JsString) : Checked Unit :=
  match value with
  | .null => pure ()
  | proof => parseApprovalProof proof actionDigest issuedAt

/-- The authorization of a command, but its signature. -/
def parseAuthorizationTerms (authorization : Fields) (commandExpiresAt : JsString) :
    Checked JsString := do
  rejectIf (valueOf authorization "schemaVersion" ≠
      .string (js "crewon.device-authorization.v0") ∨
      valueOf authorization "scheme" ≠ .string (js "ed25519"))
    (contractError "device_authorization_invalid")
  requireOpaqueId (valueOf authorization "keyId") "device_authorization_key_invalid"
  let issuedAt ← requireTimestamp (valueOf authorization "issuedAt")
    "device_authorization_timestamp_invalid"
  let expiresAt ← requireTimestamp (valueOf authorization "expiresAt")
    "device_authorization_expiry_invalid"
  rejectIf (isEarlier issuedAt expiresAt = false ∨ isEarlier commandExpiresAt expiresAt = true)
    (contractError "device_authorization_expiry_invalid")
  return issuedAt

/-- A signature. -/
def requireSignature (value : Json) : Checked Unit := do
  let signature ← requireText value "device_authorization_signature_invalid"
  rejectIf (isSignature signature = false) (contractError "device_authorization_signature_invalid")

/-- The keys of an authorization. -/
def authorizationKeys : List String :=
  ["approvalProof", "expiresAt", "issuedAt", "keyId", "schemaVersion", "scheme", "signature"]

/-- The authorization of a command. -/
def parseDeviceCommandAuthorization (value actionDigest : Json) (commandExpiresAt : JsString) :
    Checked Unit := do
  let authorization ← requireObject value "device_authorization_invalid"
  requireExactKeys authorization authorizationKeys
  let issuedAt ← parseAuthorizationTerms authorization commandExpiresAt
  requireSignature (valueOf authorization "signature")
  parseOptionalProof (valueOf authorization "approvalProof") actionDigest issuedAt

/-- The keys of a command. -/
def commandKeys : List String :=
  ["actionDigest", "arguments", "attemptId", "authorization", "capability", "deviceId",
    "executionId", "expiresAt", "idempotencyKey", "leaseEpoch", "leaseId", "limits", "payloadRef",
    "protocolVersion", "runId", "schemaVersion", "stepId", "traceContext", "workspaceBindingId"]

/-- The ids of a command and the codes of their rejections. -/
def commandIds : List (String × String) :=
  [("deviceId", "device_id_invalid"), ("leaseId", "device_lease_id_invalid"),
    ("runId", "device_run_id_invalid"), ("stepId", "device_step_id_invalid"),
    ("attemptId", "device_attempt_id_invalid"), ("executionId", "device_execution_id_invalid"),
    ("workspaceBindingId", "device_workspace_binding_invalid"),
    ("idempotencyKey", "device_idempotency_key_invalid")]

/-- The arguments of a command, or the reference to them. -/
def parsePayload (arguments payloadRef : Json) : Checked Unit := do
  rejectIf ((arguments ≠ .null) = (payloadRef ≠ .null))
    (contractError "device_payload_choice_invalid")
  if arguments ≠ .null then
    requireBoundedJson arguments (64 * 1024) "device_arguments_invalid"
  else requireOpaqueId payloadRef "device_payload_ref_invalid"

/-- The checks of a command in front of those of its authorization; the time it expires at. -/
def parseCommandTerms (command : Fields) : Checked JsString := do
  rejectIf (valueOf command "schemaVersion" ≠ .string (js "crewon.device-command.v0") ∨
      safeInteger (valueOf command "protocolVersion") ≠ some 1)
    (contractError "device_protocol_unsupported")
  forEach commandIds fun id => requireOpaqueId (valueOf command id.1) id.2
  requirePositiveInteger (valueOf command "leaseEpoch") "device_lease_epoch_invalid"
  let expiresAt ← requireTimestamp (valueOf command "expiresAt") "device_lease_expiry_invalid"
  requireCapability (valueOf command "capability")
  requireDigest (valueOf command "actionDigest") "device_action_digest_invalid"
  parsePayload (valueOf command "arguments") (valueOf command "payloadRef")
  parseDeviceExecutionLimits (valueOf command "limits")
  parseTraceContext (valueOf command "traceContext")
  return expiresAt

/-- Read a command. -/
def parseDeviceExecutionCommand (input : Json) : Checked Fields := do
  let command ← requireObject input "device_command_invalid"
  requireExactKeys command commandKeys
  let expiresAt ← parseCommandTerms command
  parseDeviceCommandAuthorization (valueOf command "authorization")
    (valueOf command "actionDigest") expiresAt
  requireBoundedJson (.object command) (128 * 1024) "device_command_too_large"
  return command

/-! ## The signed text -/

/-- The fields of a record; another value has none to copy. -/
def spread (value : Json) : Fields :=
  match value with
  | .object fields => fields
  | _ => []

/-- The value that a signature is over. -/
def signingValue (command : Fields) : Json :=
  .object [
    (js "schemaVersion", .string (js "crewon.device-command-signature-payload.v0")),
    (js "command", .object (without command "authorization")),
    (js "authorization", .object (without (spread (valueOf command "authorization")) "signature"))]

/-- The text that the signature of a command is over. -/
def canonicalDeviceCommandSigningPayload (input : Json) : Checked JsString := do
  let command ← parseDeviceExecutionCommand input
  return stringify (sortJson (signingValue command))

/-- A text of the length of a signature. -/
def placeholderSignature : JsString := ⟨List.replicate 86 (unit 'A')⟩

/-- The text that the signature of a command is over, which is not signed yet. -/
def canonicalUnsignedDeviceCommandSigningPayload (input : Fields) : Checked JsString :=
  let authorization := setIn (js "signature") (.string placeholderSignature)
    (spread (valueOf input "authorization"))
  canonicalDeviceCommandSigningPayload
    (.object (setIn (js "authorization") (.object authorization) input))

end Crewon.Contracts.DeviceCommandSigning
