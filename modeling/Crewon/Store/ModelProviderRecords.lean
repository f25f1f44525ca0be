import Crewon.Js.StableJson
import Crewon.Store.Queue

/-!
# Records of the settings of model providers

The settings of a tenant change in two phases. An operation is prepared with the settings that it
proposes, and is finalized, aborted or expired later. Every phase leaves a receipt under the key of
its request, and what the store reads back is checked again.
-/

namespace Crewon.Store

open Crewon.Js Crewon.Checked Crewon.Domain

/-- How a provider is authenticated. -/
inductive ModelProviderCredentialKind where
  | environment
  | keychain
  | none
deriving DecidableEq

/-- The setting of one provider. -/
structure ModelProviderSetting where
  providerId : JsString
  displayName : JsString
  endpoint : JsString
  credentialKind : ModelProviderCredentialKind
  environmentVariable : Option JsString
deriving DecidableEq

/-- The settings of a tenant. -/
structure ModelProviderSettingsCatalog where
  tenantId : JsString
  revision : Int
  activeProviderId : Option JsString
  runtimeBindingId : Option JsString
  bindings : List ModelProviderSetting
  updatedAt : Option JsString
deriving DecidableEq

/-- The settings that an operation proposes. -/
structure PendingModelProviderSettings where
  tenantId : JsString
  operationId : JsString
  coordinatorBinding : JsString
  baseRevision : Int
  activeProviderId : Option JsString
  runtimeBindingId : Option JsString
  bindings : List ModelProviderSetting
  preparedAt : JsString
  expiresAt : JsString
deriving DecidableEq

/-- Who changes settings. -/
structure ModelProviderSettingsMutationActor where
  principalId : JsString
  actorId : JsString
  spaceId : JsString
deriving DecidableEq

/-- A phase of an operation. -/
inductive ModelProviderSettingsPhase where
  | prepare
  | finalize
  | abort
  | expire
deriving DecidableEq

/-- A request to prepare an operation. -/
structure PrepareModelProviderSettingsInput where
  tenantId : JsString
  operationId : JsString
  coordinatorBinding : JsString
  idempotencyKey : JsString
  fingerprint : JsString
  actor : ModelProviderSettingsMutationActor
  expectedRevision : Int
  activeProviderId : Option JsString
  bindings : List ModelProviderSetting
  ttlMs : Int
deriving DecidableEq

/-- A request to finalize or to abort an operation. -/
structure CompleteModelProviderSettingsInput where
  tenantId : JsString
  operationId : JsString
  coordinatorBinding : JsString
  idempotencyKey : JsString
  fingerprint : JsString
  actor : ModelProviderSettingsMutationActor
deriving DecidableEq

/-- A request to expire an operation. -/
structure ExpireModelProviderSettingsInput where
  tenantId : JsString
  operationId : JsString
  recoveryBinding : JsString
  idempotencyKey : JsString
  fingerprint : JsString
  actor : ModelProviderSettingsMutationActor
deriving DecidableEq

/-- What a receipt holds. -/
inductive ProviderReceiptValue where
  | pending (value : PendingModelProviderSettings)
  | catalog (value : ModelProviderSettingsCatalog)
  | null
deriving DecidableEq

/-- A catalog that may be missing, as a receipt holds it. -/
def ProviderReceiptValue.ofCatalog : Option ModelProviderSettingsCatalog → ProviderReceiptValue
  | none => .null
  | some value => .catalog value

/-- The receipt of a phase. -/
structure ProviderReceiptEnvelope where
  phase : ModelProviderSettingsPhase
  operationId : JsString
  coordinatorBinding : JsString
  value : ProviderReceiptValue
  completedAt : Option JsString
  actor : ModelProviderSettingsMutationActor
deriving DecidableEq

/-- A prepared operation with the settings it started from. -/
structure StoredModelProviderSettingsOperation where
  pending : PendingModelProviderSettings
  baseCatalog : Option ModelProviderSettingsCatalog
  preparedBy : ModelProviderSettingsMutationActor
deriving DecidableEq

/-- Where an operation is. -/
inductive ModelProviderSettingsStatus where
  | pending
  | finalized
  | aborted
  | expired
deriving DecidableEq

/-- An operation in the store. -/
structure ModelProviderSettingsOperationRecord where
  authority : StoredModelProviderSettingsOperation
  status : ModelProviderSettingsStatus
  resultEnvelope : Option ProviderReceiptEnvelope
  terminalBinding : Option JsString
  completedAt : Option JsString
deriving DecidableEq

/-- The rejection of a request. -/
def invalidProviderInput : Failure := runStoreError "model_provider_settings_input_invalid"

/-- The rejection of what the store holds. -/
def invalidProviderState : Failure := runStoreError "model_provider_settings_stored_state_invalid"

/-- A text without white space at its ends, without controls, and of bounded length. -/
def boundedTrimmed (value : JsString) (maxBytes : Nat) : Bool :=
  value.length ≠ 0 && value = value.trim && !value.units.any JsString.isControlOrDelete &&
    value.fitsBytes maxBytes

/-- The pattern `^[a-z0-9][a-z0-9_-]*$` up to 128 units. -/
def validProviderId (value : JsString) : Bool :=
  value.length ≤ 128 &&
    match value.units with
    | [] => false
    | first :: rest => (isLowerLetter first || isDigit first) && rest.all fun point =>
        isLowerLetter point || isDigit point || point == unit '_' || point == unit '-'

/-- The pattern `^[A-Za-z_][A-Za-z0-9_]*$` up to 128 units. -/
def validEnvironmentVariable (value : JsString) : Bool :=
  value.length ≤ 128 &&
    match value.units with
    | [] => false
    | first :: rest => (isAlphanumeric first && !isDigit first || first == unit '_') &&
        rest.all fun point => isAlphanumeric point || point == unit '_'

/-- An actor with valid names. -/
def validMutationActor (actor : ModelProviderSettingsMutationActor) : Bool :=
  boundedTrimmed actor.principalId 512 && boundedTrimmed actor.actorId 512 &&
    boundedTrimmed actor.spaceId 512

/-- The identity of a request is valid. -/
def validMutationIdentity (tenantId operationId coordinatorBinding idempotencyKey fingerprint :
    JsString) : Bool :=
  boundedTrimmed tenantId 512 && boundedTrimmed operationId 256 &&
    boundedTrimmed coordinatorBinding 512 && boundedTrimmed idempotencyKey 256 &&
    isDigest fingerprint

/-- An environment variable is named exactly when the credential comes from one. -/
def validCredentialEnvironment (setting : ModelProviderSetting) : Bool :=
  match setting.credentialKind, setting.environmentVariable with
  | .environment, some named => validEnvironmentVariable named
  | .environment, none => false
  | _, named => named = none

/-- The providers are different, and the active one is among them. -/
def validActiveBinding (activeProviderId : Option JsString)
    (bindings : List ModelProviderSetting) : Bool :=
  (bindings.map (·.providerId)).Nodup ∧
    ∀ active ∈ activeProviderId, active ∈ bindings.map (·.providerId)

/-- A runtime is bound exactly when a provider is active. -/
def validRuntimeBinding (activeProviderId runtimeBindingId : Option JsString) : Bool :=
  match activeProviderId, runtimeBindingId with
  | none, bound => bound = none
  | some _, some bound => boundedTrimmed bound 512
  | some _, none => false

section Reading

-- the host's reading of a date text in any format, and the endpoints that the host's reading of
-- addresses accepts
variable (parse : JsString → Option Int) (validEndpoint : JsString → Bool)

/-- A text that the store accepts as an instant. -/
def validProviderTimestamp (value : JsString) : Bool :=
  value.length ≤ 64 && value.units.getLast? == some (unit 'Z') && (parse value).isSome

/-- Both texts name instants and the first is strictly earlier. -/
def readsEarlier (first second : JsString) : Bool :=
  match parse first, parse second with
  | some start, some stop => start < stop
  | _, _ => false

/-- Both texts name instants and the second is not earlier. -/
def readsNoLater (first second : JsString) : Bool :=
  match parse first, parse second with
  | some start, some stop => start ≤ stop
  | _, _ => false

/-- A setting is valid. -/
def validBinding (setting : ModelProviderSetting) : Bool :=
  validProviderId setting.providerId && boundedTrimmed setting.displayName 256 &&
    setting.endpoint.length ≤ 2048 && validEndpoint setting.endpoint &&
    validCredentialEnvironment setting

/-- The largest number of settings of a tenant. -/
def maxBindings : Nat := 128

/-- The longest time until a prepared operation expires. -/
def maxPrepareWindowMs : Int := 5 * 60 * 1000

/-- The checks of a request to prepare an operation. -/
def validatePrepareModelProviderSettingsInput (input : PrepareModelProviderSettingsInput) :
    Checked Unit := do
  rejectIf (validMutationIdentity input.tenantId input.operationId input.coordinatorBinding
      input.idempotencyKey input.fingerprint = false ∨ validMutationActor input.actor = false ∨
      isNonNegativeInteger input.expectedRevision = false ∨
      isPositiveInteger input.ttlMs = false ∨ maxPrepareWindowMs < input.ttlMs ∨
      maxBindings < input.bindings.length)
    invalidProviderInput
  rejectIf (input.bindings.all (validBinding validEndpoint) = false) invalidProviderInput
  rejectIf (validActiveBinding input.activeProviderId input.bindings = false) invalidProviderInput

/-- The checks of a request to finalize or to abort an operation. -/
def validateCompleteModelProviderSettingsInput (input : CompleteModelProviderSettingsInput) :
    Checked Unit :=
  rejectIf (validMutationIdentity input.tenantId input.operationId input.coordinatorBinding
      input.idempotencyKey input.fingerprint = false ∨ validMutationActor input.actor = false)
    invalidProviderInput

/-- The checks of a request to expire an operation. -/
def validateExpireModelProviderSettingsInput (input : ExpireModelProviderSettingsInput) :
    Checked Unit :=
  rejectIf (validMutationIdentity input.tenantId input.operationId input.recoveryBinding
      input.idempotencyKey input.fingerprint = false ∨ validMutationActor input.actor = false)
    invalidProviderInput

/-- The checks of settings that the store holds. -/
def parseStoredModelProviderSettings (catalog : ModelProviderSettingsCatalog)
    (expectedTenantId : JsString) : Checked Unit := do
  rejectIf (catalog.tenantId ≠ expectedTenantId ∨ isPositiveInteger catalog.revision = false ∨
      (catalog.updatedAt.map (validProviderTimestamp parse)).getD false = false ∨
      maxBindings < catalog.bindings.length)
    invalidProviderState
  rejectIf (catalog.bindings.all (validBinding validEndpoint) = false) invalidProviderState
  rejectIf (validActiveBinding catalog.activeProviderId catalog.bindings = false)
    invalidProviderState
  rejectIf (validRuntimeBinding catalog.activeProviderId catalog.runtimeBindingId = false)
    invalidProviderState

/-- The checks of a pending operation that the store holds. -/
def parseStoredPendingModelProviderSettings (pending : PendingModelProviderSettings)
    (expectedTenantId : JsString) : Checked Unit := do
  rejectIf (pending.tenantId ≠ expectedTenantId ∨
      boundedTrimmed pending.operationId 256 = false ∨
      boundedTrimmed pending.coordinatorBinding 512 = false ∨
      isNonNegativeInteger pending.baseRevision = false ∨
      validProviderTimestamp parse pending.preparedAt = false ∨
      validProviderTimestamp parse pending.expiresAt = false ∨
      readsEarlier parse pending.preparedAt pending.expiresAt = false ∨
      maxBindings < pending.bindings.length)
    invalidProviderState
  rejectIf (pending.bindings.all (validBinding validEndpoint) = false) invalidProviderState
  rejectIf (validActiveBinding pending.activeProviderId pending.bindings = false)
    invalidProviderState
  rejectIf (validRuntimeBinding pending.activeProviderId pending.runtimeBindingId = false)
    invalidProviderState
  rejectIf (pending.runtimeBindingId ≠
      if pending.activeProviderId = none then none else some pending.coordinatorBinding)
    invalidProviderState

/-- The checks of a receipt against what is asked for. -/
def parseReceiptEnvelope (envelope : ProviderReceiptEnvelope) (operationId coordinatorBinding :
    JsString) (actor : Option ModelProviderSettingsMutationActor)
    (phase : ModelProviderSettingsPhase) : Checked Unit := do
  rejectIf (envelope.phase ≠ phase ∨ envelope.operationId ≠ operationId ∨
      envelope.coordinatorBinding ≠ coordinatorBinding)
    invalidProviderState
  rejectIf (validMutationActor envelope.actor = false ∨ ∃ asked ∈ actor, envelope.actor ≠ asked)
    invalidProviderState
  rejectIf (∃ completedAt ∈ envelope.completedAt, validProviderTimestamp parse completedAt = false)
    invalidProviderState

/-- The settings of a receipt that may hold none. -/
def receiptCatalog (value : ProviderReceiptValue) (tenantId : JsString) :
    Checked (Option ModelProviderSettingsCatalog) :=
  match value with
  | .null => .ok none
  | .catalog catalog => do
    parseStoredModelProviderSettings parse validEndpoint catalog tenantId
    return some catalog
  | .pending _ => .error invalidProviderState

/-- Settings that may not be missing. -/
def requiredCatalog : Option ModelProviderSettingsCatalog → Checked ModelProviderSettingsCatalog
  | some catalog => .ok catalog
  | none => .error invalidProviderState

/-- The instant of a receipt. -/
def receiptCompletedAt (envelope : ProviderReceiptEnvelope) : Checked JsString :=
  match envelope.completedAt with
  | some completedAt => do
    rejectIf (validProviderTimestamp parse completedAt = false) invalidProviderState
    return completedAt
  | none => .error invalidProviderState

/-- The operation of the receipt of a preparation. -/
def parsePrepareModelProviderSettingsReceipt (envelope : ProviderReceiptEnvelope)
    (input : PrepareModelProviderSettingsInput) : Checked PendingModelProviderSettings := do
  parseReceiptEnvelope parse envelope input.operationId input.coordinatorBinding input.actor
    .prepare
  rejectIf (envelope.completedAt ≠ none) invalidProviderState
  match envelope.value with
  | .pending pending => do
    parseStoredPendingModelProviderSettings parse validEndpoint pending input.tenantId
    rejectIf (pending.baseRevision ≠ input.expectedRevision ∨
        ((parse pending.expiresAt).bind fun stop => (parse pending.preparedAt).map (stop - ·)) ≠
          some input.ttlMs ∨
        pending.activeProviderId ≠ input.activeProviderId ∨ pending.bindings ≠ input.bindings)
      invalidProviderState
    return pending
  | _ => .error invalidProviderState

/-- The settings of the receipt of a finalization. -/
def parseFinalizeModelProviderSettingsReceipt (envelope : ProviderReceiptEnvelope)
    (input : CompleteModelProviderSettingsInput) : Checked ModelProviderSettingsCatalog := do
  parseReceiptEnvelope parse envelope input.operationId input.coordinatorBinding input.actor
    .finalize
  let completedAt ← receiptCompletedAt parse envelope
  let found ← receiptCatalog parse validEndpoint envelope.value input.tenantId
  let catalog ← requiredCatalog found
  rejectIf (catalog.updatedAt ≠ some completedAt) invalidProviderState
  return catalog

/-- The settings of the receipt of an abortion. -/
def parseAbortModelProviderSettingsReceipt (envelope : ProviderReceiptEnvelope)
    (input : CompleteModelProviderSettingsInput) :
    Checked (Option ModelProviderSettingsCatalog) := do
  parseReceiptEnvelope parse envelope input.operationId input.coordinatorBinding input.actor .abort
  let _ ← receiptCompletedAt parse envelope
  receiptCatalog parse validEndpoint envelope.value input.tenantId

/-- The settings of the receipt of an expiry. -/
def parseExpireModelProviderSettingsReceipt (envelope : ProviderReceiptEnvelope)
    (input : ExpireModelProviderSettingsInput) : Checked (Option ModelProviderSettingsCatalog) := do
  parseReceiptEnvelope parse envelope input.operationId input.recoveryBinding input.actor .expire
  let _ ← receiptCompletedAt parse envelope
  receiptCatalog parse validEndpoint envelope.value input.tenantId

/-- The settings are those that the operation proposed, in time. -/
def validateFinalizedModelProviderSettingsOperation
    (operation : StoredModelProviderSettingsOperation) (catalog : ModelProviderSettingsCatalog) :
    Checked Unit :=
  rejectIf (catalog.tenantId ≠ operation.pending.tenantId ∨
      catalog.revision ≠ operation.pending.baseRevision + 1 ∨
      catalog.activeProviderId ≠ operation.pending.activeProviderId ∨
      catalog.runtimeBindingId ≠ operation.pending.runtimeBindingId ∨
      catalog.bindings ≠ operation.pending.bindings ∨ catalog.updatedAt = none ∨
      ∃ updatedAt ∈ catalog.updatedAt, readsEarlier parse updatedAt operation.pending.preparedAt ∨
        readsEarlier parse operation.pending.expiresAt updatedAt)
    invalidProviderState

/-- The settings are those that the operation started from. -/
def validateAbortedModelProviderSettingsOperation
    (operation : StoredModelProviderSettingsOperation)
    (catalog : Option ModelProviderSettingsCatalog) : Checked Unit :=
  rejectIf (catalog ≠ operation.baseCatalog) invalidProviderState

/-- The phase that ends an operation in a status. -/
def terminalPhase : ModelProviderSettingsStatus → ModelProviderSettingsPhase
  | .pending => .prepare
  | .finalized => .finalize
  | .aborted => .abort
  | .expired => .expire

/-- The settings of the receipt of an operation that ended. -/
def validateStoredTerminalModelProviderSettingsOperation
    (record : ModelProviderSettingsOperationRecord) :
    Checked (Option ModelProviderSettingsCatalog) :=
  match record.terminalBinding, record.completedAt, record.resultEnvelope with
  | some terminalBinding, some completedAt, some envelope => do
    let pending := record.authority.pending
    rejectIf (validProviderTimestamp parse completedAt = false) invalidProviderState
    rejectIf (record.status ≠ .expired ∧ terminalBinding ≠ pending.coordinatorBinding)
      invalidProviderState
    parseReceiptEnvelope parse envelope pending.operationId terminalBinding none
      (terminalPhase record.status)
    rejectIf (envelope.completedAt ≠ some completedAt ∨
        readsEarlier parse completedAt pending.preparedAt ∨
        (record.status = .expired ∧ readsEarlier parse completedAt pending.expiresAt))
      invalidProviderState
    let catalog ← receiptCatalog parse validEndpoint envelope.value pending.tenantId
    if record.status = .finalized then do
      let found ← requiredCatalog catalog
      rejectIf (found.updatedAt ≠ some completedAt) invalidProviderState
      validateFinalizedModelProviderSettingsOperation parse record.authority found
    else validateAbortedModelProviderSettingsOperation record.authority catalog
    return catalog
  | _, _, _ => .error invalidProviderState

end Reading

end Crewon.Store
