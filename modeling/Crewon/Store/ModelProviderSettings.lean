import Crewon.Domain.RunLifecycle
import Crewon.Store.ModelProviderRecords

/-!
# The settings of model providers in the store

An operation on the settings of a tenant is prepared while none is pending and no run of the tenant
is active. Until it is finalized, aborted or expired, no run of the tenant is created, by whatever
entry point.
-/

namespace Crewon.Store

open Crewon.Js Crewon.Checked Crewon.Domain Crewon.Lib

/-- The receipt of a request, with the fingerprint of the request. -/
structure ProviderSettingsReceipt where
  fingerprint : JsString
  envelope : ProviderReceiptEnvelope
deriving DecidableEq

/-- The tables of the store that operations on settings use. -/
structure ProviderSettingsStore where
  runs : OrderedMap JsString RunState
  modelProviderSettings : OrderedMap JsString ModelProviderSettingsCatalog
  pendingModelProviderSettings : OrderedMap JsString PendingModelProviderSettings
  modelProviderSettingsOperations : OrderedMap JsString ModelProviderSettingsOperationRecord
  latestFinalizedProviderSettingsOperation : OrderedMap JsString JsString
  modelProviderSettingsReceipts : OrderedMap JsString ProviderSettingsReceipt

/-- The store without runs and settings. -/
def ProviderSettingsStore.empty : ProviderSettingsStore :=
  ⟨.empty, .empty, .empty, .empty, .empty, .empty⟩

/-- The name of a phase. -/
def ModelProviderSettingsPhase.name : ModelProviderSettingsPhase → String
  | .prepare => "prepare"
  | .finalize => "finalize"
  | .abort => "abort"
  | .expire => "expire"

/-- The key of a receipt. -/
def providerReceiptKey (tenantId idempotencyKey : JsString) (phase : ModelProviderSettingsPhase) :
    JsString :=
  stableJson (.array [.string tenantId, .string (js phase.name), .string idempotencyKey])

/-- The key of an operation. -/
def providerOperationKey (tenantId operationId : JsString) : JsString :=
  stableJson (.array [.string tenantId, .string operationId])

/-- Some run of the tenant is active. -/
def ProviderSettingsStore.hasActiveRun (store : ProviderSettingsStore) (tenantId : JsString) :
    Bool :=
  store.runs.values.any fun run => run.tenantId = tenantId && !isTerminal run.status

/-- The instant of a reading of the clock, as a text. -/
def instantText (now : Int) : Checked JsString :=
  match toIsoString now with
  | some text => .ok text
  | none => .error ⟨.range, "Invalid time value"⟩

section Settings

-- the host's reading of a date text in any format, and the endpoints that the host's reading of
-- addresses accepts
variable (parse : JsString → Option Int) (validEndpoint : JsString → Bool)

/-- The settings that an operation of the store ended with. -/
def validateProviderOperationRecord (record : ModelProviderSettingsOperationRecord) :
    Checked (Option ModelProviderSettingsCatalog) :=
  if record.status = .pending then do
    rejectIf (record.resultEnvelope ≠ none ∨ record.terminalBinding ≠ none ∨
      record.completedAt ≠ none) invalidProviderState
    return none
  else validateStoredTerminalModelProviderSettingsOperation parse validEndpoint record

/-- The settings of a tenant, which the latest finalized operation has to agree with. -/
def loadProviderHeadAuthority (store : ProviderSettingsStore) (tenantId : JsString) :
    Checked (Option ModelProviderSettingsCatalog) := do
  let catalog := store.modelProviderSettings.find tenantId
  let latestFinalizedKey := store.latestFinalizedProviderSettingsOperation.find tenantId
  rejectIf (catalog.isNone ≠ latestFinalizedKey.isNone) invalidProviderState
  whenPresent latestFinalizedKey fun key =>
    match store.modelProviderSettingsOperations.find key with
    | none => .error invalidProviderState
    | some latest => do
      rejectIf (latest.status ≠ .finalized) invalidProviderState
      let validated ← validateProviderOperationRecord parse validEndpoint latest
      rejectIf (validated ≠ catalog) invalidProviderState
  return catalog

/-- The pending operation of a tenant that a request names. -/
def requirePendingProviderOperation (store : ProviderSettingsStore)
    (input : CompleteModelProviderSettingsInput) : Checked PendingModelProviderSettings :=
  match store.pendingModelProviderSettings.find input.tenantId with
  | none => .error (runStoreError "model_provider_settings_operation_mismatch")
  | some pending => do
    rejectIf (pending.operationId ≠ input.operationId ∨
      pending.coordinatorBinding ≠ input.coordinatorBinding)
      (runStoreError "model_provider_settings_operation_mismatch")
    return pending

/-- The operation that a request names, of whatever its coordinator and status are asked for. -/
def requireOperationRecord (store : ProviderSettingsStore) (tenantId operationId : JsString)
    (asked : ModelProviderSettingsOperationRecord → Bool) (failure : Failure) :
    Checked ModelProviderSettingsOperationRecord :=
  match store.modelProviderSettingsOperations.find (providerOperationKey tenantId operationId) with
  | none => .error failure
  | some record => do
    rejectIf (asked record = false) failure
    let _ ← validateProviderOperationRecord parse validEndpoint record
    return record

/-- The operation of a coordinator in a status. -/
def requireProviderOperation (store : ProviderSettingsStore)
    (input : CompleteModelProviderSettingsInput) (status : ModelProviderSettingsStatus) :
    Checked ModelProviderSettingsOperationRecord :=
  requireOperationRecord parse validEndpoint store input.tenantId input.operationId
    (fun record => record.status = status &&
      record.authority.pending.coordinatorBinding = input.coordinatorBinding)
    (runStoreError "model_provider_settings_operation_mismatch")

/-- The operation of a coordinator in whatever status. -/
def requireProviderOperationAny (store : ProviderSettingsStore)
    (input : PrepareModelProviderSettingsInput) : Checked ModelProviderSettingsOperationRecord :=
  requireOperationRecord parse validEndpoint store input.tenantId input.operationId
    (fun record => record.authority.pending.coordinatorBinding = input.coordinatorBinding)
    invalidProviderState

/-- The operation that is recovered, pending or expired. -/
def requireProviderOperationByRecovery (store : ProviderSettingsStore)
    (input : ExpireModelProviderSettingsInput) (status : ModelProviderSettingsStatus) :
    Checked ModelProviderSettingsOperationRecord :=
  requireOperationRecord parse validEndpoint store input.tenantId input.operationId
    (fun record => record.status = status &&
      (status ≠ .expired || record.terminalBinding = some input.recoveryBinding))
    (runStoreError "model_provider_settings_operation_mismatch")

/-- What an operation on settings did. -/
inductive ProviderSettingsOutcome where
  /-- The request was answered from its receipt. -/
  | replayed (value : ProviderReceiptValue)
  /-- The operation went into a phase. -/
  | reached (phase : ModelProviderSettingsPhase) (value : ProviderReceiptValue)
deriving DecidableEq

/-- A receipt answers the request that it was written for. -/
def matchReceipt (receipt : ProviderSettingsReceipt) (fingerprint : JsString) : Checked Unit :=
  rejectIf (receipt.fingerprint ≠ fingerprint)
    (runStoreError "model_provider_settings_idempotency_conflict")

/-- Answer a preparation from its receipt. -/
def replayPrepare (store : ProviderSettingsStore) (input : PrepareModelProviderSettingsInput)
    (receipt : ProviderSettingsReceipt) : Checked ProviderSettingsOutcome := do
  matchReceipt receipt input.fingerprint
  let pending ← parsePrepareModelProviderSettingsReceipt parse validEndpoint receipt.envelope input
  let operation ← requireProviderOperationAny parse validEndpoint store input
  rejectIf (operation.authority.pending ≠ pending) invalidProviderState
  return .replayed (.pending pending)

/-- The operation that a request prepares. -/
def preparedOperation (store : ProviderSettingsStore) (input : PrepareModelProviderSettingsInput)
    (reading : Int) : Checked StoredModelProviderSettingsOperation := do
  rejectIf ((store.pendingModelProviderSettings.find input.tenantId).isSome = true)
    (runStoreError "model_provider_settings_pending")
  rejectIf (store.hasActiveRun input.tenantId = true)
    (runStoreError "model_provider_settings_active_run")
  let current ← loadProviderHeadAuthority parse validEndpoint store input.tenantId
  rejectIf ((current.map (·.revision)).getD 0 ≠ input.expectedRevision)
    (runStoreError "model_provider_settings_revision_conflict")
  rejectIf (input.activeProviderId ≠ none ∧
      current.bind (·.runtimeBindingId) = some input.coordinatorBinding)
    (runStoreError "model_provider_settings_operation_mismatch")
  let preparedAtMs ← readLeaseClock reading
  let expiry ← leaseExpiry preparedAtMs input.ttlMs
  let preparedAt ← instantText preparedAtMs
  return {
    pending := {
      tenantId := input.tenantId
      operationId := input.operationId
      coordinatorBinding := input.coordinatorBinding
      baseRevision := input.expectedRevision
      activeProviderId := input.activeProviderId
      runtimeBindingId :=
        if input.activeProviderId = none then none else some input.coordinatorBinding
      bindings := input.bindings
      preparedAt := preparedAt
      expiresAt := expiry.2 }
    baseCatalog := current
    preparedBy := input.actor }

/-- Store a prepared operation. -/
def ProviderSettingsStore.prepare (input : PrepareModelProviderSettingsInput)
    (authority : StoredModelProviderSettingsOperation) (store : ProviderSettingsStore) :
    ProviderSettingsStore :=
  { store with
    pendingModelProviderSettings :=
      store.pendingModelProviderSettings.set input.tenantId authority.pending
    modelProviderSettingsOperations := store.modelProviderSettingsOperations.set
      (providerOperationKey input.tenantId input.operationId)
      ⟨authority, .pending, none, none, none⟩
    modelProviderSettingsReceipts := store.modelProviderSettingsReceipts.set
      (providerReceiptKey input.tenantId input.idempotencyKey .prepare)
      ⟨input.fingerprint, ⟨.prepare, input.operationId, input.coordinatorBinding,
        .pending authority.pending, none, input.actor⟩⟩ }

/-- Prepare an operation. -/
def prepareModelProviderSettings (input : PrepareModelProviderSettingsInput) (reading : Int) :
    Program Failure ProviderSettingsStore ProviderSettingsOutcome := do
  Program.check (validatePrepareModelProviderSettingsInput validEndpoint input)
  let store ← Program.read id
  match store.modelProviderSettingsReceipts.find
      (providerReceiptKey input.tenantId input.idempotencyKey .prepare) with
  | some receipt => Program.check (replayPrepare parse validEndpoint store input receipt)
  | none => do
    let authority ← Program.check (preparedOperation parse validEndpoint store input reading)
    Program.update (ProviderSettingsStore.prepare input authority)
    return .reached .prepare (.pending authority.pending)

/-- The record of an operation that ends with a receipt. -/
def endedRecord (authority : StoredModelProviderSettingsOperation)
    (status : ModelProviderSettingsStatus) (envelope : ProviderReceiptEnvelope)
    (completedAt : JsString) : ModelProviderSettingsOperationRecord :=
  ⟨authority, status, some envelope, some envelope.coordinatorBinding, some completedAt⟩

/-- Store the end of an operation with its receipt. -/
def ProviderSettingsStore.finish (tenantId operationId receiptKey fingerprint : JsString)
    (record : ModelProviderSettingsOperationRecord) (envelope : ProviderReceiptEnvelope)
    (store : ProviderSettingsStore) : ProviderSettingsStore :=
  { store with
    pendingModelProviderSettings := store.pendingModelProviderSettings.erase tenantId
    modelProviderSettingsOperations := store.modelProviderSettingsOperations.set
      (providerOperationKey tenantId operationId) record
    modelProviderSettingsReceipts :=
      store.modelProviderSettingsReceipts.set receiptKey ⟨fingerprint, envelope⟩ }

/-- Answer a finalization from its receipt. -/
def replayFinalize (store : ProviderSettingsStore) (input : CompleteModelProviderSettingsInput)
    (receipt : ProviderSettingsReceipt) : Checked ProviderSettingsOutcome := do
  matchReceipt receipt input.fingerprint
  let catalog ← parseFinalizeModelProviderSettingsReceipt parse validEndpoint receipt.envelope input
  let operation ← requireProviderOperation parse validEndpoint store input .finalized
  rejectIf (operation.resultEnvelope ≠ some receipt.envelope) invalidProviderState
  validateFinalizedModelProviderSettingsOperation parse operation.authority catalog
  return .replayed (.catalog catalog)

/-- The operation that a request finalizes, with the settings it leads to. -/
def finalizedOperation (store : ProviderSettingsStore) (input : CompleteModelProviderSettingsInput)
    (reading : Int) :
    Checked (StoredModelProviderSettingsOperation × ModelProviderSettingsCatalog × JsString) := do
  let pending ← requirePendingProviderOperation store input
  let now ← readLeaseClock reading
  let finalizedAt ← instantText now
  rejectIf (readsEarlier parse finalizedAt pending.preparedAt = true)
    (runStoreError "model_provider_settings_operation_time_invalid")
  rejectIf (readsEarlier parse pending.expiresAt finalizedAt = true)
    (runStoreError "model_provider_settings_operation_expired")
  let operation ← requireProviderOperation parse validEndpoint store input .pending
  let current ← loadProviderHeadAuthority parse validEndpoint store input.tenantId
  rejectIf ((current.map (·.revision)).getD 0 ≠ pending.baseRevision ∨
      current ≠ operation.authority.baseCatalog)
    (runStoreError "model_provider_settings_revision_conflict")
  let catalog : ModelProviderSettingsCatalog := {
    tenantId := input.tenantId
    revision := pending.baseRevision + 1
    activeProviderId := pending.activeProviderId
    runtimeBindingId := pending.runtimeBindingId
    bindings := pending.bindings
    updatedAt := some finalizedAt }
  validateFinalizedModelProviderSettingsOperation parse operation.authority catalog
  return (operation.authority, catalog, finalizedAt)

/-- Store the settings that an operation led to. -/
def ProviderSettingsStore.setCatalog (input : CompleteModelProviderSettingsInput)
    (catalog : ModelProviderSettingsCatalog) (store : ProviderSettingsStore) :
    ProviderSettingsStore :=
  { store with
    modelProviderSettings := store.modelProviderSettings.set input.tenantId catalog
    latestFinalizedProviderSettingsOperation :=
      store.latestFinalizedProviderSettingsOperation.set input.tenantId
        (providerOperationKey input.tenantId input.operationId) }

/-- Finalize an operation. -/
def finalizeModelProviderSettings (input : CompleteModelProviderSettingsInput) (reading : Int) :
    Program Failure ProviderSettingsStore ProviderSettingsOutcome := do
  Program.check (validateCompleteModelProviderSettingsInput input)
  let receiptKey := providerReceiptKey input.tenantId input.idempotencyKey .finalize
  let store ← Program.read id
  match store.modelProviderSettingsReceipts.find receiptKey with
  | some receipt => Program.check (replayFinalize parse validEndpoint store input receipt)
  | none => do
    let ended ← Program.check (finalizedOperation parse validEndpoint store input reading)
    let envelope : ProviderReceiptEnvelope := ⟨.finalize, input.operationId,
      input.coordinatorBinding, .catalog ended.2.1, some ended.2.2, input.actor⟩
    Program.update (ProviderSettingsStore.setCatalog input ended.2.1)
    Program.update (ProviderSettingsStore.finish input.tenantId input.operationId receiptKey
      input.fingerprint (endedRecord ended.1 .finalized envelope ended.2.2) envelope)
    return .reached .finalize (.catalog ended.2.1)

/-- Answer an abortion from its receipt. -/
def replayAbort (store : ProviderSettingsStore) (input : CompleteModelProviderSettingsInput)
    (receipt : ProviderSettingsReceipt) : Checked ProviderSettingsOutcome := do
  matchReceipt receipt input.fingerprint
  let catalog ← parseAbortModelProviderSettingsReceipt parse validEndpoint receipt.envelope input
  let operation ← requireProviderOperation parse validEndpoint store input .aborted
  rejectIf (operation.resultEnvelope ≠ some receipt.envelope) invalidProviderState
  validateAbortedModelProviderSettingsOperation operation.authority catalog
  return .replayed (.ofCatalog catalog)

/-- The operation that a request aborts, with the settings it leaves. -/
def abortedOperation (store : ProviderSettingsStore) (input : CompleteModelProviderSettingsInput)
    (reading : Int) : Checked (StoredModelProviderSettingsOperation ×
      Option ModelProviderSettingsCatalog × JsString) := do
  let _ ← requirePendingProviderOperation store input
  let operation ← requireProviderOperation parse validEndpoint store input .pending
  let now ← readLeaseClock reading
  let abortedAt ← instantText now
  rejectIf (readsEarlier parse abortedAt operation.authority.pending.preparedAt = true)
    (runStoreError "model_provider_settings_operation_time_invalid")
  let catalog ← loadProviderHeadAuthority parse validEndpoint store input.tenantId
  validateAbortedModelProviderSettingsOperation operation.authority catalog
  return (operation.authority, catalog, abortedAt)

/-- Abort an operation. -/
def abortModelProviderSettings (input : CompleteModelProviderSettingsInput) (reading : Int) :
    Program Failure ProviderSettingsStore ProviderSettingsOutcome := do
  Program.check (validateCompleteModelProviderSettingsInput input)
  let receiptKey := providerReceiptKey input.tenantId input.idempotencyKey .abort
  let store ← Program.read id
  match store.modelProviderSettingsReceipts.find receiptKey with
  | some receipt => Program.check (replayAbort parse validEndpoint store input receipt)
  | none => do
    let ended ← Program.check (abortedOperation parse validEndpoint store input reading)
    let envelope : ProviderReceiptEnvelope := ⟨.abort, input.operationId,
      input.coordinatorBinding, .ofCatalog ended.2.1, some ended.2.2, input.actor⟩
    Program.update (ProviderSettingsStore.finish input.tenantId input.operationId receiptKey
      input.fingerprint (endedRecord ended.1 .aborted envelope ended.2.2) envelope)
    return .reached .abort (.ofCatalog ended.2.1)

/-- Answer an expiry from its receipt. -/
def replayExpire (store : ProviderSettingsStore) (input : ExpireModelProviderSettingsInput)
    (receipt : ProviderSettingsReceipt) : Checked ProviderSettingsOutcome := do
  matchReceipt receipt input.fingerprint
  let catalog ← parseExpireModelProviderSettingsReceipt parse validEndpoint receipt.envelope input
  let operation ← requireProviderOperationByRecovery parse validEndpoint store input .expired
  validateAbortedModelProviderSettingsOperation operation.authority catalog
  rejectIf (operation.resultEnvelope ≠ some receipt.envelope) invalidProviderState
  return .replayed (.ofCatalog catalog)

/-- The operation that a request expires, with the settings it leaves. -/
def expiredOperation (store : ProviderSettingsStore) (input : ExpireModelProviderSettingsInput)
    (reading : Int) : Checked (StoredModelProviderSettingsOperation ×
      Option ModelProviderSettingsCatalog × JsString) := do
  let operation ← requireProviderOperationByRecovery parse validEndpoint store input .pending
  let now ← readLeaseClock reading
  let expiredAt ← instantText now
  rejectIf (readsNoLater parse expiredAt operation.authority.pending.expiresAt = true)
    (runStoreError "model_provider_settings_operation_not_expired")
  let catalog ← loadProviderHeadAuthority parse validEndpoint store input.tenantId
  validateAbortedModelProviderSettingsOperation operation.authority catalog
  return (operation.authority, catalog, expiredAt)

/-- Expire an operation. -/
def expireModelProviderSettings (input : ExpireModelProviderSettingsInput) (reading : Int) :
    Program Failure ProviderSettingsStore ProviderSettingsOutcome := do
  Program.check (validateExpireModelProviderSettingsInput input)
  let receiptKey := providerReceiptKey input.tenantId input.idempotencyKey .expire
  let store ← Program.read id
  match store.modelProviderSettingsReceipts.find receiptKey with
  | some receipt => Program.check (replayExpire parse validEndpoint store input receipt)
  | none => do
    let ended ← Program.check (expiredOperation parse validEndpoint store input reading)
    let envelope : ProviderReceiptEnvelope := ⟨.expire, input.operationId,
      input.recoveryBinding, .ofCatalog ended.2.1, some ended.2.2, input.actor⟩
    Program.update (ProviderSettingsStore.finish input.tenantId input.operationId receiptKey
      input.fingerprint (endedRecord ended.1 .expired envelope ended.2.2) envelope)
    return .reached .expire (.ofCatalog ended.2.1)

end Settings

end Crewon.Store
