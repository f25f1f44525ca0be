import Crewon.Lib.Trace
import Crewon.Store.RunCreation
import Crewon.Verif.RunLifecycle

/-!
# Two phases of a change of settings

A tenant has one pending operation at most, and no run of the tenant is created while it has one.
An operation that ended stays as it is unless another one is prepared under its id.
-/

namespace Crewon.Verif.ModelProviderSettings

open Crewon.Js Crewon.Checked Crewon.Lib Crewon.Replay Crewon.Domain Crewon.Store
open Crewon.Verif.RunLifecycle

/-- The record of an operation. -/
def recordOf (store : ProviderSettingsStore) (tenantId operationId : JsString) :
    Option ModelProviderSettingsOperationRecord :=
  store.modelProviderSettingsOperations.find (providerOperationKey tenantId operationId)

/-- The revision of the settings of a tenant. -/
def revisionOf (store : ProviderSettingsStore) (tenantId : JsString) : Int :=
  ((store.modelProviderSettings.find tenantId).map (·.revision)).getD 0

/-- The operation is pending. -/
def Pending (store : ProviderSettingsStore) (tenantId operationId : JsString) : Prop :=
  ∃ record, recordOf store tenantId operationId = some record ∧ record.status = .pending

/-- Operations with the same key are the same operation. -/
theorem providerOperationKey_inj {tenantId operationId otherTenant other : JsString}
    (same : providerOperationKey tenantId operationId = providerOperationKey otherTenant other) :
    tenantId = otherTenant ∧ operationId = other := by
  rw [providerOperationKey, providerOperationKey, stableJson_pair, stableJson_pair] at same
  obtain ⟨tenants, operations⟩ := stringifyPair_inj same
  exact ⟨Option.some.inj tenants, operations⟩

/-- The record of an operation after the record of an operation is set. -/
theorem find_operation (records : OrderedMap JsString ModelProviderSettingsOperationRecord)
    (record : ModelProviderSettingsOperationRecord)
    (tenantId operationId otherTenant other : JsString) :
    (records.set (providerOperationKey tenantId operationId) record).find
        (providerOperationKey otherTenant other) =
      if otherTenant = tenantId ∧ other = operationId then some record
      else records.find (providerOperationKey otherTenant other) := by
  rw [OrderedMap.find_set]
  by_cases same : providerOperationKey otherTenant other = providerOperationKey tenantId operationId
  · rw [if_pos same, if_pos (providerOperationKey_inj same)]
  · rw [if_neg same, if_neg]
    rintro ⟨rfl, rfl⟩
    exact same rfl

/-- What holds of every store: the mark of a tenant names its pending operation, a tenant with a
mark has no active run, and runs are stored under their ids. -/
structure Consistent (store : ProviderSettingsStore) : Prop where
  marked : ∀ tenantId operationId, Pending store tenantId operationId →
    ∃ pending, store.pendingModelProviderSettings.find tenantId = some pending ∧
      pending.operationId = operationId
  idle : ∀ runId run, store.runs.find runId = some run → isTerminal run.status = false →
    store.switchPending run.tenantId = false
  keyed : ∀ runId run, store.runs.find runId = some run → run.runId = runId

/-- The store without runs and settings is consistent. -/
theorem consistent_empty : Consistent .empty where
  marked tenantId operationId pending := by
    obtain ⟨record, found, _⟩ := pending
    cases found
  idle runId run found := by cases found
  keyed runId run found := by cases found

/-- What a commit of runs writes: every state under its id, of a run that does not change or of a
tenant without a pending operation. -/
structure Writable (store : ProviderSettingsStore) (writes : RunWrites) : Prop where
  keyed : ∀ entry ∈ writes.stored, entry.2.runId = entry.1
  stored : ∀ entry ∈ writes.stored,
    store.runs.find entry.1 = some entry.2 ∨ store.switchPending entry.2.tenantId = false
  created : ∀ run ∈ writes.created, store.switchPending run.tenantId = false
  fresh : ∀ entry ∈ writes.stored, store.runs.find entry.1 = none → entry.2 ∈ writes.created

/-- What an operation that returns does to the store. -/
inductive Effect (parse : JsString → Option Int) (validEndpoint : JsString → Bool)
    (store : ProviderSettingsStore) :
    ProviderStoreOperation → ProviderStoreOutcome → ProviderSettingsStore → Prop where
  | replayed (operation : ProviderStoreOperation) (value : ProviderReceiptValue) :
      Effect parse validEndpoint store operation (.settings (.replayed value)) store
  | prepared (input : PrepareModelProviderSettingsInput) (reading : Int)
      (authority : StoredModelProviderSettingsOperation)
      (valid : validatePrepareModelProviderSettingsInput validEndpoint input = .ok ())
      (unreceived : store.modelProviderSettingsReceipts.find
        (providerReceiptKey input.tenantId input.idempotencyKey .prepare) = none)
      (admitted : preparedOperation parse validEndpoint store input reading = .ok authority) :
      Effect parse validEndpoint store (.prepare input reading)
        (.settings (.reached .prepare (.pending authority.pending))) (store.prepare input authority)
  | finalized (input : CompleteModelProviderSettingsInput) (reading : Int)
      (catalog : ModelProviderSettingsCatalog) (receiptKey : JsString)
      (record : ModelProviderSettingsOperationRecord) (envelope : ProviderReceiptEnvelope)
      (pending : Pending store input.tenantId input.operationId)
      (ended : record.status = .finalized)
      (revision : catalog.revision = revisionOf store input.tenantId + 1) :
      Effect parse validEndpoint store (.finalize input reading)
        (.settings (.reached .finalize (.catalog catalog)))
        ((store.setCatalog input catalog).finish input.tenantId input.operationId receiptKey
          input.fingerprint record envelope)
  | dropped (operation : ProviderStoreOperation) (phase : ModelProviderSettingsPhase)
      (value : ProviderReceiptValue) (tenantId operationId receiptKey fingerprint : JsString)
      (record : ModelProviderSettingsOperationRecord) (envelope : ProviderReceiptEnvelope)
      (pending : Pending store tenantId operationId)
      (ended : record.status = .aborted ∨ record.status = .expired) :
      Effect parse validEndpoint store operation (.settings (.reached phase value))
        (store.finish tenantId operationId receiptKey fingerprint record envelope)
  | repeated (operation : ProviderStoreOperation) :
      Effect parse validEndpoint store operation (.runs []) store
  | committed (operation : ProviderStoreOperation) (writes : RunWrites)
      (writable : Writable store writes) :
      Effect parse validEndpoint store operation (.runs writes.created)
        (store.storeRunStates writes.stored)

section Phases

-- the host's reading of a date text in any format, and the endpoints that the host's reading of
-- addresses accepts
variable {parse : JsString → Option Int} {validEndpoint : JsString → Bool}

/-- The settings of a tenant are those that the store holds. -/
theorem loadProviderHeadAuthority_eq_ok {store : ProviderSettingsStore} {tenantId : JsString}
    {current : Option ModelProviderSettingsCatalog}
    (loaded : loadProviderHeadAuthority parse validEndpoint store tenantId = .ok current) :
    (current.map (·.revision)).getD 0 = revisionOf store tenantId := by
  simp only [loadProviderHeadAuthority, bind_eq_ok, exists_unit, pure_eq_ok] at loaded
  rw [← loaded.2.2]
  rfl

/-- A record that a request names is in the store, as it is asked for. -/
theorem requireOperationRecord_eq_ok {store : ProviderSettingsStore}
    {tenantId operationId : JsString} {asked : ModelProviderSettingsOperationRecord → Bool}
    {failure : Failure} {record : ModelProviderSettingsOperationRecord}
    (found : requireOperationRecord parse validEndpoint store tenantId operationId asked failure =
      .ok record) :
    recordOf store tenantId operationId = some record ∧ asked record = true := by
  unfold requireOperationRecord at found
  split at found
  case h_1 => simp at found
  case h_2 present here =>
    simp only [bind_eq_ok, exists_unit, rejectIf_eq_ok, pure_eq_ok, Bool.not_eq_false] at found
    obtain ⟨matching, _, _, rfl⟩ := found
    exact ⟨here, matching⟩

/-- An operation that is required in its coordinator's hands and pending is pending. -/
theorem requireProviderOperation_pending {store : ProviderSettingsStore}
    {input : CompleteModelProviderSettingsInput} {record : ModelProviderSettingsOperationRecord}
    (found : requireProviderOperation parse validEndpoint store input .pending = .ok record) :
    Pending store input.tenantId input.operationId := by
  obtain ⟨here, asked⟩ := requireOperationRecord_eq_ok found
  simp only [Bool.and_eq_true, decide_eq_true_eq] at asked
  exact ⟨record, here, asked.1⟩

/-- An operation is prepared for a tenant that has no pending operation and no active run, and from
the revision that its settings have. -/
theorem preparedOperation_eq_ok {store : ProviderSettingsStore}
    {input : PrepareModelProviderSettingsInput} {reading : Int}
    {authority : StoredModelProviderSettingsOperation}
    (admitted : preparedOperation parse validEndpoint store input reading = .ok authority) :
    store.switchPending input.tenantId = false ∧ store.hasActiveRun input.tenantId = false ∧
      revisionOf store input.tenantId = input.expectedRevision ∧
      authority.pending.operationId = input.operationId := by
  simp only [preparedOperation, bind_eq_ok, exists_unit, rejectIf_eq_ok, pure_eq_ok,
    Bool.not_eq_true] at admitted
  obtain ⟨free, idle, current, loaded, same, _, _, _, _, _, _, _, rfl⟩ := admitted
  have revision : revisionOf store input.tenantId = input.expectedRevision := by
    rw [← loadProviderHeadAuthority_eq_ok loaded]
    exact not_not.mp same
  exact ⟨free, idle, revision, rfl⟩

/-- A preparation that returns was answered from its receipt or stored an operation. -/
theorem prepareModelProviderSettings_effect {input : PrepareModelProviderSettingsInput}
    {reading : Int} {store after : ProviderSettingsStore} {outcome : ProviderSettingsOutcome}
    (done : (prepareModelProviderSettings parse validEndpoint input reading).run store =
      (.ok outcome, after)) :
    Effect parse validEndpoint store (.prepare input reading) (.settings outcome) after := by
  simp only [prepareModelProviderSettings, Program.run_check_bind_eq_ok, exists_unit,
    Program.run_read_bind, id_eq] at done
  obtain ⟨valid, done⟩ := done
  split at done
  case h_1 receipt _ =>
    simp only [Program.run_check, Prod.mk.injEq] at done
    obtain ⟨replayed, rfl⟩ := done
    simp only [replayPrepare, bind_eq_ok, exists_unit, pure_eq_ok] at replayed
    obtain ⟨_, pending, _, _, _, _, rfl⟩ := replayed
    exact .replayed _ _
  case h_2 unreceived =>
    simp only [Program.run_check_bind_eq_ok, Program.run_update_bind, Program.run_pure,
      Prod.mk.injEq, Except.ok.injEq] at done
    obtain ⟨authority, admitted, rfl, rfl⟩ := done
    exact .prepared input reading authority valid unreceived admitted

/-- A finalization that returns was answered from its receipt or stored the proposed settings. -/
theorem finalizeModelProviderSettings_effect {input : CompleteModelProviderSettingsInput}
    {reading : Int} {store after : ProviderSettingsStore} {outcome : ProviderSettingsOutcome}
    (done : (finalizeModelProviderSettings parse validEndpoint input reading).run store =
      (.ok outcome, after)) :
    Effect parse validEndpoint store (.finalize input reading) (.settings outcome) after := by
  simp only [finalizeModelProviderSettings, Program.run_check_bind_eq_ok, exists_unit,
    Program.run_read_bind, id_eq] at done
  obtain ⟨_, done⟩ := done
  split at done
  case h_1 receipt _ =>
    simp only [Program.run_check, Prod.mk.injEq] at done
    obtain ⟨replayed, rfl⟩ := done
    simp only [replayFinalize, bind_eq_ok, exists_unit, pure_eq_ok] at replayed
    obtain ⟨_, _, _, _, _, _, _, rfl⟩ := replayed
    exact .replayed _ _
  case h_2 =>
    simp only [Program.run_check_bind_eq_ok, Program.run_update_bind, Program.run_pure,
      Prod.mk.injEq, Except.ok.injEq] at done
    obtain ⟨ended, planned, rfl, rfl⟩ := done
    simp only [finalizedOperation, bind_eq_ok, exists_unit, rejectIf_eq_ok, pure_eq_ok, not_or,
      not_not] at planned
    obtain ⟨pending, _, _, _, _, _, _, _, operation, found, current, loaded, same, _, rfl⟩ :=
      planned
    refine .finalized input reading _ _ _ _ (requireProviderOperation_pending found) rfl ?_
    rw [← loadProviderHeadAuthority_eq_ok loaded, same.1]

/-- An abortion that returns was answered from its receipt or ended the operation. -/
theorem abortModelProviderSettings_effect {input : CompleteModelProviderSettingsInput}
    {reading : Int} {store after : ProviderSettingsStore} {outcome : ProviderSettingsOutcome}
    (done : (abortModelProviderSettings parse validEndpoint input reading).run store =
      (.ok outcome, after)) :
    Effect parse validEndpoint store (.abort input reading) (.settings outcome) after := by
  simp only [abortModelProviderSettings, Program.run_check_bind_eq_ok, exists_unit,
    Program.run_read_bind, id_eq] at done
  obtain ⟨_, done⟩ := done
  split at done
  case h_1 receipt _ =>
    simp only [Program.run_check, Prod.mk.injEq] at done
    obtain ⟨replayed, rfl⟩ := done
    simp only [replayAbort, bind_eq_ok, exists_unit, pure_eq_ok] at replayed
    obtain ⟨_, _, _, _, _, _, _, rfl⟩ := replayed
    exact .replayed _ _
  case h_2 =>
    simp only [Program.run_check_bind_eq_ok, Program.run_update_bind, Program.run_pure,
      Prod.mk.injEq, Except.ok.injEq] at done
    obtain ⟨ended, planned, rfl, rfl⟩ := done
    simp only [abortedOperation, bind_eq_ok, exists_unit, rejectIf_eq_ok, pure_eq_ok] at planned
    obtain ⟨_, _, operation, found, _⟩ := planned
    exact .dropped _ _ _ _ _ _ _ _ _ (requireProviderOperation_pending found) (.inl rfl)

/-- An expiry that returns was answered from its receipt or ended the operation. -/
theorem expireModelProviderSettings_effect {input : ExpireModelProviderSettingsInput}
    {reading : Int} {store after : ProviderSettingsStore} {outcome : ProviderSettingsOutcome}
    (done : (expireModelProviderSettings parse validEndpoint input reading).run store =
      (.ok outcome, after)) :
    Effect parse validEndpoint store (.expire input reading) (.settings outcome) after := by
  simp only [expireModelProviderSettings, Program.run_check_bind_eq_ok, exists_unit,
    Program.run_read_bind, id_eq] at done
  obtain ⟨_, done⟩ := done
  split at done
  case h_1 receipt _ =>
    simp only [Program.run_check, Prod.mk.injEq] at done
    obtain ⟨replayed, rfl⟩ := done
    simp only [replayExpire, bind_eq_ok, exists_unit, pure_eq_ok] at replayed
    obtain ⟨_, _, _, _, _, _, _, rfl⟩ := replayed
    exact .replayed _ _
  case h_2 =>
    simp only [Program.run_check_bind_eq_ok, Program.run_update_bind, Program.run_pure,
      Prod.mk.injEq, Except.ok.injEq] at done
    obtain ⟨ended, planned, rfl, rfl⟩ := done
    simp only [expiredOperation, bind_eq_ok, exists_unit, rejectIf_eq_ok, pure_eq_ok] at planned
    obtain ⟨operation, found, _⟩ := planned
    obtain ⟨here, asked⟩ := requireOperationRecord_eq_ok found
    simp only [Bool.and_eq_true, decide_eq_true_eq] at asked
    exact .dropped _ _ _ _ _ _ _ _ _ ⟨operation, here, asked.1⟩ (.inr rfl)

end Phases

/-- Events of a run that exists leave it as it is, or the run was active and keeps its identity. -/
theorem reduceRun_some {current next : RunState} {events : List RunLifecycleEvent}
    (reduced : reduceRun (some current) events = .ok next) :
    next.runId = current.runId ∧ (next = current ∨
      (next.tenantId = current.tenantId ∧ isTerminal current.status = false)) := by
  simp only [reduceRun, bind_eq_ok] at reduced
  obtain ⟨reached, replayed, reduced⟩ := reduced
  cases reached with
  | none => simp at reduced
  | some state =>
    obtain rfl : state = next := by simpa using reduced
    obtain ⟨sameId, sameTenant⟩ := identity_kept replayed
    cases events with
    | nil =>
      obtain rfl : current = state := by simpa using replayed
      exact ⟨rfl, .inl rfl⟩
    | cons first rest =>
      exact ⟨sameId, .inr ⟨sameTenant, open_of_continued (List.cons_ne_nil first rest) replayed⟩⟩

/-- A run is created for the tenant that its first event names. -/
theorem createRun_tenant {event : RunLifecycleEvent} {state : RunState}
    (created : createRun event = .ok state) :
    ∃ data, creationOf event = some data ∧ state.tenantId = data.tenantId := by
  obtain ⟨schemaVersion, runId, eventId, sequence, occurredAt, data⟩ := event
  cases data
  case runCreated data =>
    simp only [createRun, bind_eq_ok, exists_unit, pure_eq_ok, rejectIf_eq_ok, not_not] at created
    obtain ⟨_, _, binding, _, _, _, _, origin, _, _, cursor, _, rfl⟩ := created
    exact ⟨data, rfl, rfl⟩
  all_goals simp [createRun] at created

/-- Events create a run under the id and for the tenant that the first of them names. -/
theorem reduceRun_none {first : RunLifecycleEvent} {rest : List RunLifecycleEvent}
    {next : RunState} (reduced : reduceRun none (first :: rest) = .ok next) :
    next.runId = first.runId ∧
      ∃ data, creationOf first = some data ∧ next.tenantId = data.tenantId := by
  simp only [reduceRun, bind_eq_ok] at reduced
  obtain ⟨reached, replayed, reduced⟩ := reduced
  simp only [replayFrom, bind_eq_ok] at replayed
  obtain ⟨state, accepted, replayed⟩ := replayed
  have created := (reduce_none_eq_ok.mp accepted).2
  obtain ⟨data, records, tenant⟩ := createRun_tenant created
  have named := (createRun_fresh created).2.2.1
  cases reached with
  | none => simp at reduced
  | some reached =>
    obtain rfl : reached = next := by simpa using reduced
    obtain ⟨sameId, sameTenant⟩ := identity_kept replayed
    exact ⟨sameId.trans named, data, records, sameTenant.trans tenant⟩

/-- A sole creation is the first event. -/
theorem soleCreation_eq_some {events : List RunLifecycleEvent} {event : RunLifecycleEvent}
    {data : RunCreatedData} (sole : soleCreation events = some (event, data)) :
    events = [event] ∧ creationOf event = some data := by
  unfold soleCreation at sole
  split at sole
  · obtain ⟨found, records, same⟩ := Option.map_eq_some_iff.mp sole
    obtain ⟨rfl, rfl⟩ := Prod.mk.inj same
    exact ⟨rfl, records⟩
  · simp at sole

section Commits

variable {store : ProviderSettingsStore} {writes : RunWrites}

/-- A state that events of a run of the store lead to may be stored in its place. -/
theorem Consistent.reduced (held : Consistent store) {runId : JsString} {current next : RunState}
    {events : List RunLifecycleEvent} (present : store.runs.find runId = some current)
    (reduced : reduceRun (some current) events = .ok next) :
    next.runId = runId ∧
      (store.runs.find runId = some next ∨ store.switchPending next.tenantId = false) := by
  obtain ⟨sameId, rfl | ⟨tenant, active⟩⟩ := reduceRun_some reduced
  · exact ⟨held.keyed runId next present, .inl present⟩
  · refine ⟨sameId.trans (held.keyed runId current present), .inr ?_⟩
    rw [tenant]
    exact held.idle runId current present active

/-- The state of a run of the store may be replaced by one that its events lead to. -/
theorem writable_update (held : Consistent store) {runId : JsString} {current next : RunState}
    {events : List RunLifecycleEvent} (present : store.runs.find runId = some current)
    (reduced : reduceRun (some current) events = .ok next) :
    Writable store ⟨[(runId, next)], []⟩ := by
  obtain ⟨keyed, allowed⟩ := held.reduced present reduced
  refine ⟨?_, ?_, by simp, ?_⟩
  · simpa using keyed
  · simpa using allowed
  · simp [present]

/-- A run may be created for a tenant without a pending operation. -/
theorem writable_creation {runId : JsString} {next : RunState}
    (free : store.switchPending next.tenantId = false) (named : next.runId = runId) :
    Writable store ⟨[(runId, next)], [next]⟩ := by
  refine ⟨?_, ?_, ?_, by simp⟩
  · simpa using named
  · simpa using Or.inr free
  · simpa using free

/-- What a commit of events writes may be stored. -/
theorem planRunCommit_writable {input : RunCommit} {first : RunLifecycleEvent}
    (held : Consistent store) (valid : validateRunCommit input = .ok first)
    (planned : planRunCommit input first store = .ok writes) : Writable store writes := by
  cases events : input.events with
  | nil => simp [validateRunCommit, events] at valid
  | cons head rest =>
    simp only [validateRunCommit, events, bind_eq_ok, exists_unit, rejectIf_eq_ok, pure_eq_ok]
      at valid
    obtain ⟨_, _, _, owned, rfl⟩ := valid
    simp only [planRunCommit, bind_eq_ok, exists_unit, rejectIf_eq_ok, pure_eq_ok] at planned
    obtain ⟨free, _, _, _, next, reduced, rfl⟩ := planned
    cases present : store.runs.find head.runId with
    | some current =>
      rw [present] at reduced
      exact writable_update held present reduced
    | none =>
      rw [present, events] at reduced
      obtain ⟨named, data, records, tenant⟩ := reduceRun_none reduced
      have same : data.tenantId = input.tenantId := by
        by_contra other
        exact owned ⟨data, records, other⟩
      have unmarked : store.switchPending next.tenantId = false := by
        rw [tenant, same]
        simpa [present] using free
      exact writable_creation unmarked named

/-- What the start of a turn writes may be stored. -/
theorem planTurnStart_writable {input : TurnStart} {first : RunLifecycleEvent}
    (valid : validateTurnStart input = .ok first)
    (planned : planTurnStart input first store = .ok writes) : Writable store writes := by
  simp only [planTurnStart, bind_eq_ok, exists_unit, rejectIf_eq_ok, pure_eq_ok, not_or,
    not_not, Bool.not_eq_true] at planned
  obtain ⟨free, _, _, next, reduced, owned, rfl⟩ := planned
  cases events : input.events with
  | nil => simp [validateTurnStart, validateRunCommit, events] at valid
  | cons head rest =>
    have named : head = first := by
      simp only [validateTurnStart, validateRunCommit, events, bind_eq_ok, exists_unit,
        pure_eq_ok] at valid
      obtain ⟨_, ⟨_, _, _, _, rfl⟩, valid⟩ := valid
      split at valid
      · simp at valid
      · simp only [bind_eq_ok, exists_unit, pure_eq_ok] at valid
        exact valid.2.2
    rw [events] at reduced
    rw [← named]
    exact writable_creation (owned.1 ▸ free) (reduceRun_none reduced).1

/-- What the invocation of an automation writes may be stored. -/
theorem planAutomationInvocation_writable {input : AutomationInvocation}
    (planned : planAutomationInvocation input store = .ok writes) : Writable store writes := by
  simp only [planAutomationInvocation, bind_eq_ok, exists_unit, rejectIf_eq_ok, pure_eq_ok, not_or,
    not_not, Bool.not_eq_true] at planned
  obtain ⟨free, _, _, _, next, _, owned, rfl⟩ := planned
  exact writable_creation (owned.2.2 ▸ free) owned.1

/-- What other commits of a run write may be stored. -/
theorem planRunUpdate_writable {runId : JsString} {events : List RunLifecycleEvent}
    (held : Consistent store) (planned : planRunUpdate runId events store = .ok writes) :
    Writable store writes := by
  unfold planRunUpdate at planned
  split at planned
  case h_1 => simp at planned
  case h_2 current present =>
    simp only [bind_eq_ok, pure_eq_ok] at planned
    obtain ⟨next, reduced, rfl⟩ := planned
    exact writable_update held present reduced

/-- A state that a change of the goal leads the active run to. -/
theorem reduceActiveRun_eq_ok {activeRun : Option RunState}
    {reduce : List RunLifecycleEvent → RunState → Checked RunState} {unexpected : String}
    {events : Option (List RunLifecycleEvent)} {reduced : Option RunState}
    (done : reduceActiveRun activeRun reduce unexpected events = .ok reduced) :
    ∀ next ∈ reduced, ∃ current batch,
      activeRun = some current ∧ reduce batch current = .ok next := by
  intro next member
  unfold reduceActiveRun at done
  split at done
  · simp_all
  · simp at done
  · rename_i batch current
    cases outcome : reduce batch current with
    | error failure => simp [outcome, Except.map] at done
    | ok state =>
      obtain rfl : some state = reduced := by simpa [outcome, Except.map] using done
      obtain rfl : state = next := by simpa using member
      exact ⟨current, batch, rfl, outcome⟩

/-- A cancelled run is one that its events reduce. -/
theorem reduceThreadGoalQueuedRunCancellation_eq_ok {events : List RunLifecycleEvent}
    {current next : RunState}
    (done : reduceThreadGoalQueuedRunCancellation events current = .ok next) :
    reduceRun (some current) events = .ok next := by
  simp only [reduceThreadGoalQueuedRunCancellation, bind_eq_ok, exists_unit, pure_eq_ok] at done
  obtain ⟨_, _, state, reduced, _, rfl⟩ := done
  exact reduced

/-- An updated run is one that its events reduce. -/
theorem reduceThreadGoalRetainedRunUpdate_eq_ok {events : List RunLifecycleEvent}
    {current next : RunState}
    (done : reduceThreadGoalRetainedRunUpdate events current = .ok next) :
    reduceRun (some current) events = .ok next := by
  simp only [reduceThreadGoalRetainedRunUpdate, bind_eq_ok, exists_unit] at done
  obtain ⟨_, done⟩ := done
  split at done
  · split at done
    · simp only [bind_eq_ok, exists_unit] at done
      exact done.2
    · simp at done
  · simp at done

/-- A computation on a value that is present. -/
theorem mapPresent_eq_ok {α β : Type} {value : Option α} {compute : α → Checked β}
    {computed : Option β} (done : mapPresent value compute = .ok computed) :
    ∀ result ∈ computed, ∃ present, value = some present ∧ compute present = .ok result := by
  intro result member
  cases value with
  | none =>
    obtain rfl : none = computed := by simpa [mapPresent] using done
    simp at member
  | some present =>
    rw [mapPresent] at done
    cases outcome : compute present with
    | error failure => simp [outcome, Except.map] at done
    | ok state =>
      obtain rfl : some state = computed := by simpa [outcome, Except.map] using done
      obtain rfl : state = result := by simpa using member
      exact ⟨present, rfl, outcome⟩

/-- What a change of the goal writes may be stored. -/
theorem planThreadGoalMutation_writable {input : ThreadGoalMutation} (held : Consistent store)
    (planned : planThreadGoalMutation input store = .ok writes) : Writable store writes := by
  simp only [planThreadGoalMutation, bind_eq_ok, exists_unit, rejectIf_eq_ok, pure_eq_ok]
    at planned
  obtain ⟨free, _, canceled, cancels, _, retained, retains, _, continued, continues, _, rfl⟩ :=
    planned
  -- the active run is in the store under its id
  have active (current : RunState)
      (first : (store.activeRuns input.tenantId input.threadId).head? = some current) :
      store.runs.find current.runId = some current := by
    have member := List.mem_of_head? first
    simp only [ProviderSettingsStore.activeRuns, List.mem_filter] at member
    obtain ⟨runId, present⟩ := OrderedMap.mem_values_iff.mp member.1
    rw [held.keyed runId current present]
    exact present
  have changed : ∀ next, next ∈ canceled ∨ next ∈ retained →
      (store.runs.find next.runId).isSome = true ∧
        (store.runs.find next.runId = some next ∨
          store.switchPending next.tenantId = false) := by
    intro next member
    have reduces : ∃ current batch, store.runs.find current.runId = some current ∧
        reduceRun (some current) batch = .ok next := by
      rcases member with member | member
      · obtain ⟨current, batch, first, done⟩ := reduceActiveRun_eq_ok cancels next member
        exact ⟨current, batch, active current first,
          reduceThreadGoalQueuedRunCancellation_eq_ok done⟩
      · obtain ⟨current, batch, first, done⟩ := reduceActiveRun_eq_ok retains next member
        exact ⟨current, batch, active current first, reduceThreadGoalRetainedRunUpdate_eq_ok done⟩
    obtain ⟨current, batch, present, reduced⟩ := reduces
    obtain ⟨named, allowed⟩ := held.reduced present reduced
    rw [named]
    exact ⟨by simp [present], allowed⟩
  have started : ∀ next ∈ continued, store.switchPending next.tenantId = false := by
    intro next member
    obtain ⟨events, asked, outcome⟩ := mapPresent_eq_ok continues next member
    unfold reduceThreadGoalContinuation at outcome
    split at outcome
    · simp at outcome
    · simp only [bind_eq_ok, exists_unit, rejectIf_eq_ok, pure_eq_ok, not_or, not_not] at outcome
      obtain ⟨_, _, owned, rfl⟩ := outcome
      rw [owned.1]
      simpa [asked] using free
  have cases_of_mem (entry : JsString × RunState)
      (member : entry ∈ (canceled.toList ++ retained.toList ++ continued.toList).map ownEntry) :
      entry = ownEntry entry.2 ∧
        ((entry.2 ∈ canceled ∨ entry.2 ∈ retained) ∨ entry.2 ∈ continued) := by
    obtain ⟨state, listed, rfl⟩ := List.mem_map.mp member
    simp only [List.mem_append, Option.mem_toList] at listed
    exact ⟨rfl, listed⟩
  refine ⟨fun entry member => ?_, fun entry member => ?_, fun run member => ?_,
    fun entry member absent => ?_⟩
  · rw [(cases_of_mem entry member).1]
    rfl
  · obtain ⟨own, origin⟩ := cases_of_mem entry member
    rw [own]
    rcases origin with origin | origin
    · exact (changed _ origin).2
    · exact .inr (started _ origin)
  · exact started run (Option.mem_toList.mp member)
  · obtain ⟨own, origin⟩ := cases_of_mem entry member
    rcases origin with origin | origin
    · rw [own] at absent
      have present := (changed _ origin).1
      rw [ownEntry] at absent
      simp [absent] at present
    · exact Option.mem_toList.mpr origin

/-- What the completion of a run writes may be stored. -/
theorem planTextRunCompletion_writable {input : TextRunCompletion} {first : RunLifecycleEvent}
    (held : Consistent store) (valid : validateTextRunCompletion input = .ok first)
    (planned : planTextRunCompletion input first store = .ok writes) : Writable store writes := by
  unfold planTextRunCompletion at planned
  split at planned
  case h_1 => simp at planned
  case h_2 current present =>
    simp only [bind_eq_ok, exists_unit, pure_eq_ok] at planned
    obtain ⟨_, _, _, next, reduced, continued, continues, _, rfl⟩ := planned
    obtain ⟨keyed, allowed⟩ := held.reduced present reduced
    -- the run was active, since its last event completes it
    have active : isTerminal current.status = false := by
      have some : input.events ≠ [] := by
        intro none
        simp [validateTextRunCompletion, validateRunCommit, none] at valid
      simp only [reduceRun, bind_eq_ok] at reduced
      obtain ⟨reached, replayed, _⟩ := reduced
      exact open_of_continued some replayed
    have free := held.idle first.runId current present active
    have started : ∀ run ∈ continued, store.switchPending run.tenantId = false := by
      intro run member
      obtain ⟨events, _, outcome⟩ := mapPresent_eq_ok continues run member
      unfold reduceGoalContinuationRun at outcome
      split at outcome
      · simp at outcome
      case h_2 event data sole =>
        simp only [bind_eq_ok, exists_unit, rejectIf_eq_ok, not_or, not_not, mapError_eq_ok]
          at outcome
        obtain ⟨owned, created⟩ := outcome
        obtain ⟨rfl, records⟩ := soleCreation_eq_some sole
        obtain ⟨_, found, same, tenant⟩ := reduceRun_none created
        obtain rfl : data = found := Option.some.inj (records.symm.trans same)
        rw [tenant, owned.2.2.1]
        exact free
    refine ⟨?_, ?_, ?_, ?_⟩
    · simp only [List.forall_mem_cons, List.forall_mem_map]
      exact ⟨keyed, fun run member => rfl⟩
    · simp only [List.forall_mem_cons, List.forall_mem_map]
      exact ⟨allowed, fun run member => .inr (started run (Option.mem_toList.mp member))⟩
    · exact fun run member => started run (Option.mem_toList.mp member)
    · simp only [List.forall_mem_cons, List.forall_mem_map]
      exact ⟨fun absent => by simp [present] at absent, fun run member _ => member⟩

end Commits

end Crewon.Verif.ModelProviderSettings
