import Crewon.Verif.ModelProviderSettings
import Mathlib

/-!
# Runs of operations on settings

Every operation that returns has one of six effects, and one that fails leaves the store alone. So
every store that a run reaches is consistent, and the record of an operation that ended changes in
one way only: another operation is prepared under its id.
-/

namespace Crewon.Verif.ModelProviderSettings

open Crewon.Js Crewon.Checked Crewon.Lib Crewon.Domain Crewon.Store

section Effects

variable {parse : JsString → Option Int} {validEndpoint : JsString → Bool}
variable {store after : ProviderSettingsStore}

/-- A commit that returns was made before or stored what it planned. -/
theorem commitRuns_effect {admission : CommitAdmission}
    {plan : ProviderSettingsStore → Checked RunWrites} {created : List RunState}
    (operation : ProviderStoreOperation)
    (writable : ∀ writes, plan store = .ok writes → Writable store writes)
    (done : (commitRuns admission plan).run store = (.ok created, after)) :
    Effect parse validEndpoint store operation (.runs created) after := by
  cases admission with
  | replayed =>
    simp only [commitRuns, Program.run_pure, Prod.mk.injEq, Except.ok.injEq] at done
    obtain ⟨rfl, rfl⟩ := done
    exact .repeated operation
  | judged verdict =>
    simp only [commitRuns, Program.run_read_bind, Program.run_check_bind_eq_ok,
      Program.run_update_bind, Program.run_pure, Prod.mk.injEq, Except.ok.injEq, id_eq] at done
    obtain ⟨writes, planned, _, _, rfl, rfl⟩ := done
    exact .committed operation writes (writable writes planned)

/-- The outcome of an operation on settings. -/
theorem settingsOutcome_eq_ok
    {program : Program Failure ProviderSettingsStore ProviderSettingsOutcome}
    {outcome : ProviderStoreOutcome}
    (done : (settingsOutcome program).run store = (.ok outcome, after)) :
    ∃ settled, program.run store = (.ok settled, after) ∧ outcome = .settings settled := by
  simp only [settingsOutcome, Program.run_bind_eq_ok, Program.run_pure, Prod.mk.injEq,
    Except.ok.injEq] at done
  obtain ⟨settled, middle, performed, rfl, rfl⟩ := done
  exact ⟨settled, performed, rfl⟩

/-- The outcome of a commit of runs. -/
theorem runsOutcome_eq_ok {program : Program Failure ProviderSettingsStore (List RunState)}
    {outcome : ProviderStoreOutcome}
    (done : (runsOutcome program).run store = (.ok outcome, after)) :
    ∃ created, program.run store = (.ok created, after) ∧ outcome = .runs created := by
  simp only [runsOutcome, Program.run_bind_eq_ok, Program.run_pure, Prod.mk.injEq,
    Except.ok.injEq] at done
  obtain ⟨created, middle, performed, rfl, rfl⟩ := done
  exact ⟨created, performed, rfl⟩

/-- An operation that returns has one of the effects. -/
theorem performProviderStore_effect (held : Consistent store) {operation : ProviderStoreOperation}
    {outcome : ProviderStoreOutcome}
    (done : (performProviderStore parse validEndpoint operation).run store = (.ok outcome, after)) :
    Effect parse validEndpoint store operation outcome after := by
  cases operation with
  | prepare input reading =>
    obtain ⟨settled, performed, rfl⟩ := settingsOutcome_eq_ok done
    exact prepareModelProviderSettings_effect performed
  | finalize input reading =>
    obtain ⟨settled, performed, rfl⟩ := settingsOutcome_eq_ok done
    exact finalizeModelProviderSettings_effect performed
  | abort input reading =>
    obtain ⟨settled, performed, rfl⟩ := settingsOutcome_eq_ok done
    exact abortModelProviderSettings_effect performed
  | expire input reading =>
    obtain ⟨settled, performed, rfl⟩ := settingsOutcome_eq_ok done
    exact expireModelProviderSettings_effect performed
  | commitRun admission input =>
    obtain ⟨created, performed, rfl⟩ := runsOutcome_eq_ok done
    simp only [commitRunEventsOf, Program.run_check_bind_eq_ok] at performed
    obtain ⟨first, valid, performed⟩ := performed
    exact commitRuns_effect _ (fun writes => planRunCommit_writable held valid) performed
  | startTurn admission input =>
    obtain ⟨created, performed, rfl⟩ := runsOutcome_eq_ok done
    simp only [commitTurnStart, Program.run_check_bind_eq_ok] at performed
    obtain ⟨first, valid, performed⟩ := performed
    exact commitRuns_effect _ (fun writes => planTurnStart_writable valid) performed
  | mutateGoal admission input =>
    obtain ⟨created, performed, rfl⟩ := runsOutcome_eq_ok done
    exact commitRuns_effect _ (fun writes => planThreadGoalMutation_writable held) performed
  | completeRun admission input =>
    obtain ⟨created, performed, rfl⟩ := runsOutcome_eq_ok done
    simp only [commitTextRunCompletion, Program.run_check_bind_eq_ok] at performed
    obtain ⟨first, valid, performed⟩ := performed
    exact commitRuns_effect _ (fun writes => planTextRunCompletion_writable held valid) performed
  | invokeAutomation admission input =>
    obtain ⟨created, performed, rfl⟩ := runsOutcome_eq_ok done
    refine commitRuns_effect _ (fun writes planned => ?_) performed
    exact planAutomationInvocation_writable (mapError_eq_ok.mp planned)
  | updateRun admission runId events =>
    obtain ⟨created, performed, rfl⟩ := runsOutcome_eq_ok done
    exact commitRuns_effect _ (fun writes => planRunUpdate_writable held) performed

end Effects

section Invariants

variable {parse : JsString → Option Int} {validEndpoint : JsString → Bool}

/-- A commit that fails has written nothing. -/
theorem commitRuns_atomic (admission : CommitAdmission)
    (plan : ProviderSettingsStore → Checked RunWrites) : (commitRuns admission plan).Atomic := by
  cases admission with
  | replayed => exact (Program.readOnly_pure _).atomic
  | judged verdict =>
    apply (Program.readOnly_read _).bind_atomic
    intro store
    apply (Program.readOnly_check _).bind_atomic
    intro writes
    apply (Program.readOnly_check _).bind_atomic
    intro passed
    exact ((Program.total_update _).bind fun _ => Program.total_pure _).atomic

/-- A checked commit that fails has written nothing. -/
theorem checkedCommit_atomic {α : Type} (checks : Checked α) (admission : CommitAdmission)
    (plan : α → ProviderSettingsStore → Checked RunWrites) :
    (Program.check checks >>= fun first => commitRuns admission (plan first)).Atomic :=
  (Program.readOnly_check _).bind_atomic fun first => commitRuns_atomic admission (plan first)

/-- A request that is answered from its receipt, or checked before anything is written, has written
nothing when it fails. -/
theorem receipted_atomic {α : Type} (checks : Checked Unit) (key : JsString)
    (replay : ProviderSettingsStore → ProviderSettingsReceipt → Checked ProviderSettingsOutcome)
    (plan : ProviderSettingsStore → Checked α)
    (write : α → Program Failure ProviderSettingsStore ProviderSettingsOutcome)
    (total : ∀ planned, (write planned).Total) :
    (do
      Program.check checks
      let store ← Program.read id
      match store.modelProviderSettingsReceipts.find key with
      | some receipt => Program.check (replay store receipt)
      | none => do
        let planned ← Program.check (plan store)
        write planned : Program Failure ProviderSettingsStore ProviderSettingsOutcome).Atomic := by
  apply (Program.readOnly_check _).bind_atomic
  intro passed
  apply (Program.readOnly_read _).bind_atomic
  intro store
  split
  · exact (Program.readOnly_check _).atomic
  · apply (Program.readOnly_check _).bind_atomic
    intro planned
    exact (total planned).atomic

/-- An operation that fails has written nothing. -/
theorem performProviderStore_atomic (operation : ProviderStoreOperation) :
    (performProviderStore parse validEndpoint operation).Atomic := by
  cases operation with
  | prepare input reading =>
    refine Program.Atomic.bind_total ?_ fun _ => Program.total_pure _
    exact receipted_atomic _ _ _ _ _ fun _ =>
      (Program.total_update _).bind fun _ => Program.total_pure _
  | finalize input reading =>
    refine Program.Atomic.bind_total ?_ fun _ => Program.total_pure _
    exact receipted_atomic _ _ _ _ _ fun _ =>
      (Program.total_update _).bind fun _ => (Program.total_update _).bind fun _ =>
        Program.total_pure _
  | abort input reading =>
    refine Program.Atomic.bind_total ?_ fun _ => Program.total_pure _
    exact receipted_atomic _ _ _ _ _ fun _ =>
      (Program.total_update _).bind fun _ => Program.total_pure _
  | expire input reading =>
    refine Program.Atomic.bind_total ?_ fun _ => Program.total_pure _
    exact receipted_atomic _ _ _ _ _ fun _ =>
      (Program.total_update _).bind fun _ => Program.total_pure _
  | commitRun admission input =>
    exact (checkedCommit_atomic _ _ _).bind_total fun _ => Program.total_pure _
  | startTurn admission input =>
    exact (checkedCommit_atomic _ _ _).bind_total fun _ => Program.total_pure _
  | mutateGoal admission input =>
    exact (commitRuns_atomic _ _).bind_total fun _ => Program.total_pure _
  | completeRun admission input =>
    exact (checkedCommit_atomic _ _ _).bind_total fun _ => Program.total_pure _
  | invokeAutomation admission input =>
    exact (commitRuns_atomic _ _).bind_total fun _ => Program.total_pure _
  | updateRun admission runId events =>
    exact (commitRuns_atomic _ _).bind_total fun _ => Program.total_pure _

variable {store : ProviderSettingsStore}

/-- A tenant has one pending operation at most. -/
theorem Consistent.single (held : Consistent store) {tenantId first second : JsString}
    (one : Pending store tenantId first) (other : Pending store tenantId second) :
    first = second := by
  obtain ⟨pending, found, rfl⟩ := held.marked tenantId first one
  obtain ⟨same, again, rfl⟩ := held.marked tenantId second other
  rw [Option.some.inj (found.symm.trans again)]

/-- The record of an operation after an operation is prepared. -/
theorem recordOf_prepare (input : PrepareModelProviderSettingsInput)
    (authority : StoredModelProviderSettingsOperation) (tenantId operationId : JsString) :
    recordOf (store.prepare input authority) tenantId operationId =
      if tenantId = input.tenantId ∧ operationId = input.operationId then
        some ⟨authority, .pending, none, none, none⟩
      else recordOf store tenantId operationId :=
  find_operation _ _ _ _ _ _

/-- The record of an operation after an operation ends. -/
theorem recordOf_finish (ended endedId receiptKey fingerprint : JsString)
    (record : ModelProviderSettingsOperationRecord) (envelope : ProviderReceiptEnvelope)
    (tenantId operationId : JsString) :
    recordOf (store.finish ended endedId receiptKey fingerprint record envelope)
        tenantId operationId =
      if tenantId = ended ∧ operationId = endedId then some record
      else recordOf store tenantId operationId :=
  find_operation _ _ _ _ _ _

/-- A tenant without a pending operation has no mark. -/
theorem unmarked (free : store.switchPending tenantId = false) :
    store.pendingModelProviderSettings.find tenantId = none := by
  simpa [ProviderSettingsStore.switchPending] using free

/-- No active run of a tenant is stored when the tenant has none. -/
theorem terminal_of_idle {tenantId runId : JsString} {run : RunState}
    (idle : store.hasActiveRun tenantId = false) (found : store.runs.find runId = some run)
    (owned : run.tenantId = tenantId) : isTerminal run.status = true := by
  have listed : run ∈ store.runs.values := OrderedMap.mem_values_iff.mpr ⟨runId, found⟩
  simp only [ProviderSettingsStore.hasActiveRun, List.any_eq_false] at idle
  have ended := idle run listed
  simpa [owned] using ended

/-- Preparing an operation keeps the store consistent. -/
theorem Consistent.prepared (held : Consistent store) {input : PrepareModelProviderSettingsInput}
    {authority : StoredModelProviderSettingsOperation}
    (free : store.switchPending input.tenantId = false)
    (idle : store.hasActiveRun input.tenantId = false)
    (names : authority.pending.operationId = input.operationId) :
    Consistent (store.prepare input authority) where
  marked tenantId operationId pending := by
    obtain ⟨record, found, status⟩ := pending
    rw [recordOf_prepare] at found
    split at found
    case isTrue same =>
      obtain ⟨rfl, rfl⟩ := same
      exact ⟨authority.pending, OrderedMap.find_set_self .., names⟩
    case isFalse =>
      obtain ⟨mark, marks, named⟩ := held.marked tenantId operationId ⟨record, found, status⟩
      have different : tenantId ≠ input.tenantId := by
        rintro rfl
        rw [unmarked free] at marks
        cases marks
      exact ⟨mark, (OrderedMap.find_set_of_ne different).trans marks, named⟩
  idle runId run found active := by
    have different : run.tenantId ≠ input.tenantId := by
      intro owned
      rw [terminal_of_idle idle found owned] at active
      cases active
    have before := held.idle runId run found active
    simp only [ProviderSettingsStore.switchPending, ProviderSettingsStore.prepare,
      OrderedMap.find_set_of_ne different]
    exact before
  keyed := held.keyed

/-- Ending the pending operation of a tenant keeps the store consistent. -/
theorem Consistent.finished (held : Consistent store) {tenantId operationId : JsString}
    (receiptKey fingerprint : JsString) {record : ModelProviderSettingsOperationRecord}
    (envelope : ProviderReceiptEnvelope) (pending : Pending store tenantId operationId)
    (ended : record.status ≠ .pending) :
    Consistent (store.finish tenantId operationId receiptKey fingerprint record envelope) where
  marked otherTenant other remaining := by
    obtain ⟨found, present, status⟩ := remaining
    rw [recordOf_finish] at present
    split at present
    case isTrue =>
      obtain rfl := Option.some.inj present
      exact absurd status ended
    case isFalse apart =>
      have before : Pending store otherTenant other := ⟨found, present, status⟩
      have different : otherTenant ≠ tenantId := by
        rintro rfl
        exact apart ⟨rfl, held.single before pending⟩
      obtain ⟨mark, marks, named⟩ := held.marked otherTenant other before
      refine ⟨mark, ?_, named⟩
      rw [ProviderSettingsStore.finish, OrderedMap.find_erase, if_neg different, marks]
  idle runId run found active := by
    have before := held.idle runId run found active
    simp only [ProviderSettingsStore.switchPending, ProviderSettingsStore.finish,
      OrderedMap.find_erase]
    split
    · rfl
    · exact before
  keyed := held.keyed

/-- Storing the states of runs that may be stored keeps the store consistent. -/
theorem Consistent.committed (held : Consistent store) {writes : RunWrites}
    (writable : Writable store writes) : Consistent (store.storeRunStates writes.stored) where
  marked := held.marked
  idle runId run found active := by
    rcases OrderedMap.mem_or_find_of_setAll found with written | present
    · rcases writable.stored _ written with same | free
      · exact held.idle runId run same active
      · exact free
    · exact held.idle runId run present active
  keyed runId run found := by
    rcases OrderedMap.mem_or_find_of_setAll found with written | present
    · exact writable.keyed _ written
    · exact held.keyed runId run present

variable {after : ProviderSettingsStore}

/-- Every effect keeps the store consistent. -/
theorem Effect.consistent (held : Consistent store) {operation : ProviderStoreOperation}
    {outcome : ProviderStoreOutcome}
    (effect : Effect parse validEndpoint store operation outcome after) : Consistent after := by
  cases effect with
  | replayed => exact held
  | prepared input reading authority valid unreceived admitted =>
    obtain ⟨free, idle, _, names⟩ := preparedOperation_eq_ok admitted
    exact held.prepared free idle names
  | finalized input reading catalog receiptKey record envelope pending ended revision =>
    have kept : Consistent (store.setCatalog input catalog) := ⟨held.marked, held.idle, held.keyed⟩
    exact kept.finished receiptKey input.fingerprint envelope pending (by simp [ended])
  | dropped operation phase value tenantId operationId receiptKey fingerprint record envelope
      pending ended =>
    have closed : record.status ≠ .pending := by
      rcases ended with status | status <;> simp [status]
    exact held.finished receiptKey fingerprint envelope pending closed
  | repeated => exact held
  | committed operation writes writable => exact held.committed writable

/-- Every operation keeps the store consistent. -/
theorem performProviderStore_consistent (operation : ProviderStoreOperation)
    (held : Consistent store) :
    Consistent ((performProviderStore parse validEndpoint operation).run store).2 := by
  cases done : (performProviderStore parse validEndpoint operation).run store with
  | mk outcome after =>
    cases outcome with
    | ok value => exact (performProviderStore_effect held done).consistent held
    | error failure =>
      have kept : ((performProviderStore parse validEndpoint operation).run store).2 = store :=
        performProviderStore_atomic operation store failure (by rw [done])
      rw [done] at kept
      exact kept ▸ held

end Invariants

/-- An operation of the tenant that was pending is finalized. -/
def Finalizes (before after : ProviderSettingsStore) (tenantId : JsString) : Prop :=
  ∃ operationId record, Pending before tenantId operationId ∧
    recordOf after tenantId operationId = some record ∧ record.status = .finalized

section Steps

variable {parse : JsString → Option Int} {validEndpoint : JsString → Bool}
variable {store after : ProviderSettingsStore}

/-- A step that leaves the record of a pending operation as it is, or pending, does not finalize the
operation. -/
theorem not_finalizes {tenantId : JsString}
    (kept : ∀ operationId record, Pending store tenantId operationId →
      recordOf after tenantId operationId = some record →
        recordOf store tenantId operationId = some record ∨ record.status ≠ .finalized) :
    ¬Finalizes store after tenantId := by
  rintro ⟨operationId, record, pending, found, status⟩
  rcases kept operationId record pending found with same | other
  · obtain ⟨before, present, open_⟩ := pending
    obtain rfl : before = record := Option.some.inj (present.symm.trans same)
    rw [open_] at status
    cases status
  · exact other status

/-- The revision of the settings of a tenant grows by one where one of its operations is finalized,
and nowhere else. -/
theorem Effect.revision {operation : ProviderStoreOperation} {outcome : ProviderStoreOutcome}
    (effect : Effect parse validEndpoint store operation outcome after) (tenantId : JsString) :
    (Finalizes store after tenantId → revisionOf after tenantId = revisionOf store tenantId + 1) ∧
      (¬Finalizes store after tenantId →
        revisionOf after tenantId = revisionOf store tenantId) := by
  cases effect with
  | replayed => exact ⟨fun done => absurd done (not_finalizes fun _ _ _ => .inl), fun _ => rfl⟩
  | prepared input reading authority valid unreceived admitted =>
    refine ⟨fun done => absurd done (not_finalizes ?_), fun _ => rfl⟩
    intro operationId record pending found
    rw [recordOf_prepare] at found
    split at found
    · obtain rfl := Option.some.inj found
      exact .inr (by simp)
    · exact .inl found
  | finalized input reading catalog receiptKey record envelope pending ended revision =>
    by_cases same : tenantId = input.tenantId
    · subst same
      have finalizes : Finalizes store ((store.setCatalog input catalog).finish input.tenantId
          input.operationId receiptKey input.fingerprint record envelope) input.tenantId := by
        refine ⟨input.operationId, record, pending, ?_, ended⟩
        rw [recordOf_finish, if_pos ⟨rfl, rfl⟩]
      refine ⟨fun _ => ?_, fun other => absurd finalizes other⟩
      rw [← revision]
      simp [revisionOf, ProviderSettingsStore.finish, ProviderSettingsStore.setCatalog]
    · refine ⟨fun done => absurd done (not_finalizes ?_), fun _ => ?_⟩
      · intro operationId found _ present
        rw [recordOf_finish, if_neg (fun both => same both.1)] at present
        exact .inl present
      · simp [revisionOf, ProviderSettingsStore.finish, ProviderSettingsStore.setCatalog,
          OrderedMap.find_set_of_ne same]
  | dropped operation phase value ended endedId receiptKey fingerprint record envelope pending
      status =>
    refine ⟨fun done => absurd done (not_finalizes ?_), fun _ => rfl⟩
    intro operationId found _ present
    rw [recordOf_finish] at present
    split at present
    · obtain rfl := Option.some.inj present
      exact .inr (by rcases status with status | status <;> simp [status])
    · exact .inl present
  | repeated => exact ⟨fun done => absurd done (not_finalizes fun _ _ _ => .inl), fun _ => rfl⟩
  | committed operation writes writable =>
    exact ⟨fun done => absurd done (not_finalizes fun _ _ _ => .inl), fun _ => rfl⟩

/-- A run is created for a tenant without a pending operation. -/
theorem Effect.creates (held : Consistent store) {operation : ProviderStoreOperation}
    {outcome : ProviderStoreOutcome}
    (effect : Effect parse validEndpoint store operation outcome after) {runId : JsString}
    {run : RunState} (absent : store.runs.find runId = none)
    (present : after.runs.find runId = some run) (operationId : JsString) :
    ¬Pending store run.tenantId operationId := by
  have unchanged (same : after.runs = store.runs) : ¬Pending store run.tenantId operationId := by
    rw [same, absent] at present
    cases present
  cases effect with
  | replayed => exact unchanged rfl
  | prepared => exact unchanged rfl
  | finalized => exact unchanged rfl
  | dropped => exact unchanged rfl
  | repeated => exact unchanged rfl
  | committed operation writes writable =>
    intro pending
    obtain ⟨mark, marks, _⟩ := held.marked run.tenantId operationId pending
    have free : store.switchPending run.tenantId = false := by
      rcases OrderedMap.mem_or_find_of_setAll present with written | before
      · exact writable.created run (writable.fresh (runId, run) written absent)
      · rw [absent] at before
        cases before
    rw [unmarked free] at marks
    cases marks

/-- The request passes every check of a preparation, under the id of an operation that ended. -/
def Reprepares (parse : JsString → Option Int) (validEndpoint : JsString → Bool)
    (store : ProviderSettingsStore) : ProviderStoreOperation → Prop
  | .prepare input reading =>
    validatePrepareModelProviderSettingsInput validEndpoint input = .ok () ∧
    store.modelProviderSettingsReceipts.find
      (providerReceiptKey input.tenantId input.idempotencyKey .prepare) = none ∧
    (∃ authority, preparedOperation parse validEndpoint store input reading = .ok authority) ∧
    ∃ record, recordOf store input.tenantId input.operationId = some record ∧
      record.status ≠ .pending
  | _ => False

/-- The record of an operation that ended stays unless another one is prepared under its id. -/
theorem Effect.ended {operation : ProviderStoreOperation}
    {outcome : ProviderStoreOutcome}
    (effect : Effect parse validEndpoint store operation outcome after)
    (fresh : ¬Reprepares parse validEndpoint store operation) {tenantId operationId : JsString}
    {record : ModelProviderSettingsOperationRecord}
    (found : recordOf store tenantId operationId = some record) (ended : record.status ≠ .pending) :
    recordOf after tenantId operationId = some record := by
  -- the operation that ends now was pending
  have apart {endedTenant endedId : JsString} (pending : Pending store endedTenant endedId) :
      ¬(tenantId = endedTenant ∧ operationId = endedId) := by
    rintro ⟨rfl, rfl⟩
    obtain ⟨before, present, status⟩ := pending
    obtain rfl : before = record := Option.some.inj (present.symm.trans found)
    exact ended status
  cases effect with
  | replayed => exact found
  | prepared input reading authority valid unreceived admitted =>
    rw [recordOf_prepare, if_neg, found]
    rintro ⟨rfl, rfl⟩
    exact fresh ⟨valid, unreceived, ⟨authority, admitted⟩, record, found, ended⟩
  | finalized input reading catalog receiptKey last envelope pending =>
    rw [recordOf_finish, if_neg (apart pending)]
    exact found
  | dropped operation phase value endedTenant endedId receiptKey fingerprint last envelope
      pending =>
    rw [recordOf_finish, if_neg (apart pending), found]
  | repeated => exact found
  | committed => exact found

/-- An operation that is prepared under the id of one that ended is pending in its place. -/
theorem reopens {operation : ProviderStoreOperation}
    (again : Reprepares parse validEndpoint store operation) :
    ∃ tenantId operationId record, recordOf store tenantId operationId = some record ∧
      record.status ≠ .pending ∧
      Pending ((performProviderStore parse validEndpoint operation).run store).2
        tenantId operationId := by
  cases operation with
  | prepare input reading =>
    obtain ⟨valid, unreceived, ⟨authority, admitted⟩, record, found, ended⟩ := again
    refine ⟨input.tenantId, input.operationId, record, found, ended,
      ⟨authority, .pending, none, none, none⟩, ?_, rfl⟩
    have performed : ((performProviderStore parse validEndpoint (.prepare input reading)).run
        store).2 = store.prepare input authority := by
      simp [performProviderStore, settingsOutcome, prepareModelProviderSettings, valid, unreceived,
        admitted, Program.run_bind]
    rw [performed, recordOf_prepare, if_pos ⟨rfl, rfl⟩]
  | _ => exact again.elim

end Steps

section Runs

variable (parse : JsString → Option Int) (validEndpoint : JsString → Bool)

/-- The steps of operations on the store without runs and settings. -/
abbrev providerTrace (operations : List ProviderStoreOperation) :
    List (Step ProviderStoreOperation Failure ProviderSettingsStore ProviderStoreOutcome) :=
  trace (performProviderStore parse validEndpoint) .empty operations

/-- The store that operations lead to. -/
abbrev providerStore (operations : List ProviderStoreOperation) : ProviderSettingsStore :=
  finalState (performProviderStore parse validEndpoint) .empty operations

/-- What two phases of a change of settings are for: a tenant has one pending operation at most, an
operation that ended stays as it is, the settings of a tenant are revised where its operations are
finalized, and no run is created for a tenant with a pending operation. -/
structure Orderly (operations : List ProviderStoreOperation) : Prop where
  single : ∀ step ∈ providerTrace parse validEndpoint operations, ∀ tenantId first second,
    Pending step.after tenantId first → Pending step.after tenantId second → first = second
  ended : ∀ earlier later rest, operations = earlier ++ later ++ rest →
    ∀ tenantId operationId record,
      recordOf (providerStore parse validEndpoint earlier) tenantId operationId = some record →
        record.status ≠ .pending →
          recordOf (providerStore parse validEndpoint (earlier ++ later)) tenantId operationId =
            some record
  finalizes : ∀ step ∈ providerTrace parse validEndpoint operations, ∀ tenantId,
    Finalizes step.before step.after tenantId →
      revisionOf step.after tenantId = revisionOf step.before tenantId + 1
  revises : ∀ step ∈ providerTrace parse validEndpoint operations, ∀ tenantId,
    ¬Finalizes step.before step.after tenantId →
      revisionOf step.after tenantId = revisionOf step.before tenantId
  creates : ∀ step ∈ providerTrace parse validEndpoint operations, ∀ runId run,
    step.before.runs.find runId = none → step.after.runs.find runId = some run →
      ∀ operationId, ¬Pending step.before run.tenantId operationId

variable {parse validEndpoint}

/-- The stores of a run are consistent. -/
theorem consistent_of_mem_trace {operations : List ProviderStoreOperation}
    {step : Step ProviderStoreOperation Failure ProviderSettingsStore ProviderStoreOutcome}
    (member : step ∈ providerTrace parse validEndpoint operations) :
    Consistent step.before ∧ Consistent step.after :=
  trace_invariant Consistent
    (fun operation _ held => performProviderStore_consistent operation held) consistent_empty member

/-- A step has an effect or leaves the store alone. -/
theorem effect_of_mem_trace {operations : List ProviderStoreOperation}
    {step : Step ProviderStoreOperation Failure ProviderSettingsStore ProviderStoreOutcome}
    (member : step ∈ providerTrace parse validEndpoint operations) :
    (∃ outcome, Effect parse validEndpoint step.before step.operation outcome step.after) ∨
      step.after = step.before := by
  have performed := run_of_mem_trace member
  cases returned : step.outcome with
  | ok outcome =>
    rw [returned] at performed
    exact .inl ⟨outcome, performProviderStore_effect (consistent_of_mem_trace member).1 performed⟩
  | error failure =>
    have kept := performProviderStore_atomic step.operation step.before failure
      (by rw [performed, returned])
    rw [performed] at kept
    exact .inr kept

/-- A step that prepares no operation under the id of one that ended keeps the records of those that
ended. -/
theorem ended_of_mem_trace {operations : List ProviderStoreOperation}
    {step : Step ProviderStoreOperation Failure ProviderSettingsStore ProviderStoreOutcome}
    (member : step ∈ providerTrace parse validEndpoint operations)
    (fresh : ¬Reprepares parse validEndpoint step.before step.operation)
    {tenantId operationId : JsString} {record : ModelProviderSettingsOperationRecord}
    (found : recordOf step.before tenantId operationId = some record)
    (ended : record.status ≠ .pending) :
    recordOf step.after tenantId operationId = some record := by
  rcases effect_of_mem_trace member with ⟨outcome, effect⟩ | same
  · exact effect.ended fresh found ended
  · rw [same, found]

/-- Operations on settings are orderly exactly when none is prepared under the id of one that
ended. -/
theorem orderly_iff (operations : List ProviderStoreOperation) :
    Orderly parse validEndpoint operations ↔
      ∀ step ∈ providerTrace parse validEndpoint operations,
        ¬Reprepares parse validEndpoint step.before step.operation := by
  constructor
  · intro orderly step member again
    obtain ⟨earlier, rest, split, before⟩ := split_of_mem_trace member
    obtain ⟨tenantId, operationId, record, found, ended, reopened, present, status⟩ := reopens again
    have shape : operations = earlier ++ [step.operation] ++ rest := by simpa using split
    rw [before] at found
    have kept := orderly.ended earlier [step.operation] rest shape tenantId operationId record found
      ended
    rw [providerStore, finalState_append, ← before] at kept
    obtain rfl : reopened = record := Option.some.inj (present.symm.trans kept)
    exact ended status
  · intro fresh
    refine ⟨?_, ?_, ?_, ?_, ?_⟩
    · intro step member tenantId first second one other
      exact (consistent_of_mem_trace member).2.single one other
    · rintro earlier later rest rfl tenantId operationId record found ended
      rw [providerStore, finalState_append]
      -- every step of the later operations is a step of the run
      refine finalState_of_steps (fun store => recordOf store tenantId operationId = some record)
        (fun step member held performed => ?_) found
      have listed : step ∈ providerTrace parse validEndpoint (earlier ++ later ++ rest) := by
        simp only [providerTrace, trace_append, List.mem_append]
        exact .inl (.inr member)
      exact ended_of_mem_trace listed (fresh step listed) held ended
    · intro step member tenantId finalizes
      rcases effect_of_mem_trace member with ⟨outcome, effect⟩ | same
      · exact (effect.revision tenantId).1 finalizes
      · rw [same] at finalizes
        exact absurd finalizes (not_finalizes fun _ _ _ => .inl)
    · intro step member tenantId other
      rcases effect_of_mem_trace member with ⟨outcome, effect⟩ | same
      · exact (effect.revision tenantId).2 other
      · rw [same]
    · intro step member runId run absent present operationId
      rcases effect_of_mem_trace member with ⟨outcome, effect⟩ | same
      · exact effect.creates (consistent_of_mem_trace member).1 absent present operationId
      · rw [same, absent] at present
        cases present

end Runs

/-- A request to prepare the operation `op-1` of the tenant `acme`. -/
def samplePrepare (key : String) : PrepareModelProviderSettingsInput where
  tenantId := js "acme"
  operationId := js "op-1"
  coordinatorBinding := js "api"
  idempotencyKey := js key
  fingerprint := js "sha256:0000000000000000000000000000000000000000000000000000000000000000"
  actor := ⟨js "principal", js "actor", js "space"⟩
  expectedRevision := 0
  activeProviderId := none
  bindings := []
  ttlMs := 60000

/-- A request to abort it. -/
def sampleAbort : CompleteModelProviderSettingsInput where
  tenantId := js "acme"
  operationId := js "op-1"
  coordinatorBinding := js "api"
  idempotencyKey := js "second"
  fingerprint := js "sha256:0000000000000000000000000000000000000000000000000000000000000000"
  actor := ⟨js "principal", js "actor", js "space"⟩

/-- An operation is prepared and aborted. -/
def sampleEarlier : List ProviderStoreOperation :=
  [.prepare (samplePrepare "first") 0, .abort sampleAbort 1000]

/-- Another one is prepared under its id, by a request of its own. -/
def sampleAgain : List ProviderStoreOperation := [.prepare (samplePrepare "third") 2000]

/-- The status of the operation after operations. -/
def sampleStatus (operations : List ProviderStoreOperation) : Option ModelProviderSettingsStatus :=
  (recordOf (providerStore dateParse (fun _ => true) operations) (js "acme") (js "op-1")).map
    (·.status)

/-- The aborted operation is pending again. -/
theorem sampleAgain_reopens :
    ¬Orderly dateParse (fun _ => true) (sampleEarlier ++ sampleAgain) := by
  intro orderly
  have evaluated : sampleStatus sampleEarlier = some .aborted ∧
      sampleStatus (sampleEarlier ++ sampleAgain) = some .pending := by decide_cbv
  obtain ⟨record, found, aborted⟩ := Option.map_eq_some_iff.mp evaluated.1
  have kept := orderly.ended sampleEarlier sampleAgain [] (List.append_nil _).symm _ _ record found
    (by simp [aborted])
  have status := evaluated.2
  rw [sampleStatus, kept] at status
  simp [aborted] at status

end Crewon.Verif.ModelProviderSettings
