import Crewon.Store.CancellationWake
import Crewon.Verif.Queue
import Crewon.Verif.RunCancellation
import Mathlib

/-!
# The wake of a canceled run is not lost

A wake leaves a mark on the item of the run. As long as the mark is there the item is under a
lease; the retry that ends the lease takes the mark back and makes the item available at once. So
from the wake to the next claim the item is under a lease that has not expired, or claimable from
the instant of the wake or of the retry that followed.
-/

namespace Crewon.Verif.CancellationWake

open Crewon.Js Crewon.Checked Crewon.Domain Crewon.Lib Crewon.Store Crewon.Verif.Queue
open Crewon.Verif.RunLifecycle (logFrom sampleCreated)

section Records

variable {α : Type} {record : QueueRecord α} {instants : List Int}

/-- A cancellation waits for the record: it is marked under its lease, or available no later than
one of the instants. -/
def Awake (instants : List Int) (record : QueueRecord α) : Prop :=
  (record.status = .leased ∧ record.cancellationWakeRequested = true) ∨
    (record.status = .pending ∧ ∃ instant ∈ instants, record.availableAtMs ≤ instant)

/-- A record that is awake stays so when there are more instants. -/
theorem Awake.mono (awake : Awake instants record) (more : List Int) :
    Awake (instants ++ more) record := by
  rcases awake with held | ⟨pending, instant, member, early⟩
  · exact .inl held
  · exact .inr ⟨pending, instant, List.mem_append_left more member, early⟩

/-- The record is under a lease that has not expired, or a claim may take it. -/
def Reachable (record : QueueRecord α) (now : Int) : Prop :=
  (record.status = .leased ∧ record.leaseExpiresAtMs.any (now < ·) = true) ∨
    isClaimable record now = true

/-- A record that is awake is reachable from one of the instants on. -/
theorem Awake.reachable (awake : Awake instants record) (formed : WellFormed record)
    (some : instants ≠ []) :
    ∃ instant ∈ instants, ∀ now, instant ≤ now → Reachable record now := by
  rcases awake with ⟨leased, _⟩ | ⟨pending, instant, member, early⟩
  · obtain ⟨expiresAtMs, known⟩ := Option.ne_none_iff_exists'.mp (formed.expires leased)
    obtain ⟨instant, member⟩ := List.exists_mem_of_ne_nil instants some
    refine ⟨instant, member, fun now _ => ?_⟩
    by_cases expired : expiresAtMs ≤ now
    · right
      simp [isClaimable, leased, known, expired]
    · left
      have alive : now < expiresAtMs := by omega
      exact ⟨leased, by simp [known, alive]⟩
  · refine ⟨instant, member, fun now late => .inr ?_⟩
    have available : record.availableAtMs ≤ now := by omega
    simp [isClaimable, pending, available]

/-- When an operation returns an item to the queue. -/
def returnedAt (itemId : JsString) (timed : TimedOperation α) : Option Int :=
  match timed.operation with
  | .retry returned _ _ _ => if returned = itemId then some timed.reading else none
  | _ => none

/-- The reading of the clock is the instant it shows. -/
theorem readLeaseClock_eq_ok {reading now : Int} (read : readLeaseClock reading = .ok now) :
    now = reading := by
  unfold readLeaseClock at read
  split at read
  · exact (Except.ok.inj read).symm
  · cases read

variable {parse : JsString → Option Int} {timed : TimedOperation α} {before after : Queue α}
  {reply : QueueReply α} {itemId : JsString}

/-- An operation on another item leaves the record awake. -/
theorem Awake.other {other : JsString} {next : QueueRecord α} (awake : Awake instants record)
    (found : before.find itemId = some record) (different : other ≠ itemId) (more : List Int) :
    ∃ current, (before.set other next).find itemId = some current ∧
      Awake (instants ++ more) current := by
  refine ⟨record, ?_, awake.mono more⟩
  rw [OrderedMap.find_set_of_ne (Ne.symm different)]
  exact found

/-- An operation that neither claims nor settles an item leaves its record awake. -/
theorem perform_awake (done : (perform parse timed).run before = (.ok reply, after))
    (found : before.find itemId = some record) (awake : Awake instants record)
    (unclaimed : ∀ item granted, reply ≠ .claimed itemId item granted)
    (unsettled : timed.operation.settles ≠ some itemId) :
    ∃ next, after.find itemId = some next ∧
      Awake (instants ++ (returnedAt itemId timed).toList) next := by
  have effect := perform_effect done
  obtain ⟨reading, operation⟩ := timed
  cases operation with
  | enqueue added item createdAt =>
    cases effect with
    | enqueued _ _ _ fresh absent pending =>
      refine awake.other found ?_ _
      rintro rfl
      rw [absent] at found
      cases found
    | presented _ _ _ _ _ _ presents => cases presents
  | claim input order =>
    cases effect with
    | drained => exact ⟨record, found, awake.mono _⟩
    | claimed _ _ taken current expiresAtMs expiresAt =>
      refine awake.other found ?_ _
      rintro rfl
      exact unclaimed _ _ rfl
    | presented _ _ _ _ _ _ presents => cases presents
  | renew renewed lease leaseDurationMs =>
    simp only [perform, Program.run_bind_eq_ok, Program.run_pure, Prod.mk.injEq] at done
    obtain ⟨granted, middle, extended, _, rfl⟩ := done
    obtain ⟨current, expiresAtMs, present, held, rfl⟩ := renewLease_run extended
    by_cases same : renewed = itemId
    · subst same
      obtain rfl := Option.some.inj (found.symm.trans present)
      refine ⟨_, OrderedMap.find_set_self, ?_⟩
      exact Awake.mono (show Awake instants
        { record with leaseExpiresAtMs := some expiresAtMs } from awake) _
    · exact awake.other found same _
  | settle settled lease =>
    simp only [perform, Program.run_bind_eq_ok, Program.run_pure, Prod.mk.injEq] at done
    obtain ⟨_, middle, done, _, rfl⟩ := done
    simp only [completeItem, Program.run_check_bind_eq_ok] at done
    obtain ⟨_, _, now, _, ended⟩ := done
    obtain ⟨current, present, held, rfl⟩ := settle_run ended
    refine awake.other found ?_ _
    rintro rfl
    exact unsettled rfl
  | retry returned lease retryAfterMs reasonCode =>
    simp only [perform, Program.run_bind_eq_ok, Program.run_pure, Prod.mk.injEq] at done
    obtain ⟨_, middle, done, _, rfl⟩ := done
    simp only [retryItem, Program.run_check_bind_eq_ok] at done
    obtain ⟨_, _, _, _, now, read, ended⟩ := done
    obtain ⟨current, present, held, rfl⟩ := retry_run_at ended
    obtain rfl := readLeaseClock_eq_ok read
    by_cases same : returned = itemId
    · subst same
      obtain rfl := Option.some.inj (found.symm.trans present)
      refine ⟨_, OrderedMap.find_set_self, .inr ⟨rfl, now, ?_, ?_⟩⟩
      · simp [returnedAt]
      · -- the record is leased, so that it is awake only by its mark
        have marked : record.cancellationWakeRequested = true := by
          rcases awake with ⟨_, marked⟩ | ⟨pending, _⟩
          · exact marked
          · rw [held.status] at pending
            cases pending
        show (if record.cancellationWakeRequested then now else now + retryAfterMs) ≤ now
        rw [if_pos marked]
    · exact awake.other found same _
  | forceSettle settled =>
    simp only [perform, Program.run_bind_eq_ok, Program.run_pure, Prod.mk.injEq] at done
    obtain ⟨_, middle, ended, _, rfl⟩ := done
    obtain ⟨current, present, open', rfl⟩ := forceSettle_run ended
    refine awake.other found ?_ _
    rintro rfl
    exact unsettled rfl
  | wake woken =>
    simp only [perform, Program.run_bind_eq_ok, Program.run_pure, Prod.mk.injEq] at done
    obtain ⟨_, middle, ended, _, rfl⟩ := done
    rcases cancellationWake_run_at ended with rfl |
      ⟨current, availableAtMs, present, open', early, rfl⟩
    · exact ⟨record, found, awake.mono _⟩
    · by_cases same : woken = itemId
      · subst same
        obtain rfl := Option.some.inj (found.symm.trans present)
        refine ⟨_, OrderedMap.find_set_self, Awake.mono ?_ _⟩
        rcases awake with ⟨leased, _⟩ | ⟨pending, instant, member, available⟩
        · exact .inl ⟨leased, rfl⟩
        · exact .inr ⟨pending, instant, member, Int.le_trans early available⟩
      · exact awake.other found same _

end Records

section Commits

variable {parse : JsString → Option Int} {admission : Checked Unit} {input : CommitRunInput}
  {reading : Int} {before after : CancellationStore} {woken : Option (JsString × Int)}

/-- The work of a canceled run is an unsettled item of the queue. -/
theorem cancellationWork_eq_some {next : RunState} {events : List RunLifecycleEvent}
    {itemId : JsString} {record : QueueRecord WorkItem}
    (work : cancellationWork before next events = some (itemId, record)) :
    before.workItems.find itemId = some record ∧ record.status ≠ .settled := by
  simp only [cancellationWork, bind, Option.bind_eq_some_iff, Option.guard_eq_some', pure,
    Option.some.injEq, Prod.mk.injEq] at work
  obtain ⟨_, _, receipt, _, _, _, current, present, _, ⟨_, _, unsettled⟩, rfl, rfl⟩ := work
  exact ⟨present, unsettled⟩

/-- The items that a commit adds have new ids. -/
theorem validateWorkItems_fresh {runId tenantId : JsString} {exists' : JsString → Bool}
    {seen : List JsString} {workItems : List WorkItem}
    (valid : validateWorkItems runId tenantId exists' seen workItems = .ok ()) :
    ∀ workItem ∈ workItems, exists' workItem.workItemId = false := by
  induction workItems generalizing seen with
  | nil =>
    intro workItem member
    cases member
  | cons first rest hypothesis =>
    simp only [validateWorkItems, bind_eq_ok, exists_unit, rejectIf_eq_ok, not_or,
      Bool.not_eq_true] at valid
    obtain ⟨_, _, _, _, ⟨_, fresh⟩, later⟩ := valid
    intro workItem member
    cases List.mem_cons.mp member with
    | inl here =>
      rw [here]
      exact fresh
    | inr behind => exact hypothesis later workItem behind

/-- A new record is pending. -/
theorem workItemRecords_pending {workItems : List WorkItem}
    {records : List (JsString × QueueRecord WorkItem)}
    (created : workItemRecords parse workItems = .ok records) :
    records.map Prod.fst = workItems.map WorkItem.workItemId ∧
      ∀ entry ∈ records, entry.2.status = .pending := by
  induction workItems generalizing records with
  | nil =>
    obtain rfl := Except.ok.inj created
    exact ⟨rfl, fun entry member => nomatch member⟩
  | cons first rest hypothesis =>
    simp only [workItemRecords, queueRecord, bind_eq_ok, pure_eq_ok] at created
    obtain ⟨record, ⟨availableAtMs, _, rfl⟩, later, created, rfl⟩ := created
    obtain ⟨ids, pending⟩ := hypothesis created
    refine ⟨?_, ?_⟩
    · rw [List.map_cons, List.map_cons, ids]
    · intro entry member
      cases List.mem_cons.mp member with
      | inl here => rw [here]
      | inr behind => exact pending entry behind

/-- What a commit does to the queue: it adds pending items under new ids, and wakes an unsettled
one or none. -/
structure Committed (before after : Queue WorkItem) (woken : Option (JsString × Int)) : Prop where
  change : ∃ records work, after = (before.setAll records).setAll (Option.toList work) ∧
    (∀ entry ∈ records, before.find entry.1 = none ∧ entry.2.status = .pending) ∧
    ((work = none ∧ woken = none) ∨ ∃ itemId record now, before.find itemId = some record ∧
      record.status ≠ .settled ∧ work = some (itemId, wokenRecord record now) ∧
        woken = some (itemId, now))

/-- What a commit that succeeds does to the queue. -/
theorem commitRun_committed
    (done : (commitRun parse admission input reading).run before = (.ok woken, after)) :
    Committed before.workItems after.workItems woken := by
  unfold commitRun at done
  rw [Program.run_read_bind] at done
  cases events : input.events with
  | nil =>
    simp only [events, Program.run_abort] at done
    cases done
  | cons first rest =>
    simp only [id, events, Program.run_check_bind_eq_ok, exists_unit] at done
    obtain ⟨_, reduced, _, done⟩ := done
    cases reduced with
    | none => cases done
    | some next =>
      simp only [Program.run_check_bind_eq_ok, exists_unit, Program.run_update_bind,
        Program.run_pure, Prod.mk.injEq, Except.ok.injEq] at done
      obtain ⟨valid, work, found, records, created, rfl, rfl⟩ := done
      obtain ⟨ids, pending⟩ := workItemRecords_pending created
      refine ⟨records, _, rfl, ?_, ?_⟩
      · intro entry member
        refine ⟨?_, pending entry member⟩
        have named : entry.1 ∈ records.map Prod.fst := List.mem_map_of_mem member
        rw [ids, List.mem_map] at named
        obtain ⟨workItem, there, same⟩ := named
        have fresh := validateWorkItems_fresh valid workItem there
        rw [← same]
        simpa using fresh
      · cases source : cancellationWork before next (first :: rest) with
        | none =>
          rw [source] at found
          obtain rfl := Except.ok.inj found
          exact .inl ⟨rfl, rfl⟩
        | some entry =>
          obtain ⟨itemId, record⟩ := entry
          obtain ⟨present, unsettled⟩ := cancellationWork_eq_some source
          rw [source] at found
          obtain ⟨now, read⟩ : ∃ now, work = some (itemId, wokenRecord record now, now) := by
            cases read : readLeaseClock reading with
            | error failure =>
              simp [mapPresent, read] at found
              cases found
            | ok now =>
              refine ⟨now, ?_⟩
              simp [mapPresent, read] at found
              exact (Except.ok.inj found).symm
          rw [read]
          exact .inr ⟨itemId, record, now, present, unsettled, rfl, rfl⟩

/-- A commit that is rejected leaves the store alone. -/
theorem commitRun_atomic : Program.Atomic (commitRun parse admission input reading) := by
  apply (Program.readOnly_read id).bind_atomic
  intro store
  cases input.events with
  | nil => exact (Program.readOnly_abort _).atomic
  | cons first rest =>
    apply (Program.readOnly_check _).bind_atomic
    intro _
    apply (Program.readOnly_check _).bind_atomic
    intro reduced
    cases reduced with
    | none => exact (Program.readOnly_abort _).atomic
    | some next =>
      apply (Program.readOnly_check _).bind_atomic
      intro _
      apply (Program.readOnly_check _).bind_atomic
      intro work
      apply (Program.readOnly_check _).bind_atomic
      intro records
      apply Program.Total.atomic
      exact (Program.total_update _).bind fun _ =>
        (Program.total_update _).bind fun _ => Program.total_pure _

variable {queue final : Queue WorkItem} {record : QueueRecord WorkItem} {itemId : JsString}
  {instants : List Int}

/-- A well formed record that is set keeps the queue well formed. -/
theorem queueInvariant_set (held : QueueInvariant queue) (formed : WellFormed record) :
    QueueInvariant (queue.set itemId record) := by
  intro other current present
  rw [OrderedMap.find_set] at present
  split at present
  · rw [← Option.some.inj present]
    exact formed
  · exact held other current present

/-- Pending records that are added keep the queue well formed. -/
theorem queueInvariant_setAll {records : List (JsString × QueueRecord WorkItem)}
    (held : QueueInvariant queue) (pending : ∀ entry ∈ records, entry.2.status = .pending) :
    QueueInvariant (queue.setAll records) := by
  induction records generalizing queue with
  | nil => exact held
  | cons entry rest hypothesis =>
    have fresh := pending entry List.mem_cons_self
    have formed : WellFormed entry.2 := by constructor <;> simp [fresh]
    exact hypothesis (queueInvariant_set held formed)
      fun other member => pending other (List.mem_cons_of_mem entry member)

/-- A commit leaves the records of the queue well formed. -/
theorem Committed.invariant (committed : Committed queue final woken)
    (held : QueueInvariant queue) : QueueInvariant final := by
  obtain ⟨records, work, rfl, fresh, waking⟩ := committed.change
  have added := queueInvariant_setAll held fun entry member => (fresh entry member).2
  rcases waking with ⟨rfl, _⟩ | ⟨itemId, record, now, present, unsettled, rfl, _⟩
  · exact added
  · have formed : WellFormed (wokenRecord record now) :=
      (Evolves.woken (min record.availableAtMs now) unsettled).wellFormed
        (held itemId record present)
    exact queueInvariant_set added formed

/-- The items that were in the queue are there after a commit, as they were or woken. -/
theorem Committed.kept (committed : Committed queue final woken)
    (present : queue.find itemId = some record) :
    final.find itemId = some record ∨ ∃ now, record.status ≠ .settled ∧
      woken = some (itemId, now) ∧ final.find itemId = some (wokenRecord record now) := by
  obtain ⟨records, work, rfl, fresh, waking⟩ := committed.change
  have absent : itemId ∉ records.map Prod.fst := by
    intro added
    obtain ⟨entry, member, rfl⟩ := List.mem_map.mp added
    rw [(fresh entry member).1] at present
    cases present
  have there : (queue.setAll records).find itemId = some record := by
    rw [OrderedMap.find_setAll_of_notMem absent]
    exact present
  rcases waking with ⟨rfl, rfl⟩ | ⟨other, current, now, found, unsettled, rfl, rfl⟩
  · exact .inl there
  · by_cases same : other = itemId
    · subst same
      obtain rfl := Option.some.inj (found.symm.trans present)
      exact .inr ⟨now, unsettled, rfl, OrderedMap.find_set_self⟩
    · left
      show ((queue.setAll records).set other (wokenRecord current now)).find itemId = some record
      rw [OrderedMap.find_set_of_ne (Ne.symm same)]
      exact there

/-- A record that is woken is awake from the instant of the wake on. -/
theorem wokenRecord_awake (unsettled : record.status ≠ .settled) (now : Int) :
    Awake [now] (wokenRecord record now) := by
  cases status : record.status with
  | pending =>
    exact .inr ⟨status, now, List.mem_cons_self, Int.min_le_right _ _⟩
  | leased => exact .inl ⟨status, rfl⟩
  | settled => exact absurd status unsettled

/-- The item that a commit wakes is awake. -/
theorem Committed.awakens {now : Int} (committed : Committed queue final (some (itemId, now))) :
    ∃ record, final.find itemId = some record ∧ Awake [now] record := by
  obtain ⟨records, work, rfl, fresh, waking⟩ := committed.change
  rcases waking with ⟨_, impossible⟩ | ⟨other, current, at', found, unsettled, rfl, same⟩
  · cases impossible
  · obtain ⟨rfl, rfl⟩ := Prod.mk.inj (Option.some.inj same)
    exact ⟨_, OrderedMap.find_set_self, wokenRecord_awake unsettled now⟩

/-- A commit leaves a record that is awake so. -/
theorem Committed.awake (committed : Committed queue final woken)
    (present : queue.find itemId = some record) (awake : Awake instants record) :
    ∃ next, final.find itemId = some next ∧ Awake instants next := by
  rcases committed.kept present with same | ⟨now, _, _, changed⟩
  · exact ⟨record, same, awake⟩
  · refine ⟨_, changed, ?_⟩
    rcases awake with ⟨leased, _⟩ | ⟨pending, instant, member, early⟩
    · exact .inl ⟨leased, rfl⟩
    · have earlier : min record.availableAtMs now ≤ instant := by omega
      exact .inr ⟨pending, instant, member, earlier⟩

end Commits

section Runs

/-- An operation on the queue of work, or around it. -/
inductive CancellationOperation where
  /-- A commit of events of a run. -/
  | commit (admission : Checked Unit) (input : CommitRunInput) (reading : Int)
  /-- An operation on the queue of work. -/
  | queue (timed : TimedOperation WorkItem)
  /-- Whatever changes in the tables of runs and receipts. -/
  | elsewhere (runs : OrderedMap JsString RunState)
      (toolExecutionReceipts : OrderedMap JsString ToolExecutionReceiptState)

/-- What an operation returns. -/
inductive CancellationReply where
  | committed (woken : Option (JsString × Int))
  | queue (reply : QueueReply WorkItem)
  | elsewhere

variable (parse : JsString → Option Int)

/-- Perform an operation. -/
def performCancellation :
    CancellationOperation → Program Failure CancellationStore CancellationReply
  | .commit admission input reading => do
    let woken ← commitRun parse admission input reading
    return .committed woken
  | .queue timed => do
    let reply ← Program.focus CancellationStore.workItems
      (fun workItems store => { store with workItems := workItems }) (perform parse timed)
    return .queue reply
  | .elsewhere runs toolExecutionReceipts => do
    Program.update fun store =>
      { store with runs := runs, toolExecutionReceipts := toolExecutionReceipts }
    return .elsewhere

/-- One step of a run on the store. -/
abbrev CancellationStep := Step CancellationOperation Failure CancellationStore CancellationReply

/-- The step claimed the item. -/
def ClaimsItem (step : CancellationStep) (itemId : JsString) : Prop :=
  ∃ item granted, step.outcome = .ok (.queue (.claimed itemId item granted))

/-- The step settled the item. -/
def SettlesItem (step : CancellationStep) (itemId : JsString) : Prop :=
  step.Succeeds ∧ ∃ timed, step.operation = .queue timed ∧ timed.operation.settles = some itemId

/-- When the step returned the item to the queue. -/
def retriedAt (itemId : JsString) (step : CancellationStep) : Option Int :=
  match step.operation, step.outcome with
  | .queue timed, .ok _ => returnedAt itemId timed
  | _, _ => none

/-- When the item was woken or returned to the queue, along steps behind a wake. -/
def instantsOf (itemId : JsString) (wokenAt : Int) (steps : List CancellationStep) : List Int :=
  wokenAt :: steps.filterMap (retriedAt itemId)

variable {parse} {step : CancellationStep} {itemId : JsString} {instants : List Int}

/-- The item is in the queue, and a cancellation waits for it. -/
def AwakeIn (itemId : JsString) (instants : List Int) (store : CancellationStore) : Prop :=
  ∃ record, store.workItems.find itemId = some record ∧ Awake instants record

/-- A step leaves the records of the queue well formed. -/
theorem performCancellation_invariant (operation : CancellationOperation)
    (store : CancellationStore) (held : QueueInvariant store.workItems) :
    QueueInvariant ((performCancellation parse operation).run store).2.workItems := by
  cases operation with
  | commit admission input reading =>
    rw [performCancellation, Program.run_bind]
    cases performed : (commitRun parse admission input reading).run store with
    | mk outcome after =>
      cases outcome with
      | ok woken => exact (commitRun_committed performed).invariant held
      | error failure =>
        have same := commitRun_atomic store failure (by rw [performed])
        rw [performed] at same
        show QueueInvariant after.workItems
        rw [show after = store from same]
        exact held
  | queue timed =>
    have kept : QueueInvariant ((perform parse timed).run store.workItems).2 :=
      perform_invariant timed store.workItems held
    rw [performCancellation, Program.run_bind, Program.run_focus]
    cases ((perform parse timed).run store.workItems).1 with
    | ok reply => exact kept
    | error failure => exact kept
  | elsewhere runs toolExecutionReceipts => exact held

/-- A step that neither claims nor settles the item leaves the cancellation waiting for it. -/
theorem awakeIn_step
    (performed : (performCancellation parse step.operation).run step.before =
      (step.outcome, step.after))
    (awake : AwakeIn itemId instants step.before) (unclaimed : ¬ ClaimsItem step itemId)
    (unsettled : ¬ SettlesItem step itemId) :
    AwakeIn itemId (instants ++ (retriedAt itemId step).toList) step.after := by
  obtain ⟨operation, before, outcome, after⟩ := step
  obtain ⟨record, present, waits⟩ := awake
  change (performCancellation parse operation).run before = (outcome, after) at performed
  change before.workItems.find itemId = some record at present
  cases operation with
  | commit admission input reading =>
    rw [performCancellation, Program.run_bind] at performed
    cases committed : (commitRun parse admission input reading).run before with
    | mk result middle =>
      rw [committed] at performed
      cases result with
      | ok woken =>
        obtain ⟨rfl, rfl⟩ := Prod.mk.inj performed
        obtain ⟨next, found, still⟩ := (commitRun_committed committed).awake present waits
        exact ⟨next, found, still.mono _⟩
      | error failure =>
        obtain ⟨rfl, rfl⟩ := Prod.mk.inj performed
        have same := commitRun_atomic before failure (by rw [committed])
        rw [committed] at same
        obtain rfl : middle = before := same
        exact ⟨record, present, waits.mono _⟩
  | queue timed =>
    rw [performCancellation, Program.run_bind, Program.run_focus] at performed
    cases served : (perform parse timed).run before.workItems with
    | mk result workItems =>
      rw [served] at performed
      cases result with
      | ok reply =>
        obtain ⟨rfl, rfl⟩ := Prod.mk.inj performed
        apply perform_awake served present waits
        · rintro item granted rfl
          exact unclaimed ⟨item, granted, rfl⟩
        · intro settles
          exact unsettled ⟨⟨_, rfl⟩, timed, rfl, settles⟩
      | error failure =>
        obtain ⟨rfl, rfl⟩ := Prod.mk.inj performed
        have same := perform_atomic parse timed before.workItems failure (by rw [served])
        rw [served] at same
        obtain rfl : workItems = before.workItems := same
        exact ⟨record, present, waits.mono _⟩
  | elsewhere runs toolExecutionReceipts =>
    obtain ⟨rfl, rfl⟩ := Prod.mk.inj performed
    exact ⟨record, present, waits.mono _⟩

/-- Steps that neither claim nor settle the item leave the cancellation waiting for it. -/
theorem awakeIn_run {store : CancellationStore} {window : List CancellationOperation}
    (awake : AwakeIn itemId instants store)
    (kept : ∀ step ∈ trace (performCancellation parse) store window,
      ¬ ClaimsItem step itemId ∧ ¬ SettlesItem step itemId) :
    AwakeIn itemId (instants ++
        (trace (performCancellation parse) store window).filterMap (retriedAt itemId))
      (finalState (performCancellation parse) store window) := by
  induction window generalizing store instants with
  | nil => simpa [trace, finalState] using awake
  | cons operation later hypothesis =>
    rw [trace] at kept ⊢
    obtain ⟨unclaimed, unsettled⟩ := kept _ List.mem_cons_self
    have next := awakeIn_step rfl awake unclaimed unsettled
    have rest := hypothesis next fun step member => kept step (List.mem_cons_of_mem _ member)
    rw [List.append_assoc] at rest
    cases returned : retriedAt itemId ⟨operation, store,
      ((performCancellation parse operation).run store).1,
      ((performCancellation parse operation).run store).2⟩ with
    | none =>
      rw [returned] at rest
      rw [List.filterMap_cons_none returned]
      exact rest
    | some instant =>
      rw [returned] at rest
      rw [List.filterMap_cons_some returned]
      exact rest

/-- From the commit that wakes the item of a canceled run until the next claim of the item,
whatever commits, renewals, retries with any delay and readings of the clock lie between, the item
is settled by a step between, or it is under a lease that has not expired or claimable at every
instant from the wake, or from a retry that followed it, on. -/
theorem cancellation_wake_kept (earlier window : List CancellationOperation)
    {admission : Checked Unit} {input : CommitRunInput} {reading wokenAt : Int}
    {after : CancellationStore}
    (wakes : (commitRun parse admission input reading).run
      (finalState (performCancellation parse) .empty earlier) =
        (.ok (some (itemId, wokenAt)), after))
    (unclaimed : ∀ step ∈ trace (performCancellation parse) after window,
      ¬ ClaimsItem step itemId) :
    (∃ step ∈ trace (performCancellation parse) after window, SettlesItem step itemId) ∨
      ∃ record, (finalState (performCancellation parse) after window).workItems.find itemId =
          some record ∧
        ∃ instant ∈ instantsOf itemId wokenAt (trace (performCancellation parse) after window),
          ∀ now, instant ≤ now → Reachable record now := by
  by_cases ended : ∃ step ∈ trace (performCancellation parse) after window,
      SettlesItem step itemId
  · exact .inl ended
  · right
    have empty : QueueInvariant CancellationStore.empty.workItems := empty_invariant
    have formed : QueueInvariant
        (finalState (performCancellation parse) .empty earlier).workItems :=
      finalState_invariant (fun store : CancellationStore => QueueInvariant store.workItems)
        performCancellation_invariant empty earlier
    have committed := commitRun_committed wakes
    have held : QueueInvariant (finalState (performCancellation parse) after window).workItems :=
      finalState_invariant (fun store : CancellationStore => QueueInvariant store.workItems)
        performCancellation_invariant (committed.invariant formed) window
    obtain ⟨record, present, awake⟩ := awakeIn_run committed.awakens
      fun step member => ⟨unclaimed step member, fun settles => ended ⟨step, member, settles⟩⟩
    have from' := awake.reachable (held itemId record present) (List.cons_ne_nil _ _)
    exact ⟨record, present, from'⟩

/-- The receipt that the sample run waits for. -/
def sampleReceipt : ToolExecutionReceiptState where
  schemaVersion := js "crewon.tool-execution-receipt.v0"
  receiptId := js "receipt"
  tenantId := js "tenant"
  runId := js "run"
  stepId := js "step"
  attemptId := js "attempt"
  workItemId := js "work"
  executionId := js "execution"
  idempotencyKey := js "key"
  actionDigest := uniformDigest '0'
  actionIntent := none
  call := ⟨js "segment", js "call", .function, js "shell", uniformDigest '1'⟩
  effect := .mutation
  recovery := .reconcilable
  status := .unknownOutcome
  revision := 3
  providerReceiptId := none
  result := none
  preparedAt := js "2026-01-01T00:00:00Z"
  dispatchedAt := some (js "2026-01-01T00:00:00Z")
  updatedAt := js "2026-01-01T00:00:00Z"
  resolvedAt := none

/-- The sample run waits for its receipt, and a worker holds its item. -/
def sampleEarlier : List CancellationOperation := [
  .elsewhere .empty (OrderedMap.empty.set (js "receipt") sampleReceipt),
  .commit (.ok ()) ⟨js "tenant", 0,
    logFrom 1 [.runCreated sampleCreated, .runStarted, .runReconciliationRequired (js "receipt")],
    [⟨js "work", js "tenant", js "run", js "2026-01-01T00:00:00Z"⟩]⟩ 0,
  .queue ⟨1767225600000, .claim ⟨js "worker", js "lease", 60000⟩ .oldestReady⟩]

/-- The cancellation of the sample run. -/
def sampleCancellation : CommitRunInput :=
  ⟨js "tenant", 3, logFrom 4 [.runCancelRequested (js "actor")], []⟩

/-- The sample item is renewed and returned for a day. -/
def sampleWindow : List CancellationOperation := [
  .queue ⟨1767225602000, .renew (js "work") ⟨js "worker", js "lease", 1⟩ 60000⟩,
  .queue ⟨1767225603000, .retry (js "work") ⟨js "worker", js "lease", 1⟩ 86400000 (js "busy")⟩]

/-- The commit of the sample cancellation. -/
def sampleWoken : Except Failure (Option (JsString × Int)) × CancellationStore :=
  (commitRun dateParse (.ok ()) sampleCancellation 1767225601000).run
    (finalState (performCancellation dateParse) .empty sampleEarlier)

/-- No step claims anything. -/
def claimless (steps : List CancellationStep) : Bool :=
  steps.all fun step =>
    match step.outcome with
    | .ok (.queue (.claimed _ _ _)) => false
    | _ => true

/-- Steps that claim nothing do not claim the item. -/
theorem claimless_unclaimed {steps : List CancellationStep} (none : claimless steps = true) :
    ∀ step ∈ steps, ¬ ClaimsItem step itemId := by
  rintro step member ⟨item, granted, claimed⟩
  have free := List.all_eq_true.mp none step member
  rw [claimed] at free
  cases free

/-- The sample item is claimable again when it is returned, and not a day later. -/
theorem cancellation_wake_kept_sample :
    ((finalState (performCancellation dateParse) sampleWoken.2 sampleWindow).workItems.find
      (js "work")).map (fun record => (record.status, record.availableAtMs)) =
        some (.pending, 1767225603000) ∧
    ((∃ step ∈ trace (performCancellation dateParse) sampleWoken.2 sampleWindow,
        SettlesItem step (js "work")) ∨
      ∃ record, (finalState (performCancellation dateParse) sampleWoken.2
          sampleWindow).workItems.find (js "work") = some record ∧
        ∃ instant ∈ instantsOf (js "work") 1767225601000
            (trace (performCancellation dateParse) sampleWoken.2 sampleWindow),
          ∀ now, instant ≤ now → Reachable record now) := by
  have woken : sampleWoken.1 = .ok (some (js "work", 1767225601000)) := by
    decide_cbv
  refine ⟨by decide_cbv, ?_⟩
  exact cancellation_wake_kept sampleEarlier sampleWindow (Prod.ext woken rfl)
    (claimless_unclaimed (by decide_cbv))

end Runs

end Crewon.Verif.CancellationWake
