import Crewon.Lib.Trace
import Crewon.Store.Queue
import Mathlib.Data.List.InsertIdx

/-!
# Lease fencing of the queue

Every operation that succeeds changes at most one record, in one of a few ways; an operation
that fails changes none. Along a run of any workers the epoch of a record counts its claims, a
lease is accepted only while it is the latest one, and a settled record is final.
-/

namespace Crewon.Verif.Queue

open Crewon.Js Crewon.Checked Crewon.Domain Crewon.Lib Crewon.Store

/-- What can be asked of a queue. -/
inductive QueueOperation (α : Type) where
  | enqueue (itemId : JsString) (item : α) (createdAt : JsString)
  | claim (input : QueueClaimInput) (order : QueueOrder)
  | renew (itemId : JsString) (lease : QueueLeaseInput) (leaseDurationMs : Int)
  | settle (itemId : JsString) (lease : QueueLeaseInput)
  | retry (itemId : JsString) (lease : QueueLeaseInput) (retryAfterMs : Int)
      (reasonCode : JsString)
  | forceSettle (itemId : JsString)
  | wake (itemId : JsString)

/-- What a queue answers. -/
inductive QueueReply (α : Type) where
  | done
  | empty
  | claimed (itemId : JsString) (item : α) (lease : QueueLease)
  | renewed (lease : QueueLease)

/-- An operation at a reading of the clock. -/
structure TimedOperation (α : Type) where
  /-- What the clock shows. -/
  reading : Int
  /-- What is asked. -/
  operation : QueueOperation α

variable {α : Type}

/-- Perform an operation. -/
def perform (parse : JsString → Option Int) (timed : TimedOperation α) :
    QueueProgram α (QueueReply α) :=
  match timed.operation with
  | .enqueue itemId item createdAt => do
    enqueue parse itemId item createdAt
    pure .done
  | .claim input order => do
    let claimed ← claimNextItem input order timed.reading
    pure (claimed.elim .empty fun found => .claimed found.1 found.2.1 found.2.2)
  | .renew itemId lease leaseDurationMs => do
    let renewed ← renewLease itemId lease leaseDurationMs timed.reading
    pure (.renewed renewed)
  | .settle itemId lease => do
    completeItem itemId lease timed.reading
    pure .done
  | .retry itemId lease retryAfterMs reasonCode => do
    retryItem itemId lease retryAfterMs reasonCode timed.reading
    pure .done
  | .forceSettle itemId => do
    forceSettle itemId
    pure .done
  | .wake itemId => do
    cancellationWake itemId timed.reading
    pure .done

/-- The lease an operation presents for an item. -/
def QueueOperation.presents : QueueOperation α → Option (JsString × QueueLeaseInput)
  | .renew itemId lease _ => some (itemId, lease)
  | .settle itemId lease => some (itemId, lease)
  | .retry itemId lease _ _ => some (itemId, lease)
  | _ => none

/-- The item an operation settles. -/
def QueueOperation.settles : QueueOperation α → Option JsString
  | .settle itemId _ => some itemId
  | .forceSettle itemId => some itemId
  | _ => none

/-- A record is under the lease a worker presents. -/
structure HeldBy (record : QueueRecord α) (lease : QueueLeaseInput) : Prop where
  status : record.status = .leased
  owner : record.leaseOwnerId.getD .empty = lease.ownerId
  leaseId : record.leaseId.getD .empty = lease.leaseId
  epoch : record.leaseEpoch = lease.leaseEpoch

/-- How one record changes. -/
inductive Evolves (record : QueueRecord α) : QueueRecord α → Prop where
  | leased (input : QueueClaimInput) (expiresAtMs : Int) (unsettled : record.status ≠ .settled) :
      Evolves record (leasedRecord record input expiresAtMs)
  | renewed (expiresAtMs : Int) (held : record.status = .leased) :
      Evolves record { record with leaseExpiresAtMs := some expiresAtMs }
  | settled (unsettled : record.status ≠ .settled) : Evolves record (settledRecord record)
  | returned (availableAtMs : Int) (held : record.status = .leased) :
      Evolves record (returnedRecord record availableAtMs)
  | woken (availableAtMs : Int) (unsettled : record.status ≠ .settled) :
      Evolves record { record with
        availableAtMs := availableAtMs
        cancellationWakeRequested := true }

/-- What a successful operation does to the queue. -/
inductive Effect (before : Queue α) : QueueOperation α → QueueReply α → Queue α → Prop where
  | enqueued (itemId : JsString) (item : α) (createdAt : JsString) (record : QueueRecord α)
      (absent : before.find itemId = none) (fresh : record.status = .pending) :
      Effect before (.enqueue itemId item createdAt) .done (before.set itemId record)
  | drained (input : QueueClaimInput) (order : QueueOrder) :
      Effect before (.claim input order) .empty before
  | claimed (input : QueueClaimInput) (order : QueueOrder) (itemId : JsString)
      (record : QueueRecord α) (expiresAtMs : Int) (expiresAt : JsString)
      (found : before.find itemId = some record) (unsettled : record.status ≠ .settled) :
      Effect before (.claim input order)
        (.claimed itemId record.item
          ⟨input.ownerId, input.leaseId, record.leaseEpoch + 1, expiresAt⟩)
        (before.set itemId (leasedRecord record input expiresAtMs))
  | presented (operation : QueueOperation α) (reply : QueueReply α) (itemId : JsString)
      (lease : QueueLeaseInput) (record next : QueueRecord α)
      (presents : operation.presents = some (itemId, lease))
      (found : before.find itemId = some record) (held : HeldBy record lease)
      (evolves : Evolves record next) (kept : next.leaseEpoch = record.leaseEpoch)
      (settled : operation.settles = some itemId → next.status = .settled)
      (unclaimed : ∀ id item granted, reply ≠ .claimed id item granted) :
      Effect before operation reply (before.set itemId next)
  | forced (itemId : JsString) (record : QueueRecord α)
      (found : before.find itemId = some record) (unsettled : record.status ≠ .settled) :
      Effect before (.forceSettle itemId) .done (before.set itemId (settledRecord record))
  | asleep (itemId : JsString) : Effect before (.wake itemId) .done before
  | woken (itemId : JsString) (record : QueueRecord α) (availableAtMs : Int)
      (found : before.find itemId = some record) (unsettled : record.status ≠ .settled) :
      Effect before (.wake itemId) .done (before.set itemId { record with
        availableAtMs := availableAtMs
        cancellationWakeRequested := true })

/-- A presented lease is accepted exactly when the record is under it and it has not expired. -/
theorem validateClaimedLease_eq_ok {record : QueueRecord α} {lease : QueueLeaseInput} {now : Int}
    {result : Unit} : validateClaimedLease record lease now = .ok result ↔
      HeldBy record lease ∧ now < record.leaseExpiresAtMs.getD 0 := by
  simp only [validateClaimedLease, bind_eq_ok, exists_unit, rejectIf_eq_ok, not_or, not_not,
    not_le]
  constructor
  · rintro ⟨_, ⟨status, owner, leaseId, epoch⟩, alive⟩
    exact ⟨⟨status, owner, leaseId, epoch⟩, alive⟩
  · rintro ⟨⟨status, owner, leaseId, epoch⟩, alive⟩
    exact ⟨by simp [status], ⟨status, owner, leaseId, epoch⟩, alive⟩

/-- A required record is the one found under its id. -/
theorem requiredQueueRecord_eq_ok {records : Queue α} {itemId : JsString}
    {record : QueueRecord α} :
    requiredQueueRecord records itemId = .ok record ↔ records.find itemId = some record := by
  unfold requiredQueueRecord
  cases records.find itemId <;> simp

/-- A selected record was offered and is claimable. -/
theorem selectReady_sound {now : Int} {limit : Nat} {entries : List (JsString × QueueRecord α)}
    {selected : List (JsString × QueueRecord α)} {entry : JsString × QueueRecord α}
    (member : entry ∈ entries.foldl (selectReady now limit) selected) :
    entry ∈ selected ∨ entry ∈ entries := by
  induction entries generalizing selected with
  | nil => exact .inl member
  | cons first rest hypothesis =>
    rw [List.foldl_cons] at member
    cases hypothesis member with
    | inr offered => exact .inr (List.mem_cons_of_mem _ offered)
    | inl kept =>
      unfold selectReady at kept
      split at kept
      case isFalse => exact .inl kept
      case isTrue claimable =>
        dsimp only at kept
        split at kept
        case isTrue => exact .inl kept
        case isFalse =>
          have placed := List.mem_of_mem_take kept
          rcases List.eq_or_mem_of_mem_insertIdx placed with rfl | old
          · exact .inr (List.mem_cons_self)
          · exact .inl old

/-- The record a claim takes is in the queue and claimable. -/
theorem nextClaimable_sound {records : Queue α} {now : Int} {order : QueueOrder}
    {itemId : JsString} {record : QueueRecord α}
    (next : nextClaimable records now order = some (itemId, record)) :
    records.find itemId = some record ∧ isClaimable record now = true := by
  unfold nextClaimable at next
  have claimable := List.find?_some next
  have member := List.mem_of_find?_eq_some next
  refine ⟨OrderedMap.mem_entries_iff.mp ?_, claimable⟩
  cases order with
  | insertion => exact member
  | oldestReady =>
    cases selectReady_sound member with
    | inl absent => simp at absent
    | inr offered => exact offered

/-- A claimable record is not settled. -/
theorem isClaimable_unsettled {record : QueueRecord α} {now : Int}
    (claimable : isClaimable record now = true) : record.status ≠ .settled := by
  intro settled
  simp [isClaimable, settled] at claimable

/-- The binary search stays within its bounds. -/
theorem insertionPoint_le (selected : List (JsString × QueueRecord α)) (record : QueueRecord α)
    {low high : Nat} (ordered : low ≤ high) :
    insertionPoint selected record low high ≤ high := by
  fun_induction insertionPoint selected record low high with
  | case1 low high apart middle ready hypothesis =>
    exact hypothesis (by omega)
  | case2 low high apart middle waiting hypothesis =>
    have half := hypothesis (by omega)
    omega
  | case3 low high closed => exact ordered

/-- Offering a record to a selection of at least one keeps the selection claimable, and a
claimable record leaves it with at least one. -/
theorem selectReady_claimable {now : Int} {limit : Nat} (room : 1 ≤ limit)
    {selected : List (JsString × QueueRecord α)} (entry : JsString × QueueRecord α)
    (held : ∀ kept ∈ selected, isClaimable kept.2 now = true) :
    (∀ kept ∈ selectReady now limit selected entry, isClaimable kept.2 now = true) ∧
      (selected ≠ [] ∨ isClaimable entry.2 now = true →
        selectReady now limit selected entry ≠ []) := by
  unfold selectReady
  by_cases claimable : isClaimable entry.2 now = true
  · rw [if_pos claimable]
    dsimp only
    by_cases full : limit ≤ insertionPoint selected entry.2 0 selected.length
    · rw [if_pos full]
      refine ⟨held, fun _ => ?_⟩
      rintro rfl
      have start := insertionPoint_le ([] : List (JsString × QueueRecord α)) entry.2 (le_refl 0)
      rw [List.length_nil] at full
      omega
    · rw [if_neg full]
      constructor
      · intro kept member
        rcases List.eq_or_mem_of_mem_insertIdx (List.mem_of_mem_take member) with rfl | old
        · exact claimable
        · exact held kept old
      · intro _ none
        have inside := insertionPoint_le selected entry.2 (Nat.zero_le selected.length)
        have length := congrArg List.length none
        rw [List.length_take, List.length_insertIdx, if_pos inside, List.length_nil] at length
        omega
  · rw [if_neg claimable]
    exact ⟨held, fun some => some.resolve_right claimable⟩

/-- A selection over all records holds a claimable one when there is any. -/
theorem oldestReady_claimable {now : Int} {limit : Nat} (room : 1 ≤ limit)
    (entries : List (JsString × QueueRecord α)) {selected : List (JsString × QueueRecord α)}
    (held : ∀ kept ∈ selected, isClaimable kept.2 now = true)
    (some : selected ≠ [] ∨ ∃ entry ∈ entries, isClaimable entry.2 now = true) :
    ∃ kept ∈ entries.foldl (selectReady now limit) selected, isClaimable kept.2 now = true := by
  induction entries generalizing selected with
  | nil =>
    obtain ⟨kept, member⟩ := List.exists_mem_of_ne_nil selected (by simpa using some)
    exact ⟨kept, member, held kept member⟩
  | cons entry rest hypothesis =>
    obtain ⟨claimable, occupied⟩ := selectReady_claimable room entry held
    refine hypothesis claimable ?_
    rcases some with present | ⟨offered, member, ready⟩
    · exact .inl (occupied (.inl present))
    · rcases List.mem_cons.mp member with rfl | later
      · exact .inl (occupied (.inr ready))
      · exact .inr ⟨offered, later, ready⟩

/-- Whenever some record is claimable, a claim finds one, in either order. -/
theorem nextClaimable_complete {records : Queue α} {now : Int} {itemId : JsString}
    {record : QueueRecord α} (found : records.find itemId = some record)
    (claimable : isClaimable record now = true) (order : QueueOrder) :
    nextClaimable records now order ≠ none := by
  have member := OrderedMap.mem_entries_iff.mpr found
  intro drained
  unfold nextClaimable at drained
  have rejected := List.find?_eq_none.mp drained
  cases order with
  | insertion => exact rejected (itemId, record) member claimable
  | oldestReady =>
    have start : ∀ kept ∈ ([] : List (JsString × QueueRecord α)),
        isClaimable kept.2 now = true := by simp
    have offered := oldestReady_claimable (le_refl 1) records.entries start
      (.inr ⟨_, member, claimable⟩)
    obtain ⟨kept, selected, ready⟩ := offered
    exact rejected kept selected ready

/-- What a successful claim does. -/
theorem claimNext_run {input : QueueClaimInput} {now : Int} {order : QueueOrder}
    {before after : Queue α} {result : Option (JsString × α × QueueLease)}
    (done : (claimNext input now order).run before = (.ok result, after)) :
    (result = none ∧ after = before) ∨
      ∃ itemId record expiresAtMs expiresAt, before.find itemId = some record ∧
        record.status ≠ .settled ∧
        result = some (itemId, record.item,
          ⟨input.ownerId, input.leaseId, record.leaseEpoch + 1, expiresAt⟩) ∧
        after = before.set itemId (leasedRecord record input expiresAtMs) := by
  unfold claimNext at done
  rw [Program.run_read_bind] at done
  cases next : nextClaimable before now order with
  | none =>
    simp only [id, next, Program.run_pure, Prod.mk.injEq, Except.ok.injEq] at done
    exact .inl ⟨done.1.symm, done.2.symm⟩
  | some entry =>
    obtain ⟨itemId, record⟩ := entry
    obtain ⟨found, claimable⟩ := nextClaimable_sound next
    simp only [id, next, Program.run_check_bind_eq_ok, Program.run_update_bind, Program.run_pure,
      Prod.mk.injEq, Except.ok.injEq, Prod.exists] at done
    obtain ⟨expiresAtMs, expiresAt, _, rfl, rfl⟩ := done
    exact .inr ⟨itemId, record, expiresAtMs, expiresAt, found, isClaimable_unsettled claimable,
      rfl, rfl⟩

/-- What a successful enqueue does. -/
theorem enqueue_run {parse : JsString → Option Int} {itemId createdAt : JsString} {item : α}
    {before after : Queue α} (done : (enqueue parse itemId item createdAt).run before =
      (.ok (), after)) :
    ∃ record, before.find itemId = none ∧ record.status = .pending ∧
      after = before.set itemId record := by
  unfold enqueue at done
  rw [Program.run_read_bind] at done
  simp only [id, Program.run_check_bind_eq_ok, rejectIf_eq_ok, not_not, exists_const,
    Program.run_update, Prod.mk.injEq] at done
  obtain ⟨absent, record, created, _, rfl⟩ := done
  simp only [queueRecord, bind_eq_ok, pure_eq_ok] at created
  obtain ⟨_, _, rfl⟩ := created
  exact ⟨_, absent, rfl, rfl⟩

/-- What settling a record under its lease does. -/
theorem settle_run {itemId : JsString} {lease : QueueLeaseInput} {now : Int}
    {before after : Queue α} (done : (settle itemId lease now).run before = (.ok (), after)) :
    ∃ record, before.find itemId = some record ∧ HeldBy record lease ∧
      after = before.set itemId (settledRecord record) := by
  unfold settle at done
  rw [Program.run_read_bind] at done
  simp only [id, Program.run_check_bind_eq_ok, requiredQueueRecord_eq_ok,
    validateClaimedLease_eq_ok, exists_const, Program.run_update, Prod.mk.injEq] at done
  obtain ⟨record, found, ⟨held, _⟩, _, rfl⟩ := done
  exact ⟨record, found, held, rfl⟩

/-- What settling a record by force does. -/
theorem forceSettle_run {itemId : JsString} {before after : Queue α}
    (done : (forceSettle itemId).run before = (.ok (), after)) :
    ∃ record, before.find itemId = some record ∧ record.status ≠ .settled ∧
      after = before.set itemId (settledRecord record) := by
  unfold forceSettle at done
  rw [Program.run_read_bind] at done
  simp only [id, Program.run_check_bind_eq_ok, requiredQueueRecord_eq_ok, rejectIf_eq_ok,
    exists_const, Program.run_update, Prod.mk.injEq] at done
  obtain ⟨record, found, unsettled, _, rfl⟩ := done
  exact ⟨record, found, unsettled, rfl⟩

/-- A returned record is available after the delay, or at once when a cancellation waits. -/
theorem retry_run_at {itemId : JsString} {lease : QueueLeaseInput} {retryAfterMs now : Int}
    {before after : Queue α}
    (done : (retry itemId lease retryAfterMs now).run before = (.ok (), after)) :
    ∃ record, before.find itemId = some record ∧ HeldBy record lease ∧
      after = before.set itemId (returnedRecord record
        (if record.cancellationWakeRequested then now else now + retryAfterMs)) := by
  unfold retry at done
  rw [Program.run_read_bind] at done
  simp only [id, Program.run_check_bind_eq_ok, requiredQueueRecord_eq_ok,
    validateClaimedLease_eq_ok, exists_unit, Program.run_update, Prod.mk.injEq] at done
  obtain ⟨record, found, ⟨held, _⟩, _, _, rfl⟩ := done
  exact ⟨record, found, held, rfl⟩

/-- What returning a record to the queue does. -/
theorem retry_run {itemId : JsString} {lease : QueueLeaseInput} {retryAfterMs now : Int}
    {before after : Queue α}
    (done : (retry itemId lease retryAfterMs now).run before = (.ok (), after)) :
    ∃ record availableAtMs, before.find itemId = some record ∧ HeldBy record lease ∧
      after = before.set itemId (returnedRecord record availableAtMs) := by
  obtain ⟨record, found, held, same⟩ := retry_run_at done
  exact ⟨record, _, found, held, same⟩

/-- What extending a lease does. -/
theorem renewLease_run {itemId : JsString} {lease : QueueLeaseInput}
    {leaseDurationMs reading : Int} {before after : Queue α} {renewed : QueueLease}
    (done : (renewLease itemId lease leaseDurationMs reading).run before = (.ok renewed, after)) :
    ∃ record expiresAtMs, before.find itemId = some record ∧ HeldBy record lease ∧
      after = before.set itemId { record with leaseExpiresAtMs := some expiresAtMs } := by
  unfold renewLease at done
  simp only [Program.run_check_bind_eq_ok, Program.run_read_bind, id, requiredQueueRecord_eq_ok,
    validateClaimedLease_eq_ok, exists_unit, Program.run_update_bind, Program.run_pure,
    Prod.mk.injEq, Prod.exists] at done
  obtain ⟨_, _, now, _, record, found, ⟨held, _⟩, expiresAtMs, _, _, _, rfl⟩ := done
  exact ⟨record, expiresAtMs, found, held, rfl⟩

/-- A record that is woken is available no later than it was before. -/
theorem cancellationWake_run_at {itemId : JsString} {reading : Int} {before after : Queue α}
    (done : (cancellationWake itemId reading).run before = (.ok (), after)) :
    after = before ∨ ∃ record availableAtMs, before.find itemId = some record ∧
      record.status ≠ .settled ∧ availableAtMs ≤ record.availableAtMs ∧
      after = before.set itemId { record with
        availableAtMs := availableAtMs
        cancellationWakeRequested := true } := by
  unfold cancellationWake at done
  rw [Program.run_read_bind] at done
  cases awake : (before.find itemId).filter (·.status ≠ .settled) with
  | none =>
    simp only [id, awake, Program.run_pure, Prod.mk.injEq] at done
    exact .inl done.2.symm
  | some record =>
    obtain ⟨found, unsettled⟩ := Option.filter_eq_some_iff.mp awake
    simp only [id, awake, Program.run_check_bind_eq_ok, Program.run_update, Prod.mk.injEq] at done
    obtain ⟨now, _, _, rfl⟩ := done
    exact .inr ⟨record, _, found, by simpa using unsettled, Int.min_le_left _ _, rfl⟩

/-- What a wake for a cancellation does. -/
theorem cancellationWake_run {itemId : JsString} {reading : Int} {before after : Queue α}
    (done : (cancellationWake itemId reading).run before = (.ok (), after)) :
    after = before ∨ ∃ record availableAtMs, before.find itemId = some record ∧
      record.status ≠ .settled ∧ after = before.set itemId { record with
        availableAtMs := availableAtMs
        cancellationWakeRequested := true } := by
  rcases cancellationWake_run_at done with same | ⟨record, availableAtMs, found, unsettled, _, same⟩
  · exact .inl same
  · exact .inr ⟨record, availableAtMs, found, unsettled, same⟩

/-- Every operation that succeeds has one of the listed effects. -/
theorem perform_effect {parse : JsString → Option Int} {timed : TimedOperation α}
    {before after : Queue α} {reply : QueueReply α}
    (done : (perform parse timed).run before = (.ok reply, after)) :
    Effect before timed.operation reply after := by
  obtain ⟨reading, operation⟩ := timed
  cases operation <;>
    simp only [perform, Program.run_bind_eq_ok, Program.run_pure, Prod.mk.injEq,
      Except.ok.injEq] at done <;>
    obtain ⟨_, _, done, rfl, rfl⟩ := done
  case enqueue itemId item createdAt _ _ =>
    obtain ⟨record, absent, fresh, rfl⟩ := enqueue_run done
    exact .enqueued itemId item createdAt record absent fresh
  case claim input order claimed _ =>
    simp only [claimNextItem, Program.run_check_bind_eq_ok] at done
    obtain ⟨_, _, now, _, done⟩ := done
    rcases claimNext_run done with ⟨rfl, rfl⟩ | ⟨itemId, record, expiresAtMs, expiresAt, found,
      unsettled, rfl, rfl⟩
    · exact .drained input order
    · exact .claimed input order itemId record expiresAtMs expiresAt found unsettled
  case renew itemId lease leaseDurationMs renewed _ =>
    obtain ⟨record, expiresAtMs, found, held, rfl⟩ := renewLease_run done
    exact .presented _ _ itemId lease record _ rfl found held (.renewed expiresAtMs held.status)
      rfl (by simp [QueueOperation.settles]) (by simp)
  case settle itemId lease _ _ =>
    simp only [completeItem, Program.run_check_bind_eq_ok] at done
    obtain ⟨_, _, now, _, done⟩ := done
    obtain ⟨record, found, held, rfl⟩ := settle_run done
    exact .presented _ _ itemId lease record _ rfl found held
      (.settled (by simp [held.status])) rfl (fun _ => rfl) (by simp)
  case retry itemId lease retryAfterMs reasonCode _ _ =>
    simp only [retryItem, Program.run_check_bind_eq_ok] at done
    obtain ⟨_, _, _, _, now, _, done⟩ := done
    obtain ⟨record, availableAtMs, found, held, rfl⟩ := retry_run done
    exact .presented _ _ itemId lease record _ rfl found held
      (.returned availableAtMs held.status) rfl (by simp [QueueOperation.settles]) (by simp)
  case forceSettle itemId _ _ =>
    obtain ⟨record, found, unsettled, rfl⟩ := forceSettle_run done
    exact .forced itemId record found unsettled
  case wake itemId _ _ =>
    rcases cancellationWake_run done with rfl | ⟨record, availableAtMs, found, unsettled, rfl⟩
    · exact .asleep itemId
    · exact .woken itemId record availableAtMs found unsettled

/-- A queue whose records moved on: each one is still there, unchanged or evolved, and a new
one is pending. -/
structure Advances (before after : Queue α) : Prop where
  kept : ∀ itemId record, before.find itemId = some record →
    ∃ next, after.find itemId = some next ∧ (next = record ∨ Evolves record next)
  origin : ∀ itemId next, after.find itemId = some next →
    before.find itemId = some next ∨ (before.find itemId = none ∧ next.status = .pending) ∨
      ∃ record, before.find itemId = some record ∧ Evolves record next

/-- An untouched queue moved on trivially. -/
theorem advances_refl (queue : Queue α) : Advances queue queue where
  kept _ record found := ⟨record, found, .inl rfl⟩
  origin _ _ found := .inl found

/-- A queue in which one record evolved moved on. -/
theorem advances_set {before : Queue α} {itemId : JsString} {record next : QueueRecord α}
    (found : before.find itemId = some record) (evolves : Evolves record next) :
    Advances before (before.set itemId next) where
  kept other current present := by
    by_cases same : other = itemId
    · subst same
      obtain rfl : record = current := Option.some.inj (found.symm.trans present)
      exact ⟨next, OrderedMap.find_set_self, .inr evolves⟩
    · exact ⟨current, (OrderedMap.find_set_of_ne same).trans present, .inl rfl⟩
  origin other current present := by
    by_cases same : other = itemId
    · subst same
      rw [OrderedMap.find_set_self] at present
      obtain rfl : next = current := Option.some.inj present
      exact .inr (.inr ⟨record, found, evolves⟩)
    · exact .inl ((OrderedMap.find_set_of_ne same).symm.trans present)

/-- A queue that received a pending record moved on. -/
theorem advances_new {before : Queue α} {itemId : JsString} {record : QueueRecord α}
    (absent : before.find itemId = none) (fresh : record.status = .pending) :
    Advances before (before.set itemId record) where
  kept other current present := by
    have different : other ≠ itemId := by
      rintro rfl
      rw [absent] at present
      cases present
    exact ⟨current, (OrderedMap.find_set_of_ne different).trans present, .inl rfl⟩
  origin other current present := by
    by_cases same : other = itemId
    · subst same
      rw [OrderedMap.find_set_self] at present
      obtain rfl : record = current := Option.some.inj present
      exact .inr (.inl ⟨absent, fresh⟩)
    · exact .inl ((OrderedMap.find_set_of_ne same).symm.trans present)

/-- Every effect moves the queue on. -/
theorem Effect.advances {before after : Queue α} {operation : QueueOperation α}
    {reply : QueueReply α} (effect : Effect before operation reply after) :
    Advances before after := by
  cases effect with
  | enqueued itemId item createdAt record absent fresh => exact advances_new absent fresh
  | drained input order => exact advances_refl _
  | claimed input order itemId record expiresAtMs expiresAt found unsettled =>
    exact advances_set found (.leased input expiresAtMs unsettled)
  | presented operation reply itemId lease record next presents found held evolves =>
    exact advances_set found evolves
  | forced itemId record found unsettled => exact advances_set found (.settled unsettled)
  | asleep itemId => exact advances_refl _
  | woken itemId record availableAtMs found unsettled =>
    exact advances_set found (.woken availableAtMs unsettled)

/-- A settled record does not evolve. -/
theorem Evolves.unsettled {record next : QueueRecord α} (evolves : Evolves record next) :
    record.status ≠ .settled := by
  cases evolves with
  | leased input expiresAtMs unsettled => exact unsettled
  | renewed expiresAtMs held => simp [held]
  | settled unsettled => exact unsettled
  | returned availableAtMs held => simp [held]
  | woken availableAtMs unsettled => exact unsettled

/-- A leased record names its owner, its lease and the instant it expires. -/
structure WellFormed (record : QueueRecord α) : Prop where
  owner : record.status = .leased → record.leaseOwnerId ≠ none
  leaseId : record.status = .leased → record.leaseId ≠ none
  expires : record.status = .leased → record.leaseExpiresAtMs ≠ none

/-- A record that evolves stays well formed. -/
theorem Evolves.wellFormed {record next : QueueRecord α} (evolves : Evolves record next)
    (formed : WellFormed record) : WellFormed next := by
  obtain ⟨owner, leaseId, expires⟩ := formed
  cases evolves with
  | leased input expiresAtMs => constructor <;> simp [leasedRecord]
  | renewed expiresAtMs held => exact ⟨owner, leaseId, by simp⟩
  | settled => constructor <;> simp [settledRecord, clearLease]
  | returned availableAtMs held => constructor <;> simp [returnedRecord, clearLease]
  | woken availableAtMs unsettled => exact ⟨owner, leaseId, expires⟩

/-- Every record of the queue is well formed. -/
def QueueInvariant (queue : Queue α) : Prop :=
  ∀ itemId record, queue.find itemId = some record → WellFormed record

/-- A queue that moves on keeps its records well formed. -/
theorem Advances.invariant {before after : Queue α} (advances : Advances before after)
    (held : QueueInvariant before) : QueueInvariant after := by
  intro itemId next found
  rcases advances.origin itemId next found with old | ⟨_, fresh⟩ | ⟨record, old, evolves⟩
  · exact held itemId next old
  · constructor <;> simp [fresh]
  · exact evolves.wellFormed (held itemId record old)

/-- A well formed record that is not settled is claimable from some instant on. -/
theorem WellFormed.claimable {record : QueueRecord α} (formed : WellFormed record)
    (unsettled : record.status ≠ .settled) :
    ∃ start, ∀ now, start ≤ now → isClaimable record now = true := by
  cases status : record.status with
  | pending =>
    refine ⟨record.availableAtMs, fun now late => ?_⟩
    simp [isClaimable, status, late]
  | leased =>
    obtain ⟨expiresAtMs, known⟩ := Option.ne_none_iff_exists'.mp (formed.expires status)
    refine ⟨expiresAtMs, fun now late => ?_⟩
    simp [isClaimable, status, known, late]
  | settled => exact absurd status unsettled

/-- The lease is over, or it is still the one the record is under. -/
def Outranks (record : QueueRecord α) (lease : QueueLease) : Prop :=
  lease.epoch < record.leaseEpoch ∨
    (lease.epoch = record.leaseEpoch ∧ (record.status = .leased →
      record.leaseOwnerId = some lease.ownerId ∧ record.leaseId = some lease.leaseId))

/-- A record that evolves goes on outranking the leases granted for it. -/
theorem Evolves.outranks {record next : QueueRecord α} (evolves : Evolves record next)
    {lease : QueueLease} (outranks : Outranks record lease) : Outranks next lease := by
  cases evolves with
  | leased input expiresAtMs =>
    left
    have bound : lease.epoch ≤ record.leaseEpoch := by
      cases outranks with
      | inl less => exact Int.le_of_lt less
      | inr same => exact same.1.le
    exact Int.lt_add_one_of_le bound
  | renewed expiresAtMs held => exact outranks
  | settled => exact outranks.imp_right fun same => ⟨same.1, fun impossible => by cases impossible⟩
  | returned availableAtMs held =>
    exact outranks.imp_right fun same => ⟨same.1, fun impossible => by cases impossible⟩
  | woken availableAtMs unsettled => exact outranks

section Atomicity

open Program

/-- Writing at the end of checks is atomic. -/
theorem atomic_update (change : Queue α → Queue α) :
    Atomic (update change : QueueProgram α PUnit) := (total_update change).atomic

/-- A claim writes after its only check. -/
theorem atomic_claimNext (input : QueueClaimInput) (now : Int) (order : QueueOrder) :
    Atomic (claimNext input now order : QueueProgram α _) := by
  refine (readOnly_read id).bind_atomic fun records => ?_
  cases nextClaimable records now order with
  | none => exact (readOnly_pure none).atomic
  | some entry =>
    refine (readOnly_check _).bind_atomic fun expiry => ?_
    exact (atomic_update _).bind_total fun _ => total_pure _

/-- Settling writes after its checks. -/
theorem atomic_settle (itemId : JsString) (lease : QueueLeaseInput) (now : Int) :
    Atomic (settle itemId lease now : QueueProgram α Unit) :=
  (readOnly_read id).bind_atomic fun _ => (readOnly_check _).bind_atomic fun _ =>
    (readOnly_check _).bind_atomic fun _ => atomic_update _

/-- Settling by force writes after its checks. -/
theorem atomic_forceSettle (itemId : JsString) :
    Atomic (forceSettle itemId : QueueProgram α Unit) :=
  (readOnly_read id).bind_atomic fun _ => (readOnly_check _).bind_atomic fun _ =>
    (readOnly_check _).bind_atomic fun _ => atomic_update _

/-- Returning a record writes after its checks. -/
theorem atomic_retry (itemId : JsString) (lease : QueueLeaseInput) (retryAfterMs now : Int) :
    Atomic (retry itemId lease retryAfterMs now : QueueProgram α Unit) :=
  (readOnly_read id).bind_atomic fun _ => (readOnly_check _).bind_atomic fun _ =>
    (readOnly_check _).bind_atomic fun _ => (readOnly_check _).bind_atomic fun _ =>
      atomic_update _

/-- Extending a lease writes after its checks. -/
theorem atomic_renewLease (itemId : JsString) (lease : QueueLeaseInput)
    (leaseDurationMs reading : Int) :
    Atomic (renewLease itemId lease leaseDurationMs reading : QueueProgram α QueueLease) :=
  (readOnly_check _).bind_atomic fun _ => (readOnly_check _).bind_atomic fun _ =>
    (readOnly_check _).bind_atomic fun _ => (readOnly_read id).bind_atomic fun _ =>
      (readOnly_check _).bind_atomic fun _ => (readOnly_check _).bind_atomic fun _ =>
        (readOnly_check _).bind_atomic fun _ =>
          (atomic_update _).bind_total fun _ => total_pure _

/-- Adding a record writes after its checks. -/
theorem atomic_enqueue (parse : JsString → Option Int) (itemId : JsString) (item : α)
    (createdAt : JsString) : Atomic (enqueue parse itemId item createdAt) :=
  (readOnly_read id).bind_atomic fun _ => (readOnly_check _).bind_atomic fun _ =>
    (readOnly_check _).bind_atomic fun _ => atomic_update _

/-- Waking a record writes after reading the clock. -/
theorem atomic_cancellationWake (itemId : JsString) (reading : Int) :
    Atomic (cancellationWake itemId reading : QueueProgram α Unit) := by
  refine (readOnly_read id).bind_atomic fun records => ?_
  cases (records.find itemId).filter (·.status ≠ .settled) with
  | none => exact (readOnly_pure ()).atomic
  | some record => exact (readOnly_check _).bind_atomic fun now => atomic_update _

/-- An operation that fails leaves the queue alone. -/
theorem perform_atomic (parse : JsString → Option Int) (timed : TimedOperation α) :
    Atomic (perform parse timed) := by
  obtain ⟨reading, operation⟩ := timed
  cases operation with
  | enqueue itemId item createdAt =>
    exact (atomic_enqueue parse itemId item createdAt).bind_total fun _ => total_pure _
  | claim input order =>
    refine Atomic.bind_total ?_ fun _ => total_pure _
    exact (readOnly_check _).bind_atomic fun _ => (readOnly_check _).bind_atomic fun now =>
      atomic_claimNext input now order
  | renew itemId lease leaseDurationMs =>
    exact (atomic_renewLease itemId lease leaseDurationMs reading).bind_total fun _ =>
      total_pure _
  | settle itemId lease =>
    refine Atomic.bind_total ?_ fun _ => total_pure _
    exact (readOnly_check _).bind_atomic fun _ => (readOnly_check _).bind_atomic fun now =>
      atomic_settle itemId lease now
  | retry itemId lease retryAfterMs reasonCode =>
    refine Atomic.bind_total ?_ fun _ => total_pure _
    exact (readOnly_check _).bind_atomic fun _ => (readOnly_check _).bind_atomic fun _ =>
      (readOnly_check _).bind_atomic fun now => atomic_retry itemId lease retryAfterMs now
  | forceSettle itemId => exact (atomic_forceSettle itemId).bind_total fun _ => total_pure _
  | wake itemId => exact (atomic_cancellationWake itemId reading).bind_total fun _ => total_pure _

end Atomicity

variable {parse : JsString → Option Int}

/-- Every operation moves the queue on, whatever its outcome. -/
theorem perform_advances (timed : TimedOperation α) (queue : Queue α) :
    Advances queue ((perform parse timed).run queue).2 := by
  cases outcome : ((perform parse timed).run queue).1 with
  | error failure =>
    rw [perform_atomic parse timed queue failure outcome]
    exact advances_refl queue
  | ok reply => exact (perform_effect (Prod.ext outcome rfl)).advances

/-- Every operation keeps the records well formed. -/
theorem perform_invariant (timed : TimedOperation α) (queue : Queue α)
    (held : QueueInvariant queue) : QueueInvariant ((perform parse timed).run queue).2 :=
  (perform_advances timed queue).invariant held

/-- One step of a run on a queue. -/
abbrev QueueStep (α : Type) := Step (TimedOperation α) Failure (Queue α) (QueueReply α)

/-- The step granted a lease on the item. -/
def Claims (step : QueueStep α) (itemId : JsString) (granted : QueueLease) : Prop :=
  ∃ item, step.outcome = .ok (.claimed itemId item granted)

/-- The step was accepted with the lease it presented for the item. -/
def Uses (step : QueueStep α) (itemId : JsString) (lease : QueueLeaseInput) : Prop :=
  step.operation.operation.presents = some (itemId, lease) ∧ step.Succeeds

/-- The step settled the item. -/
def Settles (step : QueueStep α) (itemId : JsString) : Prop :=
  step.operation.operation.settles = some itemId ∧ step.Succeeds

/-- The effect of a step that succeeded. -/
theorem step_effect {step : QueueStep α} {reply : QueueReply α}
    (ran : (perform parse step.operation).run step.before = (step.outcome, step.after))
    (succeeded : step.outcome = .ok reply) :
    Effect step.before step.operation.operation reply step.after := by
  rw [succeeded] at ran
  exact perform_effect ran

/-- A claim raises the epoch of the record it takes by one and grants the new epoch. -/
theorem claims_record {step : QueueStep α} {itemId : JsString} {granted : QueueLease}
    (ran : (perform parse step.operation).run step.before = (step.outcome, step.after))
    (claims : Claims step itemId granted) :
    ∃ record next, step.before.find itemId = some record ∧ record.status ≠ .settled ∧
      step.after.find itemId = some next ∧ next.leaseEpoch = record.leaseEpoch + 1 ∧
      granted.epoch = next.leaseEpoch ∧ next.leaseOwnerId = some granted.ownerId ∧
      next.leaseId = some granted.leaseId := by
  obtain ⟨⟨reading, operation⟩, before, outcome, after⟩ := step
  obtain ⟨item, claimed⟩ := claims
  have effect := step_effect ran claimed
  dsimp only at effect ⊢
  cases effect with
  | claimed input order itemId record expiresAtMs expiresAt found unsettled =>
    exact ⟨record, _, found, unsettled, OrderedMap.find_set_self, rfl, rfl, rfl, rfl⟩
  | presented operation reply other lease record next presents found held evolves kept settled
      unclaimed => exact absurd rfl (unclaimed itemId item granted)

/-- A lease that is accepted is the one its record is under. -/
theorem uses_record {step : QueueStep α} {itemId : JsString} {lease : QueueLeaseInput}
    (ran : (perform parse step.operation).run step.before = (step.outcome, step.after))
    (uses : Uses step itemId lease) :
    ∃ record, step.before.find itemId = some record ∧ HeldBy record lease := by
  obtain ⟨⟨reading, operation⟩, before, outcome, after⟩ := step
  obtain ⟨presents, reply, succeeded⟩ := uses
  have effect := step_effect ran succeeded
  dsimp only at presents effect ⊢
  cases effect with
  | presented operation reply other shown record next shows found held =>
    obtain ⟨rfl, rfl⟩ : other = itemId ∧ shown = lease := by simpa using shows.symm.trans presents
    exact ⟨record, found, held⟩
  | _ => simp [QueueOperation.presents] at presents

/-- Settling turns a record that was not settled into one that is. -/
theorem settles_record {step : QueueStep α} {itemId : JsString}
    (ran : (perform parse step.operation).run step.before = (step.outcome, step.after))
    (settles : Settles step itemId) :
    ∃ record next, step.before.find itemId = some record ∧ record.status ≠ .settled ∧
      step.after.find itemId = some next ∧ next.status = .settled := by
  obtain ⟨⟨reading, operation⟩, before, outcome, after⟩ := step
  obtain ⟨settles, reply, succeeded⟩ := settles
  have effect := step_effect ran succeeded
  dsimp only at settles effect ⊢
  cases effect with
  | presented operation reply other shown record next shows found held evolves kept settled =>
    have same : other = itemId := by
      cases operation <;>
        simp_all [QueueOperation.settles, QueueOperation.presents]
    subst same
    exact ⟨record, next, found, evolves.unsettled, OrderedMap.find_set_self, settled settles⟩
  | forced other record found unsettled =>
    obtain rfl : other = itemId := by simpa [QueueOperation.settles] using settles
    exact ⟨record, _, found, unsettled, OrderedMap.find_set_self, rfl⟩
  | _ => simp [QueueOperation.settles] at settles

/-- A settled record stays as it is. -/
theorem Advances.settled {before after : Queue α} (advances : Advances before after)
    {itemId : JsString} {record : QueueRecord α} (found : before.find itemId = some record)
    (settled : record.status = .settled) : after.find itemId = some record := by
  obtain ⟨next, reached, same | evolves⟩ := advances.kept itemId record found
  · rw [reached, same]
  · exact absurd settled evolves.unsettled

/-- A lease granted by one step is outranked by the record in every later state. -/
def LeaseMark (step : QueueStep α) (queue : Queue α) : Prop :=
  ∀ itemId granted, Claims step itemId granted →
    ∃ record, queue.find itemId = some record ∧ Outranks record granted

/-- An item settled by one step is settled in every later state. -/
def SettledMark (step : QueueStep α) (queue : Queue α) : Prop :=
  ∀ itemId, Settles step itemId → ∃ record, queue.find itemId = some record ∧
    record.status = .settled

/-- Every lease a record is under was granted by an earlier step. -/
def Granted (steps : List (QueueStep α)) (queue : Queue α) : Prop :=
  ∀ itemId record, queue.find itemId = some record → record.status = .leased →
    ∃ claim ∈ steps, ∃ granted, Claims claim itemId granted ∧
      record.leaseOwnerId = some granted.ownerId ∧ record.leaseId = some granted.leaseId ∧
        record.leaseEpoch = granted.epoch

/-- The lease of a record that was not claimed anew is the one it was under before. -/
theorem Evolves.sameLease {record next : QueueRecord α} (evolves : Evolves record next)
    (kept : next.leaseEpoch = record.leaseEpoch) (leased : next.status = .leased) :
    record.status = .leased ∧ next.leaseOwnerId = record.leaseOwnerId ∧
      next.leaseId = record.leaseId := by
  cases evolves with
  | leased input expiresAtMs =>
    have raised : record.leaseEpoch + 1 = record.leaseEpoch := kept
    omega
  | renewed expiresAtMs held => exact ⟨held, rfl, rfl⟩
  | settled => cases leased
  | returned => cases leased
  | woken availableAtMs unsettled => exact ⟨leased, rfl, rfl⟩

/-- A step in which a record keeps its epoch keeps its grant. -/
theorem Granted.kept {steps : List (QueueStep α)} {before : Queue α} {itemId : JsString}
    {record next : QueueRecord α} (granted : Granted steps before)
    (found : before.find itemId = some record) (evolves : Evolves record next)
    (kept : next.leaseEpoch = record.leaseEpoch) (step : QueueStep α) :
    Granted (steps ++ [step]) (before.set itemId next) := by
  intro other current present leased
  by_cases same : other = itemId
  · subst same
    rw [OrderedMap.find_set_self] at present
    obtain rfl : next = current := Option.some.inj present
    obtain ⟨held, owner, leaseId⟩ := evolves.sameLease kept leased
    obtain ⟨claim, member, lease, claims, ownerGranted, idGranted, epoch⟩ :=
      granted other record found held
    exact ⟨claim, List.mem_append_left _ member, lease, claims, owner.trans ownerGranted,
      leaseId.trans idGranted, kept.trans epoch⟩
  · rw [OrderedMap.find_set_of_ne same] at present
    obtain ⟨claim, member, rest⟩ := granted other current present leased
    exact ⟨claim, List.mem_append_left _ member, rest⟩

/-- A step that leaves the queue alone keeps the grants. -/
theorem Granted.weaken {steps : List (QueueStep α)} {queue : Queue α}
    (granted : Granted steps queue) (step : QueueStep α) : Granted (steps ++ [step]) queue := by
  intro itemId record found leased
  obtain ⟨claim, member, rest⟩ := granted itemId record found leased
  exact ⟨claim, List.mem_append_left _ member, rest⟩

/-- Every step keeps the leases of the records among the grants. -/
theorem granted_grows {earlier : List (QueueStep α)} {step : QueueStep α}
    (granted : Granted earlier step.before)
    (ran : (perform parse step.operation).run step.before = (step.outcome, step.after)) :
    Granted (earlier ++ [step]) step.after := by
  cases outcome : step.outcome with
  | error failure =>
    have same : step.after = step.before := by
      have kept := perform_atomic parse step.operation step.before failure
      rw [ran] at kept
      exact kept outcome
    rw [same]
    exact granted.weaken step
  | ok reply =>
    have effect := step_effect ran outcome
    obtain ⟨⟨reading, operation⟩, before, result, after⟩ := step
    dsimp only at granted effect outcome ⊢
    cases effect with
    | enqueued itemId item createdAt record absent fresh =>
      intro other current present leased
      by_cases same : other = itemId
      · subst same
        rw [OrderedMap.find_set_self] at present
        obtain rfl : record = current := Option.some.inj present
        rw [fresh] at leased
        cases leased
      · rw [OrderedMap.find_set_of_ne same] at present
        exact granted.weaken _ other current present leased
    | drained input order => exact granted.weaken _
    | claimed input order itemId record expiresAtMs expiresAt found unsettled =>
      intro other current present leased
      by_cases same : other = itemId
      · subst same
        rw [OrderedMap.find_set_self] at present
        obtain rfl := Option.some.inj present
        refine ⟨_, List.mem_append_right _ (List.mem_singleton_self _), _, ⟨record.item, outcome⟩,
          rfl, rfl, rfl⟩
      · rw [OrderedMap.find_set_of_ne same] at present
        exact granted.weaken _ other current present leased
    | presented operation reply itemId lease record next presents found held evolves kept =>
      exact granted.kept found evolves kept _
    | forced itemId record found unsettled =>
      exact granted.kept found (.settled unsettled) rfl _
    | asleep itemId => exact granted.weaken _
    | woken itemId record availableAtMs found unsettled =>
      exact granted.kept found (.woken availableAtMs unsettled) rfl _

/-- What holds along the trace of a run on a queue. -/
structure Fencing (steps : List (QueueStep α)) : Prop where
  /-- A claim raises the epoch of the record it takes by exactly one. -/
  increments : ∀ step ∈ steps, ∀ itemId granted, Claims step itemId granted →
    ∃ record next, step.before.find itemId = some record ∧
      step.after.find itemId = some next ∧ next.leaseEpoch = record.leaseEpoch + 1 ∧
      granted.epoch = next.leaseEpoch
  /-- Behind a claim no smaller epoch is accepted, and its own epoch only from its worker. -/
  fenced : steps.Pairwise fun earlier later => ∀ itemId granted lease,
    Claims earlier itemId granted → Uses later itemId lease →
      granted.epoch ≤ lease.leaseEpoch ∧ (granted.epoch = lease.leaseEpoch →
        granted.ownerId = lease.ownerId ∧ granted.leaseId = lease.leaseId)
  /-- A lease that is accepted was granted by an earlier claim of the same item. -/
  granted : ∀ earlier step later, steps = earlier ++ step :: later → ∀ itemId lease,
    Uses step itemId lease → ∃ claim ∈ earlier, ∃ granted, Claims claim itemId granted ∧
      granted.ownerId = lease.ownerId ∧ granted.leaseId = lease.leaseId ∧
        granted.epoch = lease.leaseEpoch
  /-- A settled item is neither settled again nor claimed. -/
  settledOnce : steps.Pairwise fun earlier later => ∀ itemId, Settles earlier itemId →
    ¬ Settles later itemId ∧ ∀ granted, ¬ Claims later itemId granted
  /-- An item that is not settled is claimable at every late enough instant, and then a claim
  finds a record to take. -/
  claimable : ∀ step ∈ steps, ∀ itemId record, step.after.find itemId = some record →
    record.status ≠ .settled → ∃ start, ∀ now, start ≤ now →
      isClaimable record now = true ∧ ∀ order, nextClaimable step.after now order ≠ none
  /-- An operation that fails leaves the queue alone. -/
  atomic : ∀ step ∈ steps, ∀ failure, step.outcome = .error failure → step.after = step.before

/-- The empty queue is well formed. -/
theorem empty_invariant : QueueInvariant (.empty : Queue α) := by
  intro itemId record found
  simp at found

/-- A lease that a record is under and that a claim granted earlier ranks no lower than the
claim. -/
theorem Outranks.held {record : QueueRecord α} {granted : QueueLease} {lease : QueueLeaseInput}
    (outranks : Outranks record granted) (held : HeldBy record lease) :
    granted.epoch ≤ lease.leaseEpoch ∧ (granted.epoch = lease.leaseEpoch →
      granted.ownerId = lease.ownerId ∧ granted.leaseId = lease.leaseId) := by
  have epoch := held.epoch
  cases outranks with
  | inl less =>
    constructor
    · omega
    · intro same
      omega
  | inr same =>
    obtain ⟨equal, current⟩ := same
    obtain ⟨owner, leaseId⟩ := current held.status
    have ownerHeld := held.owner
    have idHeld := held.leaseId
    rw [owner, Option.getD_some] at ownerHeld
    rw [leaseId, Option.getD_some] at idHeld
    exact ⟨by omega, fun _ => ⟨ownerHeld, idHeld⟩⟩

/-- Along every run of any workers on a queue that starts empty, at any readings of the clock:
each claim raises the epoch of its item by exactly one; behind a claim neither a smaller epoch
nor another worker with the same epoch is accepted, and every accepted lease was granted by a
claim; an item is settled at most once and not claimed afterwards; an item that is not settled
is claimable at every late enough instant; and an operation that fails changes nothing. -/
theorem queue_fencing (parse : JsString → Option Int) (operations : List (TimedOperation α)) :
    Fencing (trace (perform parse) (.empty : Queue α) operations) where
  increments step member itemId granted claims := by
    obtain ⟨record, next, found, _, reached, raised, epoch, _⟩ :=
      claims_record (run_of_mem_trace member) claims
    exact ⟨record, next, found, reached, raised, epoch⟩
  fenced := by
    refine trace_pairwise QueueInvariant LeaseMark _ perform_invariant ?marks ?keeps ?relates
      empty_invariant operations
    case marks =>
      intro step _ ran itemId granted claims
      obtain ⟨_, next, _, _, reached, _, epoch, owner, leaseId⟩ := claims_record ran claims
      exact ⟨next, reached, .inr ⟨epoch, fun _ => ⟨owner, leaseId⟩⟩⟩
    case keeps =>
      intro step timed queue _ marked itemId granted claims
      obtain ⟨record, found, outranks⟩ := marked itemId granted claims
      obtain ⟨next, reached, same | evolves⟩ :=
        (perform_advances timed queue).kept itemId record found
      · exact ⟨next, reached, same ▸ outranks⟩
      · exact ⟨next, reached, evolves.outranks outranks⟩
    case relates =>
      intro earlier later _ marked ran itemId granted lease claims uses
      obtain ⟨record, found, outranks⟩ := marked itemId granted claims
      obtain ⟨current, present, held⟩ := uses_record ran uses
      obtain rfl : record = current := Option.some.inj (found.symm.trans present)
      exact outranks.held held
  granted earlier step later split itemId lease uses := by
    have start : Granted ([] : List (QueueStep α)) .empty := by
      intro itemId record found
      simp at found
    have history := trace_history Granted (fun _ _ granted ran => granted_grows granted ran)
      start split
    have member : step ∈ trace (perform parse) .empty operations := by simp [split]
    obtain ⟨record, found, held⟩ := uses_record (run_of_mem_trace member) uses
    obtain ⟨claim, earlierClaim, granted, claims, owner, leaseId, epoch⟩ :=
      history itemId record found held.status
    have ownerHeld := held.owner
    have idHeld := held.leaseId
    rw [owner, Option.getD_some] at ownerHeld
    rw [leaseId, Option.getD_some] at idHeld
    exact ⟨claim, earlierClaim, granted, claims, ownerHeld, idHeld, epoch.symm.trans held.epoch⟩
  settledOnce := by
    refine trace_pairwise QueueInvariant SettledMark _ perform_invariant ?marks ?keeps ?relates
      empty_invariant operations
    case marks =>
      intro step _ ran itemId settles
      obtain ⟨_, next, _, _, reached, settled⟩ := settles_record ran settles
      exact ⟨next, reached, settled⟩
    case keeps =>
      intro step timed queue _ marked itemId settles
      obtain ⟨record, found, settled⟩ := marked itemId settles
      exact ⟨record, (perform_advances timed queue).settled found settled, settled⟩
    case relates =>
      intro earlier later _ marked ran itemId settles
      obtain ⟨record, found, settled⟩ := marked itemId settles
      constructor
      · intro again
        obtain ⟨current, _, present, unsettled, _⟩ := settles_record ran again
        obtain rfl : record = current := Option.some.inj (found.symm.trans present)
        exact unsettled settled
      · intro granted claims
        obtain ⟨current, _, present, unsettled, _⟩ := claims_record ran claims
        obtain rfl : record = current := Option.some.inj (found.symm.trans present)
        exact unsettled settled
  claimable step member itemId record found unsettled := by
    have held := trace_invariant QueueInvariant perform_invariant empty_invariant member
    obtain ⟨start, late⟩ := (held.2 itemId record found).claimable unsettled
    exact ⟨start, fun now after =>
      ⟨late now after, fun order => nextClaimable_complete found (late now after) order⟩⟩
  atomic step member failure failed := by
    have kept := perform_atomic parse step.operation step.before failure
    rw [run_of_mem_trace member] at kept
    exact kept failed

end Crewon.Verif.Queue
