import Crewon.Domain.ThreadLifecycle
import Mathlib

/-!
# The invariant of a thread

Every event the reducer accepts moves the log of a thread on by one and changes a few fields of
its state. The changes are listed once; a valid thread stays valid under each of them, and the
counters, the fork and the deletion follow along the whole log.
-/

namespace Crewon.Verif.ThreadLifecycle

open Crewon.Js Crewon.Checked Crewon.Replay Crewon.Domain

/-- A thread that passes the checks of a stored one. -/
structure ValidThread (state : ThreadState) : Prop where
  ids : state.threadId.isBlank = false ∧ state.tenantId.isBlank = false ∧
    state.spaceId.isBlank = false ∧ state.createdByActorId.isBlank = false
  title : requireNullableTitle state.title = .ok ()
  workspaceId : state.workspaceId.all isWorkspaceId = true
  revision : 1 ≤ state.revision ∧ state.revision ≤ maxSafeInteger
  lastEventSequence : state.lastEventSequence = state.revision
  lastMessageSequence : 0 ≤ state.lastMessageSequence ∧
    state.lastMessageSequence ≤ maxSafeInteger
  updatedAt : NoLater state.createdAt state.updatedAt
  stamps : stampsMismatch state = false
  fork : forkMismatch state = false

/-- The checks of a workspace hand it on. -/
@[simp] theorem normalizeThreadWorkspaceId_eq_ok {value result : Option JsString} :
    normalizeThreadWorkspaceId value = .ok result ↔
      value.all isWorkspaceId = true ∧ value = result := by
  unfold normalizeThreadWorkspaceId
  split <;> simp_all

/-- The checks of a stored thread pass exactly on the valid ones. -/
theorem validateThreadState_eq_ok {state : ThreadState} {result : Unit} :
    validateThreadState state = .ok result ↔ ValidThread state := by
  have bound := maxSafeInteger_pos
  simp only [validateThreadState, requireThreadText, bind_eq_ok, exists_unit,
    requireNonEmpty_eq_ok, normalizeThreadWorkspaceId_eq_ok, rejectIf_eq_ok, not_or,
    Bool.not_eq_false, Bool.not_eq_true, not_not, isPositiveInteger_iff,
    isNonNegativeInteger_iff, isSafeInteger_iff]
  constructor
  · rintro ⟨thread, tenant, space, actor, title, _, ⟨workspace, rfl⟩, numbers, stamps, fork⟩
    obtain ⟨revision, _, same, messages, created, updated, ordered⟩ := numbers
    exact ⟨⟨thread, tenant, space, actor⟩, title, workspace, revision, same, messages,
      noLater_iff.mpr ⟨created, updated, ordered⟩, stamps, fork⟩
  · intro held
    obtain ⟨thread, tenant, space, actor⟩ := held.ids
    obtain ⟨created, updated, ordered⟩ := noLater_iff.mp held.updatedAt
    have same := held.lastEventSequence
    have revision := held.revision
    exact ⟨thread, tenant, space, actor, held.title, _, ⟨held.workspaceId, rfl⟩,
      ⟨revision, by omega, same, held.lastMessageSequence, created, updated, ordered⟩,
      held.stamps, held.fork⟩

/-- What every accepted event does to a thread that exists. -/
structure Follows (state : ThreadState) (event : ThreadLifecycleEvent) (next : ThreadState) :
    Prop where
  present : state.status ≠ .deleted
  sequence : event.sequence = state.lastEventSequence + 1
  time : NoLater state.updatedAt event.occurredAt
  revision : next.revision = state.revision + 1
  lastEventSequence : next.lastEventSequence = event.sequence
  updatedAt : next.updatedAt = event.occurredAt
  lastMessageSequence : next.lastMessageSequence =
    state.lastMessageSequence + if event.data.isMessage then 1 else 0
  unforked : event.data.isForked = true → state.forkedFromThreadId = none
  fork : next.forkedFromThreadId.isSome =
    (state.forkedFromThreadId.isSome || event.data.isForked)

/-- The conditions under which a thread that exists accepts an event. -/
theorem reduce_some_eq_ok {state next : ThreadState} {event : ThreadLifecycleEvent} :
    reduceThreadLifecycleEvent (some state) event = .ok next ↔
      validateThreadLifecycleEvent event = .ok () ∧ ValidThread state ∧
        event.threadId = state.threadId ∧ event.sequence = state.lastEventSequence + 1 ∧
        state.status ≠ .deleted ∧ isEarlier event.occurredAt state.updatedAt = false ∧
        applyThreadEvent state { state with
          revision := state.revision + 1
          lastEventSequence := event.sequence
          updatedAt := event.occurredAt } event = .ok next := by
  simp only [reduceThreadLifecycleEvent, bind_eq_ok, exists_unit, validateThreadState_eq_ok,
    rejectIf_eq_ok, not_not, Bool.not_eq_true, normalizeThreadWorkspaceId_eq_ok]
  constructor
  · rintro ⟨event, held, thread, sequence, present, time, workspaceId, ⟨_, rfl⟩, applied⟩
    exact ⟨event, held, thread, sequence, present, time, applied⟩
  · rintro ⟨event, held, thread, sequence, present, time, applied⟩
    exact ⟨event, held, thread, sequence, present, time, _, ⟨held.workspaceId, rfl⟩, applied⟩

/-- A thread that is not deleted carries no stamp of a deletion. -/
theorem ValidThread.undeleted {state : ThreadState} (held : ValidThread state)
    (present : state.status ≠ .deleted) :
    state.deletedAt = none ∧ state.deletedByActorId = none := by
  have stamps := held.stamps
  cases status : state.status with
  | active => simp_all [stampsMismatch]
  | archived => simp_all [stampsMismatch]
  | deleted => exact absurd status present

/-- A thread with other stamps, titles or counters is still valid when these are. -/
theorem ValidThread.moved {state next : ThreadState} (held : ValidThread state)
    (ids : next.threadId = state.threadId ∧ next.tenantId = state.tenantId ∧
      next.spaceId = state.spaceId ∧ next.createdByActorId = state.createdByActorId ∧
      next.workspaceId = state.workspaceId ∧ next.createdAt = state.createdAt)
    (title : requireNullableTitle next.title = .ok ())
    (revision : next.revision = state.revision + 1 ∧ next.revision ≤ maxSafeInteger)
    (lastEventSequence : next.lastEventSequence = next.revision)
    (lastMessageSequence : 0 ≤ next.lastMessageSequence ∧
      next.lastMessageSequence ≤ maxSafeInteger)
    (time : NoLater state.updatedAt next.updatedAt) (stamps : stampsMismatch next = false)
    (fork : forkMismatch next = false) : ValidThread next := by
  obtain ⟨thread, tenant, space, actor, workspace, created⟩ := ids
  have positive := held.revision
  refine ⟨?_, title, ?_, ⟨by omega, revision.2⟩, lastEventSequence, lastMessageSequence, ?_,
    stamps, fork⟩
  · rw [thread, tenant, space, actor]
    exact held.ids
  · rw [workspace]
    exact held.workspaceId
  · rw [created]
    exact held.updatedAt.trans time

/-- An event that is neither a message nor a fork leaves the counter of messages and the origin of
the thread alone. -/
theorem Follows.plain {state next : ThreadState} {event : ThreadLifecycleEvent}
    (present : state.status ≠ .deleted) (sequence : event.sequence = state.lastEventSequence + 1)
    (time : NoLater state.updatedAt event.occurredAt)
    (position : next.revision = state.revision + 1 ∧ next.lastEventSequence = event.sequence ∧
      next.updatedAt = event.occurredAt)
    (silent : event.data.isMessage = false ∧ event.data.isForked = false)
    (kept : next.lastMessageSequence = state.lastMessageSequence ∧
      next.forkedFromThreadId = state.forkedFromThreadId) : Follows state event next := by
  obtain ⟨noMessage, noFork⟩ := silent
  refine ⟨present, sequence, time, position.1, position.2.1, position.2.2, ?_, ?_, ?_⟩
  · simp [noMessage, kept.1]
  · simp [noFork]
  · simp [noFork, kept.2]

/-- Every accepted event moves the thread on and keeps it valid. -/
theorem reduce_follows {state next : ThreadState} {event : ThreadLifecycleEvent}
    (accepted : reduceThreadLifecycleEvent (some state) event = .ok next) :
    ValidThread next ∧ Follows state event next := by
  obtain ⟨checked, held, thread, sequence, present, ordered, applied⟩ :=
    reduce_some_eq_ok.mp accepted
  have envelope := checked
  simp only [validateThreadLifecycleEvent, bind_eq_ok, exists_unit, requirePositiveInteger_eq_ok,
    requireTimestamp_eq_ok, requireThreadText, requireNonEmpty_eq_ok, rejectIf_eq_ok] at envelope
  obtain ⟨_, _, _, numbered, stamped, _, own⟩ := envelope
  have time : NoLater state.updatedAt event.occurredAt :=
    noLater_iff.mpr ⟨(noLater_iff.mp held.updatedAt).2.1, stamped, ordered⟩
  have revision : state.revision + 1 ≤ maxSafeInteger := by
    rw [← held.lastEventSequence, ← sequence]
    exact numbered.2
  have counted : event.sequence = state.revision + 1 := by rw [sequence, held.lastEventSequence]
  obtain ⟨undeleted, unmarked⟩ := held.undeleted present
  have stamps := held.stamps
  have fork := held.fork
  have active (open' : state.status ≠ .archived) : state.status = .active := by
    cases status : state.status <;> simp_all
  cases said : event.data with
  | threadCreated => simp [applyThreadEvent, said] at applied
  | threadMessageAppended messageId messageSequence role digest initialTitle =>
    simp only [applyThreadEvent, said, requireActive, bind_eq_ok, exists_unit, rejectIf_eq_ok,
      not_not, pure_eq_ok] at applied
    simp only [said, bind_eq_ok, exists_unit, whenPresent_eq_ok, validateInitialTitle,
      requirePositiveInteger_eq_ok] at own
    obtain ⟨notArchived, _, following, _, rfl⟩ := applied
    obtain ⟨titled, _, numberedMessage, _⟩ := own
    have counter := held.lastMessageSequence
    constructor
    · refine held.moved ⟨rfl, rfl, rfl, rfl, rfl, rfl⟩ ?_ ⟨rfl, revision⟩ counted ?_ time ?_ fork
      · cases present : state.title with
        | none =>
          cases first : initialTitle with
          | none => rfl
          | some title => exact (titled title first).1
        | some title => simpa [present] using held.title
      · show 0 ≤ messageSequence ∧ messageSequence ≤ maxSafeInteger
        omega
      · simpa [stampsMismatch, active notArchived] using stamps
    · refine ⟨present, sequence, time, rfl, rfl, rfl, ?_, ?_, ?_⟩
      · simp [said, ThreadEventData.isMessage, following]
      · simp [said, ThreadEventData.isForked]
      · simp [said, ThreadEventData.isForked]
  | threadForked source throughHistory throughMessage actorId =>
    simp only [applyThreadEvent, said, requireActive, requireThreadText, requireNonEmpty_eq_ok,
      bind_eq_ok, exists_unit, rejectIf_eq_ok, not_or, not_not, Bool.not_eq_false,
      pure_eq_ok] at applied
    obtain ⟨notArchived, sourced, _, ⟨unforked, other, through, _, _, _⟩, rfl⟩ := applied
    constructor
    · refine held.moved ⟨rfl, rfl, rfl, rfl, rfl, rfl⟩ held.title ⟨rfl, revision⟩ counted
        held.lastMessageSequence time ?_ ?_
      · simpa [stampsMismatch, active notArchived] using stamps
      · simp [forkMismatch, sourced, other, through]
    · refine ⟨present, sequence, time, rfl, rfl, rfl, ?_, fun _ => unforked, ?_⟩
      · simp [said, ThreadEventData.isMessage]
      · simp [said, ThreadEventData.isForked]
  | threadArchived actorId =>
    simp only [applyThreadEvent, said, bind_eq_ok, exists_unit, rejectIf_eq_ok,
      pure_eq_ok] at applied
    obtain ⟨_, rfl⟩ := applied
    constructor
    · refine held.moved ⟨rfl, rfl, rfl, rfl, rfl, rfl⟩ held.title ⟨rfl, revision⟩ counted
        held.lastMessageSequence time ?_ fork
      simp [stampsMismatch, stamped, undeleted, unmarked]
    · exact .plain present sequence time ⟨rfl, rfl, rfl⟩ (by rw [said]; exact ⟨rfl, rfl⟩) ⟨rfl, rfl⟩
  | threadUnarchived actorId =>
    simp only [applyThreadEvent, said, bind_eq_ok, exists_unit, rejectIf_eq_ok,
      pure_eq_ok] at applied
    obtain ⟨_, rfl⟩ := applied
    constructor
    · refine held.moved ⟨rfl, rfl, rfl, rfl, rfl, rfl⟩ held.title ⟨rfl, revision⟩ counted
        held.lastMessageSequence time ?_ fork
      simp [stampsMismatch, undeleted, unmarked]
    · exact .plain present sequence time ⟨rfl, rfl, rfl⟩ (by rw [said]; exact ⟨rfl, rfl⟩) ⟨rfl, rfl⟩
  | threadRenamed actorId title =>
    simp only [said, bind_eq_ok, exists_unit] at own
    simp only [applyThreadEvent, said, Except.ok.injEq] at applied
    obtain rfl := applied
    constructor
    · refine held.moved ⟨rfl, rfl, rfl, rfl, rfl, rfl⟩ own.2 ⟨rfl, revision⟩ counted
        held.lastMessageSequence time ?_ fork
      cases status : state.status with
      | deleted => exact absurd status present
      | active | archived => simpa [stampsMismatch, status] using stamps
    · exact .plain present sequence time ⟨rfl, rfl, rfl⟩ (by rw [said]; exact ⟨rfl, rfl⟩) ⟨rfl, rfl⟩
  | threadRolledBack data =>
    simp only [applyThreadEvent, said, requireActive, bind_eq_ok, exists_unit, rejectIf_eq_ok,
      pure_eq_ok] at applied
    obtain ⟨_, rfl⟩ := applied
    constructor
    · exact held.moved ⟨rfl, rfl, rfl, rfl, rfl, rfl⟩ held.title ⟨rfl, revision⟩ counted
        held.lastMessageSequence time stamps fork
    · exact .plain present sequence time ⟨rfl, rfl, rfl⟩ (by rw [said]; exact ⟨rfl, rfl⟩) ⟨rfl, rfl⟩
  | threadDeleted actorId =>
    simp only [said, requireNonEmpty_eq_ok] at own
    simp only [applyThreadEvent, said, Except.ok.injEq] at applied
    obtain rfl := applied
    constructor
    · refine held.moved ⟨rfl, rfl, rfl, rfl, rfl, rfl⟩ rfl ⟨rfl, revision⟩ counted
        held.lastMessageSequence time ?_ fork
      simp [stampsMismatch, stamped, own]
    · exact .plain present sequence time ⟨rfl, rfl, rfl⟩ (by rw [said]; exact ⟨rfl, rfl⟩) ⟨rfl, rfl⟩

/-- The thread that its first event creates. -/
theorem reduce_none_fresh {event : ThreadLifecycleEvent} {state : ThreadState}
    (accepted : reduceThreadLifecycleEvent none event = .ok state) :
    ValidThread state ∧ event.data.isMessage = false ∧ event.data.isForked = false ∧
      state.status = .active ∧ state.revision = 1 ∧ state.lastEventSequence = 1 ∧
      state.lastMessageSequence = 0 ∧ state.forkedFromThreadId = none := by
  have bound := maxSafeInteger_pos
  simp only [reduceThreadLifecycleEvent, validateThreadLifecycleEvent, bind_eq_ok, exists_unit,
    requireTimestamp_eq_ok] at accepted
  obtain ⟨⟨_, _, _, _, stamped, _, _⟩, created⟩ := accepted
  cases said : event.data with
  | threadCreated tenantId spaceId actorId title workspaceId =>
    simp only [createThread, said, bind_eq_ok, exists_unit, rejectIf_eq_ok, not_not,
      requireThreadText, requireNonEmpty_eq_ok, normalizeThreadWorkspaceId_eq_ok,
      pure_eq_ok] at created
    obtain ⟨_, thread, tenant, space, actor, titled, _, ⟨workspace, rfl⟩, rfl⟩ := created
    refine ⟨⟨⟨thread, tenant, space, actor⟩, titled, workspace, ?_, rfl, ?_, .refl stamped, rfl, rfl⟩,
      rfl, rfl, rfl, rfl, rfl, rfl, rfl⟩
    · show (1 : Int) ≤ 1 ∧ 1 ≤ maxSafeInteger
      omega
    · show (0 : Int) ≤ 0 ∧ 0 ≤ maxSafeInteger
      omega
  | _ => simp [createThread, said] at created

/-- The number of messages that the events append. -/
def messageCount (events : List ThreadLifecycleEvent) : Nat :=
  events.countP fun event => event.data.isMessage

/-- The number of events that mark the thread as a fork. -/
def forkCount (events : List ThreadLifecycleEvent) : Nat :=
  events.countP fun event => event.data.isForked

/-- The counters of a thread follow its log. -/
structure Counted (events : List ThreadLifecycleEvent) (state : ThreadState) : Prop where
  valid : ValidThread state
  lastEventSequence : state.lastEventSequence = events.length
  lastMessageSequence : state.lastMessageSequence = messageCount events
  forks : forkCount events = if state.forkedFromThreadId.isSome then 1 else 0

/-- A created thread has counted its first event. -/
theorem Counted.first {event : ThreadLifecycleEvent} {state : ThreadState}
    (accepted : reduceThreadLifecycleEvent none event = .ok state) : Counted [event] state := by
  obtain ⟨valid, noMessage, noFork, _, _, last, messages, unforked⟩ := reduce_none_fresh accepted
  refine ⟨valid, ?_, ?_, ?_⟩
  · simp [last]
  · simp [messages, messageCount, noMessage]
  · simp [unforked, forkCount, noFork]

/-- Every accepted event is counted. -/
theorem Counted.step {events : List ThreadLifecycleEvent} {state next : ThreadState}
    {event : ThreadLifecycleEvent} (counted : Counted events state)
    (accepted : reduceThreadLifecycleEvent (some state) event = .ok next) :
    Counted (events ++ [event]) next := by
  obtain ⟨valid, follows⟩ := reduce_follows accepted
  refine ⟨valid, ?_, ?_, ?_⟩
  · rw [follows.lastEventSequence, follows.sequence, counted.lastEventSequence]
    simp
  · rw [follows.lastMessageSequence, counted.lastMessageSequence]
    simp only [messageCount, List.countP_append, List.countP_singleton]
    split <;> simp
  · have before := counted.forks
    have unforked := follows.unforked
    rw [follows.fork]
    simp only [forkCount, List.countP_append, List.countP_singleton] at before ⊢
    cases forked : event.data.isForked with
    | false => simpa [forked] using before
    | true =>
      rw [unforked forked] at before ⊢
      simp [before]

/-- The counters follow every accepted log. -/
theorem reaches_counted {events : List ThreadLifecycleEvent} {state : ThreadState}
    (reached : Reaches reduceThreadLifecycleEvent events state) : Counted events state :=
  reaches_induction (motive := Counted) (fun _ _ => Counted.first)
    (fun _ _ _ _ _ => Counted.step) reached

/-- A log is replayed exactly when the reducer accepts it event by event. -/
theorem replayThreadLifecycle_eq_ok {events : List ThreadLifecycleEvent} {state : ThreadState} :
    replayThreadLifecycle events = .ok state ↔
      Reaches reduceThreadLifecycleEvent events state :=
  fold_eq_ok

/-- Accepted events do not take the thread back in time. -/
theorem replayFrom_noLater {state result : ThreadState} {later : List ThreadLifecycleEvent}
    (valid : ValidThread state)
    (accepted : replayFrom reduceThreadLifecycleEvent (some state) later = .ok (some result)) :
    NoLater state.updatedAt result.updatedAt := by
  have stamped := (noLater_iff.mp valid.updatedAt).2.1
  refine replayFrom_preserves (motive := fun reached => NoLater state.updatedAt reached.updatedAt)
    ?_ (.refl stamped) accepted
  intro middle event next kept reduced
  have follows := (reduce_follows reduced).2
  rw [follows.updatedAt]
  exact kept.trans follows.time

/-- What holds of a thread together with its log. -/
structure LogInvariant (events : List ThreadLifecycleEvent) (state : ThreadState) : Prop where
  valid : validateThreadState state = .ok ()
  revision : state.revision = events.length
  lastEventSequence : state.lastEventSequence = events.length
  lastMessageSequence : state.lastMessageSequence = messageCount events
  updatedAt : ∀ earlier later reached, events = earlier ++ later →
    replayThreadLifecycle earlier = .ok reached → NoLater reached.updatedAt state.updatedAt
  forks : forkCount events ≤ 1
  deleted : state.status = .deleted →
    ∀ event next, reduceThreadLifecycleEvent (some state) event ≠ .ok next

/-- Every accepted log leaves a thread that passes the checks of a stored one: its counters are
the numbers of events and messages, it never goes back in time from one event to a later one, it
is marked as a fork at most once, and a deleted thread accepts no event. -/
theorem replayThreadLifecycle_invariant {events : List ThreadLifecycleEvent} {state : ThreadState}
    (accepted : replayThreadLifecycle events = .ok state) : LogInvariant events state := by
  have reached := replayThreadLifecycle_eq_ok.mp accepted
  have counted := reaches_counted reached
  refine ⟨validateThreadState_eq_ok.mpr counted.valid, ?_, counted.lastEventSequence,
    counted.lastMessageSequence, ?_, ?_, ?_⟩
  · rw [← counted.valid.lastEventSequence, counted.lastEventSequence]
  · rintro earlier later middle rfl replayed
    have first := replayThreadLifecycle_eq_ok.mp replayed
    have started : earlier ≠ [] := by
      rintro rfl
      simp [Reaches] at first
    obtain ⟨found, again, rest⟩ := reaches_prefix reached started
    obtain rfl : found = middle := by
      rw [Reaches, again] at first
      simpa using first
    exact replayFrom_noLater (reaches_counted again).valid rest
  · rw [counted.forks]
    split <;> omega
  · intro deleted event next reduced
    exact (reduce_follows reduced).2.present deleted

/-- An event of a sample thread. -/
def eventAt (sequence : Int) (data : ThreadEventData) : ThreadLifecycleEvent where
  schemaVersion := js "crewon.thread-event.v0"
  threadId := js "thread"
  eventId := js "event"
  sequence := sequence
  occurredAt := js "2026-01-01T00:00:00Z"
  data := data
  ownsWorkspaceId := data.isCreated

/-- A thread that is forked, spoken in, archived, taken back and deleted. -/
def sampleLog : List ThreadLifecycleEvent := [
  eventAt 1 (.threadCreated (js "tenant") (js "space") (js "actor") none (some (js "workspace"))),
  eventAt 2 (.threadForked (js "source") 4 0 (js "actor")),
  eventAt 3 (.threadMessageAppended (js "message") 1 .user (uniformDigest 'a') (some (js "Title"))),
  eventAt 4 (.threadArchived (js "actor")),
  eventAt 5 (.threadRenamed (js "actor") none),
  eventAt 6 (.threadUnarchived (js "actor")),
  eventAt 7 (.threadRolledBack ⟨js "actor", js "rollback", js "marker", 1, 1, some 5, 5, 6⟩),
  eventAt 8 (.threadDeleted (js "actor"))]

/-- The sample log is accepted, so its thread satisfies the invariant. -/
theorem replayThreadLifecycle_invariant_sample :
    ∃ state, replayThreadLifecycle sampleLog = .ok state ∧ LogInvariant sampleLog state := by
  obtain ⟨state, accepted⟩ := exists_of_isOk
    (by decide_cbv : (replayThreadLifecycle sampleLog).isOk = true)
  exact ⟨state, accepted, replayThreadLifecycle_invariant accepted⟩

end Crewon.Verif.ThreadLifecycle
