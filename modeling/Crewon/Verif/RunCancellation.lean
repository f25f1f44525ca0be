import Crewon.Verif.RunLifecycle

/-!
# Cancellation of a run

Once a cancellation is requested, no accepted event changes the usage or turns the run into a
success or a failure, and the run can always be brought to its end: a run that is being
reconciled is resumed first. The only limit is the sequence number, which has to stay a safe
integer.
-/

namespace Crewon.Verif.RunCancellation

open Crewon.Js Crewon.Checked Crewon.Replay Crewon.Domain Crewon.Verif.RunLifecycle

/-- A run on its way to be canceled, with the usage it had when that began. -/
structure Canceling (usage : RunUsage) (state : RunState) : Prop where
  requested : state.cancelRequested = true
  usage : state.usage = usage
  unsuccessful : state.status ≠ .completed ∧ state.status ≠ .failed

/-- An accepted event keeps a run on its way to be canceled. -/
theorem Canceling.preserved {usage : RunUsage} {state next : RunState}
    {event : RunLifecycleEvent} (held : Canceling usage state)
    (accepted : reduceRunLifecycleEvent (some state) event = .ok next) :
    Canceling usage next := by
  obtain ⟨requested, same, unsuccessful⟩ := held
  obtain ⟨_, _, _, _, passes, applied⟩ := reduce_some_eq_ok.mp accepted
  cases applyRunEvent_effect passes applied
  case resumed => exact ⟨requested, same, by simp⟩
  case reconciled => exact ⟨requested, same, by simp⟩
  case canceled => exact ⟨requested, same, by simp⟩
  case accounted => exact ⟨requested, same, unsuccessful⟩
  -- every other effect needs a run without a pending cancellation
  all_goals simp_all

/-- The envelope of the last event: the run has an id and its last instant is a timestamp. -/
theorem reaches_envelope {events : List RunLifecycleEvent} {state : RunState}
    (reached : Reaches reduceRunLifecycleEvent events state) :
    state.runId.isBlank = false ∧ isTimestamp state.updatedAt = true ∧ 1 ≤ state.lastSequence := by
  have envelope {event : RunLifecycleEvent} (valid : validateEventEnvelope event = .ok ()) :
      event.runId.isBlank = false ∧ isTimestamp event.occurredAt = true ∧ 1 ≤ event.sequence := by
    simp only [validateEventEnvelope, bind_eq_ok, exists_unit, requireNonEmpty_eq_ok,
      requirePositiveInteger_eq_ok, requireTimestamp_eq_ok] at valid
    exact ⟨valid.2.2.1, valid.2.2.2.2, valid.2.2.2.1.1⟩
  refine reaches_induction (motive := fun _ state => state.runId.isBlank = false ∧
    isTimestamp state.updatedAt = true ∧ 1 ≤ state.lastSequence) ?first ?step reached
  case first =>
    intro event state accepted
    obtain ⟨valid, created⟩ := reduce_none_eq_ok.mp accepted
    obtain ⟨_, _, runId, _, _, last, _, _, updatedAt, _⟩ := createRun_fresh created
    rw [runId, updatedAt, last]
    exact ⟨(envelope valid).1, (envelope valid).2.1, le_refl 1⟩
  case step =>
    rintro _ state event next _ ⟨runId, _, _⟩ accepted
    obtain ⟨valid, _, _, _, passes, applied⟩ := reduce_some_eq_ok.mp accepted
    have position : next.runId = state.runId ∧ next.updatedAt = event.occurredAt ∧
        next.lastSequence = event.sequence := by
      cases applyRunEvent_effect passes applied <;> exact ⟨rfl, rfl, rfl⟩
    rw [position.1, position.2.1, position.2.2]
    exact ⟨runId, (envelope valid).2⟩

/-- The event after the last one, at the same instant. -/
def nextEvent (state : RunState) (data : RunEventData) : RunLifecycleEvent where
  schemaVersion := js "crewon.run-event.v0"
  runId := state.runId
  eventId := js "event"
  sequence := state.lastSequence + 1
  occurredAt := state.updatedAt
  data := data

/-- The next event is accepted whenever its own branch accepts it. -/
theorem nextEvent_accepted {state next : RunState} {data : RunEventData}
    (runId : state.runId.isBlank = false) (instant : isTimestamp state.updatedAt = true)
    (positive : 1 ≤ state.lastSequence) (room : state.lastSequence + 1 ≤ maxSafeInteger)
    (active : isTerminal state.status = false) (passes : passesCancelPending state data = true)
    (applied : applyRunEvent state (nextEvent state data) = .ok next) :
    reduceRunLifecycleEvent (some state) (nextEvent state data) = .ok next := by
  refine reduce_some_eq_ok.mpr ⟨?_, rfl, rfl, active, fun _ => passes, applied⟩
  simp only [validateEventEnvelope, bind_eq_ok, exists_unit, rejectIf_eq_ok,
    requireNonEmpty_eq_ok, requirePositiveInteger_eq_ok, requireTimestamp_eq_ok]
  have later : 1 ≤ state.lastSequence + 1 := by omega
  exact ⟨not_not.mpr rfl, (by decide : (js "event").isBlank = false), runId, ⟨later, room⟩,
    instant⟩

/-- The state a resumed run is in. -/
def resumedState (state : RunState) (event : RunLifecycleEvent) : RunState :=
  { state.advance event with
    status := .running
    waitingApproval := none
    suspensionReasonCode := none
    reconciliationReceiptId := none }

/-- The events that end a run whose cancellation is pending. -/
def cancelContinuation (state : RunState) : List RunLifecycleEvent :=
  if state.status = .reconciling then
    let resume := nextEvent state (.runResumed (js "cancel"))
    [resume, nextEvent (resumedState state resume) (.runCanceled (js "cancel"))]
  else [nextEvent state (.runCanceled (js "cancel"))]

/-- The number of events that end the run. -/
def cancelSteps (state : RunState) : Int := if state.status = .reconciling then 2 else 1

/-- A run that is not being reconciled is ended by one event. -/
theorem canceled_next {state : RunState} (runId : state.runId.isBlank = false)
    (instant : isTimestamp state.updatedAt = true) (positive : 1 ≤ state.lastSequence)
    (room : state.lastSequence + 1 ≤ maxSafeInteger)
    (active : isTerminal state.status = false) (requested : state.cancelRequested = true)
    (settled : state.status ≠ .reconciling) :
    ∃ result, reduceRunLifecycleEvent (some state)
      (nextEvent state (.runCanceled (js "cancel"))) = .ok result ∧ result.status = .canceled := by
  let event := nextEvent state (.runCanceled (js "cancel"))
  refine ⟨{ state.advance event with status := .canceled, terminalAt := some state.updatedAt },
    nextEvent_accepted runId instant positive room active rfl ?_, rfl⟩
  simp only [applyRunEvent, nextEvent, bind_eq_ok, exists_unit, requireNonEmpty_eq_ok,
    rejectIf_eq_ok, pure_eq_ok]
  exact ⟨by decide, by simp [requested], settled, rfl⟩

/-- With room for the events in the sequence, the continuation is accepted and cancels the
run. -/
theorem cancelContinuation_accepted {state : RunState} (runId : state.runId.isBlank = false)
    (instant : isTimestamp state.updatedAt = true) (positive : 1 ≤ state.lastSequence)
    (room : state.lastSequence + cancelSteps state ≤ maxSafeInteger)
    (active : isTerminal state.status = false) (requested : state.cancelRequested = true) :
    ∃ result, replayFrom reduceRunLifecycleEvent (some state) (cancelContinuation state) =
      .ok (some result) ∧ result.status = .canceled := by
  by_cases reconciling : state.status = .reconciling
  · simp only [cancelSteps, reconciling, ↓reduceIte] at room
    let resume := nextEvent state (.runResumed (js "cancel"))
    have resumes : reduceRunLifecycleEvent (some state) resume =
        .ok (resumedState state resume) := by
      refine nextEvent_accepted runId instant positive (by omega) active ?_ ?_
      · simp [passesCancelPending, reconciling]
      · simp only [applyRunEvent, nextEvent, requireStatus, bind_eq_ok, exists_unit,
          requireNonEmpty_eq_ok, rejectIf_eq_ok, pure_eq_ok]
        exact ⟨by simp [reconciling], by decide, rfl⟩
    have advanced : (resumedState state resume).lastSequence = state.lastSequence + 1 := rfl
    have kept : (resumedState state resume).runId.isBlank = false := runId
    have settled : (resumedState state resume).status ≠ .reconciling := by simp [resumedState]
    obtain ⟨result, cancels, canceled⟩ :=
      canceled_next kept instant (by omega) (by omega) rfl requested settled
    refine ⟨result, ?_, canceled⟩
    rw [cancelContinuation, if_pos reconciling]
    simp only [replayFrom]
    rw [resumes, ok_bind, cancels, ok_bind]
  · simp only [cancelSteps, reconciling, ↓reduceIte] at room
    obtain ⟨result, cancels, canceled⟩ :=
      canceled_next runId instant positive room active requested reconciling
    refine ⟨result, ?_, canceled⟩
    rw [cancelContinuation, if_neg reconciling, replayFrom_singleton]
    exact cancels

/-- The types of the events that end the run: a resumption exactly when it is being
reconciled, then the cancellation. -/
theorem cancelContinuation_types (state : RunState) :
    (cancelContinuation state).map (·.data.type) =
      if state.status = .reconciling then ["run.resumed", "run.canceled"]
      else ["run.canceled"] := by
  unfold cancelContinuation
  split <;> rfl

/-- After a cancellation is requested, every accepted continuation leaves the usage as it is
and ends neither in a success nor in a failure; and while the sequence number has room for the
events, the continuation of a resumption (only while reconciling) and a cancellation is
accepted and cancels the run. -/
theorem cancellation_progresses {events : List RunLifecycleEvent} {state : RunState}
    (accepted : replayRunLifecycle events = .ok state) (requested : state.cancelRequested = true)
    (active : isTerminal state.status = false) :
    (∀ later result, replayFrom reduceRunLifecycleEvent (some state) later = .ok (some result) →
      result.usage = state.usage ∧ result.status ≠ .completed ∧ result.status ≠ .failed) ∧
    (state.lastSequence + cancelSteps state ≤ maxSafeInteger →
      ∃ continuation result,
        continuation.map (·.data.type) =
          (if state.status = .reconciling then ["run.resumed", "run.canceled"]
            else ["run.canceled"]) ∧
        replayFrom reduceRunLifecycleEvent (some state) continuation = .ok (some result) ∧
        result.status = .canceled) := by
  constructor
  · intro later result continued
    have start : Canceling state.usage state := by
      refine ⟨requested, rfl, ?_, ?_⟩ <;> intro ended <;> simp [ended, isTerminal] at active
    have held := replayFrom_preserves (fun _ _ _ held step => held.preserved step) start continued
    exact ⟨held.usage, held.unsuccessful⟩
  · intro room
    obtain ⟨runId, instant, positive⟩ := reaches_envelope (replayRunLifecycle_eq_ok.mp accepted)
    obtain ⟨result, replayed, canceled⟩ :=
      cancelContinuation_accepted runId instant positive room active requested
    exact ⟨cancelContinuation state, result, cancelContinuation_types state, replayed, canceled⟩

/-- A log that ends with a requested cancellation while the run is reconciling. -/
def reconcilingLog : List RunLifecycleEvent :=
  logFrom 1 [.runCreated sampleCreated, .runStarted, .runReconciliationRequired (js "receipt"),
    .runCancelRequested (js "actor")]

/-- The status and the pending cancellation a log ends with. -/
def outcome (events : List RunLifecycleEvent) : Option (RunStatus × Bool × Int) :=
  match replayRunLifecycle events with
  | .ok state => some (state.status, state.cancelRequested, state.lastSequence)
  | .error _ => none

/-- A log with an outcome is accepted and its state has it. -/
theorem accepted_of_outcome {events : List RunLifecycleEvent} {status : RunStatus}
    {pending : Bool} {last : Int} (found : outcome events = some (status, pending, last)) :
    ∃ state, replayRunLifecycle events = .ok state ∧ state.status = status ∧
      state.cancelRequested = pending ∧ state.lastSequence = last := by
  unfold outcome at found
  split at found
  case h_1 state accepted =>
    simp only [Option.some.injEq, Prod.mk.injEq] at found
    exact ⟨state, accepted, found⟩
  case h_2 => simp at found

/-- The run of the reconciling log is brought to its end by a resumption and a cancellation. -/
theorem cancellation_progresses_reconciling :
    ∃ state continuation result, replayRunLifecycle reconcilingLog = .ok state ∧
      continuation.map (·.data.type) = ["run.resumed", "run.canceled"] ∧
      replayFrom reduceRunLifecycleEvent (some state) continuation = .ok (some result) ∧
      result.status = .canceled := by
  obtain ⟨state, accepted, status, pending, last⟩ := accepted_of_outcome
    (by decide_cbv : outcome reconcilingLog = some (.reconciling, true, 4))
  have active : isTerminal state.status = false := by rw [status]; rfl
  have room : state.lastSequence + cancelSteps state ≤ maxSafeInteger := by
    rw [last, cancelSteps, if_pos status]
    decide
  obtain ⟨continuation, result, types, replayed, canceled⟩ :=
    (cancellation_progresses accepted pending active).2 room
  exact ⟨state, continuation, result, accepted, by rw [types, if_pos status], replayed, canceled⟩

/-- A log in two parts continues at the position after its first part. -/
theorem logFrom_append (first : Int) (earlier later : List RunEventData) :
    logFrom first (earlier ++ later) =
      logFrom first earlier ++ logFrom (first + earlier.length) later := by
  induction earlier generalizing first with
  | nil => simp [logFrom]
  | cons data rest hypothesis =>
    simp only [List.cons_append, logFrom, hypothesis, List.length_cons]
    congr 3
    push_cast
    ring

/-- A running sample run at a position, without a pending cancellation. -/
structure RunningAt (state : RunState) (position : Int) : Prop where
  runId : state.runId = js "run"
  updatedAt : state.updatedAt = js "2026-01-01T00:00:00Z"
  status : state.status = .running
  free : state.cancelRequested = false
  lastSequence : state.lastSequence = position

/-- The sample run accepts its next event whenever the branch of the event does. -/
theorem eventAt_accepted {state next : RunState} {position : Int} {data : RunEventData}
    (held : RunningAt state position) (positive : 1 ≤ position)
    (room : position + 1 ≤ maxSafeInteger)
    (applied : applyRunEvent state (eventAt (position + 1) data) = .ok next) :
    reduceRunLifecycleEvent (some state) (eventAt (position + 1) data) = .ok next := by
  refine reduce_some_eq_ok.mpr ⟨?_, held.runId.symm, ?_, ?_, ?_, applied⟩
  · simp only [validateEventEnvelope, bind_eq_ok, exists_unit, rejectIf_eq_ok,
      requireNonEmpty_eq_ok, requirePositiveInteger_eq_ok, requireTimestamp_eq_ok]
    have later : 1 ≤ position + 1 := by omega
    exact ⟨not_not.mpr rfl, (by decide : (js "event").isBlank = false),
      (by decide : (js "run").isBlank = false), ⟨later, room⟩,
      (by decide : isTimestamp (js "2026-01-01T00:00:00Z") = true)⟩
  · rw [held.lastSequence]
    rfl
  · rw [held.status]
    rfl
  · simp [held.free]

/-- Segments can be completed until the sequence number reaches its limit. -/
theorem segments_accepted {state : RunState} {position : Int} (count : Nat)
    (held : RunningAt state position) (positive : 1 ≤ position)
    (room : position + count ≤ maxSafeInteger) :
    ∃ result, replayFrom reduceRunLifecycleEvent (some state)
      (logFrom (position + 1) (List.replicate count (.segmentCompleted (js "segment") 1))) =
        .ok (some result) ∧ RunningAt result (position + count) := by
  induction count generalizing state position with
  | zero => exact ⟨state, rfl, by simpa using held⟩
  | succ count hypothesis =>
    let event := eventAt (position + 1) (.segmentCompleted (js "segment") 1)
    have advanced : reduceRunLifecycleEvent (some state) event = .ok (state.advance event) := by
      refine eventAt_accepted held positive (by omega) ?_
      simp only [applyRunEvent, eventAt, requireStatus, validateSegmentIdentity, bind_eq_ok,
        exists_unit, rejectIf_eq_ok, requireNonEmpty_eq_ok, requirePositiveInteger_eq_ok,
        pure_eq_ok, held.status]
      exact ⟨by simp, ⟨by decide, by decide⟩, rfl⟩
    have moved : RunningAt (state.advance event) (position + 1) :=
      ⟨held.runId, rfl, held.status, held.free, rfl⟩
    obtain ⟨result, replayed, reached⟩ := hypothesis moved (by omega) (by push_cast at room; omega)
    refine ⟨result, ?_, ?_⟩
    · rw [List.replicate_succ, logFrom, replayFrom, advanced]
      exact replayed
    · convert reached using 1
      push_cast
      ring

/-- The longest log of the sample run, whose last event requests a cancellation. -/
def exhaustedLog : List RunLifecycleEvent :=
  logFrom 1 ([.runCreated sampleCreated, .runStarted] ++
    (List.replicate (2 ^ 53 - 4) (.segmentCompleted (js "segment") 1) ++
      [.runCancelRequested (js "actor")]))

/-- At the last safe sequence number no event is accepted any more. -/
theorem reduce_exhausted {state : RunState} {event : RunLifecycleEvent} {next : RunState}
    (last : state.lastSequence = maxSafeInteger) :
    reduceRunLifecycleEvent (some state) event ≠ .ok next := by
  intro accepted
  obtain ⟨valid, _, sequence, _⟩ := reduce_some_eq_ok.mp accepted
  simp only [validateEventEnvelope, bind_eq_ok, exists_unit, requirePositiveInteger_eq_ok]
    at valid
  omega

/-- A cancellation is requested after any number of completed segments. -/
theorem cancelRequested_after_segments (count : Nat) (room : count + 3 ≤ maxSafeInteger) :
    ∃ state, replayRunLifecycle (logFrom 1 ([.runCreated sampleCreated, .runStarted] ++
        (List.replicate count (.segmentCompleted (js "segment") 1) ++
          [.runCancelRequested (js "actor")]))) = .ok state ∧
      state.cancelRequested = true ∧ state.status = .running ∧
        state.lastSequence = count + 3 := by
  obtain ⟨started, begun, running⟩ : ∃ state, replayFrom reduceRunLifecycleEvent none
      (logFrom 1 [.runCreated sampleCreated, .runStarted]) = .ok (some state) ∧
        RunningAt state 2 :=
    ⟨_, rfl, rfl, rfl, rfl, rfl, rfl⟩
  obtain ⟨middle, worked, held⟩ := segments_accepted count running (by decide) (by omega)
  let event := eventAt (2 + count + 1) (.runCancelRequested (js "actor"))
  have requested : reduceRunLifecycleEvent (some middle) event =
      .ok { middle.advance event with cancelRequested := true } := by
    refine eventAt_accepted held (by omega) (by omega) ?_
    simp only [applyRunEvent, eventAt, bind_eq_ok, exists_unit, requireNonEmpty_eq_ok, pure_eq_ok]
    exact ⟨by decide, rfl⟩
  refine ⟨{ middle.advance event with cancelRequested := true },
    replayRunLifecycle_eq_ok.mpr ?_, rfl, held.status, ?_⟩
  · have second : (1 : Int) + ([RunEventData.runCreated sampleCreated, .runStarted].length : Nat) =
        2 + 1 := rfl
    have third : (2 + 1 : Int) + (count : Nat) = 2 + count + 1 := by ring
    rw [Reaches, logFrom_append, replayFrom_append, begun, ok_bind, logFrom_append, second,
      replayFrom_append, worked, ok_bind, List.length_replicate, third]
    exact (replayFrom_singleton _ event).mpr requested
  · change (2 + count + 1 : Int) = count + 3
    ring

/-- The exhausted log requests the cancellation with the last safe sequence number. -/
theorem exhaustedLog_accepted : ∃ state, replayRunLifecycle exhaustedLog = .ok state ∧
    state.cancelRequested = true ∧ state.status = .running ∧
      state.lastSequence = maxSafeInteger := by
  obtain ⟨state, accepted, pending, status, last⟩ :=
    cancelRequested_after_segments (2 ^ 53 - 4) (by decide)
  refine ⟨state, accepted, pending, status, ?_⟩
  rw [last]
  decide

/-- No event brings the run of the exhausted log to its end: the claim that a continuation of
at most two events is accepted fails there. -/
theorem cancellation_stuck_at_sequence_limit :
    ∃ state, replayRunLifecycle exhaustedLog = .ok state ∧ state.cancelRequested = true ∧
      isTerminal state.status = false ∧
      ¬ ∃ continuation result, continuation.length ≤ 2 ∧
        replayFrom reduceRunLifecycleEvent (some state) continuation = .ok (some result) ∧
        result.status = .canceled := by
  obtain ⟨state, accepted, pending, status, last⟩ := exhaustedLog_accepted
  refine ⟨state, accepted, pending, by rw [status]; rfl, ?_⟩
  rintro ⟨continuation, result, _, replayed, canceled⟩
  cases continuation with
  | nil =>
    obtain rfl : state = result := by simpa using replayed
    simp [status] at canceled
  | cons event later =>
    simp only [replayFrom, bind_eq_ok] at replayed
    obtain ⟨next, reduced, _⟩ := replayed
    exact reduce_exhausted last reduced

end Crewon.Verif.RunCancellation
