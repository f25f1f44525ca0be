import Crewon.Domain.RunLifecycle
import Mathlib

/-!
# The invariant of a run

Every event the reducer accepts has one of a few effects on the state. The effects are listed
once, with the status they start from; the invariant of a run is preserved by each of them, and
a replay of a whole log carries it from the creation to the last event.
-/

namespace Crewon.Verif.RunLifecycle

open Crewon.Js Crewon.Checked Crewon.Replay Crewon.Domain

/-- The usage an event reports, if it reports any. -/
def carriedUsage : RunEventData → Option RunUsage
  | .usageRecorded _ _ usage => some (normalizedEventUsage usage)
  | .contextCompacted _ _ _ _ usage => some (normalizedEventUsage usage)
  | _ => none

/-- The component-wise sum of the usage that the events report. -/
def usageSum (events : List RunLifecycleEvent) : RunUsage :=
  (events.filterMap fun event => carriedUsage event.data).foldl .add .zero

/-- The statuses an ended run is never in, in which it can still be resumed. -/
def resumable : List RunStatus := [.waitingApproval, .suspended, .reconciling]

/-- What one accepted event can do to a run that exists. -/
inductive Effect (state : RunState) (event : RunLifecycleEvent) : RunState → Prop where
  | started (cursor : Option RunGoalAccountingCursor) (queued : state.status = .queued)
      (free : state.cancelRequested = false) (silent : carriedUsage event.data = none) :
      Effect state event
        { state.advance event with status := .running, goalAccounting := cursor }
  | awaited (approval : WaitingApproval) (running : state.status = .running)
      (free : state.cancelRequested = false) (silent : carriedUsage event.data = none) :
      Effect state event
        { state.advance event with status := .waitingApproval, waitingApproval := some approval }
  | resumed (paused : state.status ∈ resumable) (silent : carriedUsage event.data = none) :
      Effect state event
        { state.advance event with
          status := .running
          waitingApproval := none
          suspensionReasonCode := none
          reconciliationReceiptId := none }
  | suspended (reason : JsString) (running : state.status = .running)
      (free : state.cancelRequested = false) (silent : carriedUsage event.data = none) :
      Effect state event
        { state.advance event with status := .suspended, suspensionReasonCode := some reason }
  | reconciled (receipt : JsString) (running : state.status = .running)
      (silent : carriedUsage event.data = none) :
      Effect state event
        { state.advance event with
          status := .reconciling
          reconciliationReceiptId := some receipt }
  | cancelRequested (free : state.cancelRequested = false)
      (silent : carriedUsage event.data = none) :
      Effect state event { state.advance event with cancelRequested := true }
  | completed (output : Option JsString) (running : state.status = .running)
      (free : state.cancelRequested = false) (silent : carriedUsage event.data = none) :
      Effect state event
        { state.advance event with
          status := .completed
          outputRef := output
          terminalAt := some event.occurredAt }
  | failed (failure : RunFailure) (free : state.cancelRequested = false)
      (silent : carriedUsage event.data = none) :
      Effect state event
        { state.advance event with
          status := .failed
          failure := some failure
          terminalAt := some event.occurredAt }
  | canceled (requested : state.cancelRequested = true)
      (silent : carriedUsage event.data = none) :
      Effect state event
        { state.advance event with status := .canceled, terminalAt := some event.occurredAt }
  | accounted (cursor : RunGoalAccountingCursor) (silent : carriedUsage event.data = none) :
      Effect state event { state.advance event with goalAccounting := some cursor }
  | planned (plan : RunPlan) (free : state.cancelRequested = false)
      (silent : carriedUsage event.data = none) :
      Effect state event { state.advance event with plan := some plan }
  | reported (delta total : RunUsage) (free : state.cancelRequested = false)
      (carried : carriedUsage event.data = some delta)
      (counted : 0 ≤ delta.inputTokens ∧ 0 ≤ delta.cachedInputTokens ∧ 0 ≤ delta.outputTokens)
      (added : addRunUsage state.usage delta = .ok total) :
      Effect state event { state.advance event with usage := total }
  | observed (free : state.cancelRequested = false) (silent : carriedUsage event.data = none) :
      Effect state event (state.advance event)

/-- A pending cancellation lets through exactly the events of its list. -/
theorem validateCancelProgress_eq_ok {state : RunState} {data : RunEventData} {result : Unit} :
    validateCancelProgress state data = .ok result ↔
      (state.cancelRequested = true → passesCancelPending state data = true) := by
  unfold validateCancelProgress
  cases pending : state.cancelRequested with
  | false => simp
  | true => cases data <;> simp [passesCancelPending, or_iff_not_imp_left]

/-- The conditions under which a run that exists accepts an event. -/
theorem reduce_some_eq_ok {state next : RunState} {event : RunLifecycleEvent} :
    reduceRunLifecycleEvent (some state) event = .ok next ↔
      validateEventEnvelope event = .ok () ∧ event.runId = state.runId ∧
        event.sequence = state.lastSequence + 1 ∧ isTerminal state.status = false ∧
        (state.cancelRequested = true → passesCancelPending state event.data = true) ∧
        applyRunEvent state event = .ok next := by
  simp [reduceRunLifecycleEvent, validateCancelProgress_eq_ok]

/-- Every accepted event has one of the listed effects. -/
theorem applyRunEvent_effect {state next : RunState} {event : RunLifecycleEvent}
    (passes : state.cancelRequested = true → passesCancelPending state event.data = true)
    (applied : applyRunEvent state event = .ok next) : Effect state event next := by
  have free (blocked : passesCancelPending state event.data = false) :
      state.cancelRequested = false := by
    cases pending : state.cancelRequested with
    | false => rfl
    | true => simp [passes pending] at blocked
  obtain ⟨schemaVersion, runId, eventId, sequence, occurredAt, data⟩ := event
  cases data <;>
    simp only [applyRunEvent, bind_eq_ok, exists_unit, pure_eq_ok, requireStatus,
      rejectIf_eq_ok, not_not, List.mem_cons, List.not_mem_nil, or_false, reduceCtorEq] at applied
  case runStarted =>
    obtain ⟨status, cursor, _, rfl⟩ := applied
    exact .started cursor status (free rfl) rfl
  case runApprovalRequired data =>
    obtain ⟨status, _, _, rfl⟩ := applied
    exact .awaited data status (free rfl) rfl
  case runResumed =>
    obtain ⟨status, _, rfl⟩ := applied
    exact .resumed (by simpa [resumable] using status) rfl
  case runSuspended reason =>
    obtain ⟨status, _, rfl⟩ := applied
    exact .suspended reason status (free rfl) rfl
  case runReconciliationRequired receipt =>
    obtain ⟨status, _, rfl⟩ := applied
    exact .reconciled receipt status rfl
  case runCancelRequested =>
    obtain ⟨_, rfl⟩ := applied
    exact .cancelRequested (free rfl) rfl
  case runCompleted output =>
    obtain ⟨status, _, rfl⟩ := applied
    exact .completed output status (free rfl) rfl
  case runFailed failure =>
    obtain ⟨_, _, rfl⟩ := applied
    exact .failed failure (free rfl) rfl
  case runCanceled =>
    obtain ⟨_, requested, _, rfl⟩ := applied
    exact .canceled (by simpa using requested) rfl
  case runGoalAccountingUpdated =>
    obtain ⟨cursor, _, rfl⟩ := applied
    exact .accounted cursor rfl
  case runGoalSteeringConsumed =>
    cases tracked : state.goalAccounting with
    | none => simp [tracked] at applied
    | some current =>
      simp only [tracked, bind_eq_ok, pure_eq_ok] at applied
      obtain ⟨cursor, _, rfl⟩ := applied
      exact .accounted cursor rfl
  case runPlanUpdated plan =>
    obtain ⟨_, _, rfl⟩ := applied
    exact .planned plan (free rfl) rfl
  case usageRecorded usage =>
    obtain ⟨_, _, valid, total, added, rfl⟩ := applied
    simp only [validateReportedUsage, bind_eq_ok, exists_unit, requireNonNegativeInteger_eq_ok] at valid
    refine .reported (normalizedEventUsage usage) total (free rfl) rfl ?_ added
    exact ⟨valid.2.1.1, valid.2.2.1.1, valid.2.2.2.1.1⟩
  case contextCompacted usage =>
    obtain ⟨_, _, _, _, valid, total, added, rfl⟩ := applied
    simp only [not_or, Bool.not_eq_false, isNonNegativeInteger_iff] at valid
    refine .reported (normalizedEventUsage usage) total (free rfl) rfl ?_ added
    exact ⟨valid.2.1.1, valid.2.2.1.1, valid.2.2.2.2.1.1⟩
  all_goals
    -- the remaining events are only checked and recorded in the log
    simp only [← and_assoc] at applied
    obtain ⟨_, rfl⟩ := applied
    exact .observed (free rfl) rfl

/-- Counters that add up and that numbers represent exactly. -/
structure UsageBounded (usage : RunUsage) : Prop where
  counted : 0 ≤ usage.inputTokens ∧ 0 ≤ usage.cachedInputTokens ∧ 0 ≤ usage.outputTokens
  cached : usage.cachedInputTokens ≤ usage.inputTokens
  total : usage.totalTokens = usage.inputTokens + usage.outputTokens
  bounded : usage.inputTokens ≤ maxSafeInteger ∧ usage.cachedInputTokens ≤ maxSafeInteger ∧
    usage.outputTokens ≤ maxSafeInteger ∧ usage.totalTokens ≤ maxSafeInteger

/-- What holds of the state of every run, whatever its log. -/
structure RunInvariant (state : RunState) : Prop where
  revision : state.revision = state.lastSequence
  terminalAt : state.terminalAt ≠ none ↔ isTerminal state.status = true
  failure : state.failure ≠ none ↔ state.status = .failed
  outputRef : state.outputRef ≠ none → state.status = .completed
  waitingApproval : isTerminal state.status = false →
    (state.waitingApproval ≠ none ↔ state.status = .waitingApproval)
  suspensionReasonCode : isTerminal state.status = false →
    (state.suspensionReasonCode ≠ none ↔ state.status = .suspended)
  reconciliationReceiptId : isTerminal state.status = false →
    (state.reconciliationReceiptId ≠ none ↔ state.status = .reconciling)
  canceled : state.status = .canceled → state.cancelRequested = true
  ended : state.status = .completed ∨ state.status = .failed → state.cancelRequested = false
  usage : UsageBounded state.usage

/-- The empty usage is bounded. -/
theorem zero_bounded : UsageBounded .zero := by
  have bound := maxSafeInteger_pos
  constructor <;> simp only [RunUsage.zero] <;> omega

/-- A sum that is accepted is the component-wise sum and stays bounded. -/
theorem addRunUsage_bounded {current delta total : RunUsage} (held : UsageBounded current)
    (counted : 0 ≤ delta.inputTokens ∧ 0 ≤ delta.cachedInputTokens ∧ 0 ≤ delta.outputTokens)
    (added : addRunUsage current delta = .ok total) :
    total = current.add delta ∧ UsageBounded total := by
  unfold addRunUsage at added
  dsimp only at added
  split at added
  case isFalse => simp at added
  case isTrue safe =>
    simp only [Bool.and_eq_true, isSafeInteger_iff, decide_eq_true_eq] at safe
    obtain rfl := Except.ok.inj added
    refine ⟨rfl, ?_, by omega, by omega, by omega⟩
    have before := held.counted
    simp only [RunUsage.add]
    omega

/-- A run that has not ended carries none of the marks of an ended run. -/
theorem RunInvariant.unmarked {state : RunState} (held : RunInvariant state)
    (active : isTerminal state.status = false) :
    state.terminalAt = none ∧ state.failure = none ∧ state.outputRef = none := by
  refine ⟨?_, ?_, ?_⟩
  · exact not_not.mp (mt held.terminalAt.mp (by simp [active]))
  · refine not_not.mp (mt held.failure.mp ?_)
    intro failed
    simp [failed, isTerminal] at active
  · refine not_not.mp (mt held.outputRef ?_)
    intro completed
    simp [completed, isTerminal] at active

/-- A running run waits for nothing. -/
theorem RunInvariant.idle {state : RunState} (held : RunInvariant state)
    (running : state.status = .running) :
    state.waitingApproval = none ∧ state.suspensionReasonCode = none ∧
      state.reconciliationReceiptId = none := by
  have active : isTerminal state.status = false := by simp [running, isTerminal]
  refine ⟨?_, ?_, ?_⟩
  · exact not_not.mp (mt (held.waitingApproval active).mp (by simp [running]))
  · exact not_not.mp (mt (held.suspensionReasonCode active).mp (by simp [running]))
  · exact not_not.mp (mt (held.reconciliationReceiptId active).mp (by simp [running]))

/-- An event that leaves the status and its marks alone keeps the invariant. -/
theorem RunInvariant.carried {state next : RunState} (held : RunInvariant state)
    (revision : next.revision = next.lastSequence) (status : next.status = state.status)
    (pending : next.cancelRequested = state.cancelRequested ∨ isTerminal state.status = false)
    (marks : next.terminalAt = state.terminalAt ∧ next.failure = state.failure ∧
      next.outputRef = state.outputRef ∧ next.waitingApproval = state.waitingApproval ∧
      next.suspensionReasonCode = state.suspensionReasonCode ∧
      next.reconciliationReceiptId = state.reconciliationReceiptId)
    (usage : UsageBounded next.usage) : RunInvariant next := by
  obtain ⟨terminalAt, failure, outputRef, waiting, suspension, receipt⟩ := marks
  refine ⟨revision, ?_, ?_, ?_, ?_, ?_, ?_, ?_, ?_, usage⟩
  · rw [terminalAt, status]
    exact held.terminalAt
  · rw [failure, status]
    exact held.failure
  · rw [outputRef, status]
    exact held.outputRef
  · rw [waiting, status]
    exact held.waitingApproval
  · rw [suspension, status]
    exact held.suspensionReasonCode
  · rw [receipt, status]
    exact held.reconciliationReceiptId
  · intro canceled
    cases pending with
    | inl same => exact same ▸ held.canceled (status ▸ canceled)
    | inr active => simp [← status, canceled, isTerminal] at active
  · intro ended
    cases pending with
    | inl same => exact same ▸ held.ended (status ▸ ended)
    | inr active => rcases ended with ended | ended <;> simp [← status, ended, isTerminal] at active

/-- Every effect of an accepted event keeps the invariant. -/
theorem Effect.preserves {state next : RunState} {event : RunLifecycleEvent}
    (effect : Effect state event next) (held : RunInvariant state)
    (active : isTerminal state.status = false)
    (sequence : event.sequence = state.lastSequence + 1) : RunInvariant next := by
  have revision : (state.advance event).revision = (state.advance event).lastSequence := by
    simp [RunState.advance, held.revision, sequence]
  obtain ⟨terminalAt, failure, outputRef⟩ := held.unmarked active
  cases effect with
  | started cursor queued free =>
    have waiting := (held.waitingApproval active)
    have suspension := (held.suspensionReasonCode active)
    have receipt := (held.reconciliationReceiptId active)
    simp only [queued, reduceCtorEq, iff_false, not_not] at waiting suspension receipt
    constructor <;>
      simp [RunState.advance, isTerminal, terminalAt, failure, outputRef, waiting, suspension,
        receipt, held.usage, held.revision, sequence]
  | awaited approval running free =>
    obtain ⟨waiting, suspension, receipt⟩ := held.idle running
    constructor <;>
      simp [RunState.advance, isTerminal, terminalAt, failure, outputRef, suspension, receipt,
        held.usage, held.revision, sequence]
  | resumed paused =>
    constructor <;>
      simp [RunState.advance, isTerminal, terminalAt, failure, outputRef, held.usage,
        held.revision, sequence]
  | suspended reason running free =>
    obtain ⟨waiting, suspension, receipt⟩ := held.idle running
    constructor <;>
      simp [RunState.advance, isTerminal, terminalAt, failure, outputRef, waiting, receipt,
        held.usage, held.revision, sequence]
  | reconciled mark running =>
    obtain ⟨waiting, suspension, receipt⟩ := held.idle running
    constructor <;>
      simp [RunState.advance, isTerminal, terminalAt, failure, outputRef, waiting, suspension,
        held.usage, held.revision, sequence]
  | cancelRequested free =>
    exact held.carried revision rfl (.inr active) ⟨rfl, rfl, rfl, rfl, rfl, rfl⟩ held.usage
  | completed output running free =>
    constructor <;>
      simp [RunState.advance, isTerminal, failure, free, held.usage, held.revision, sequence]
  | failed cause free =>
    constructor <;>
      simp [RunState.advance, isTerminal, outputRef, free, held.usage, held.revision, sequence]
  | canceled requested =>
    constructor <;>
      simp [RunState.advance, isTerminal, failure, outputRef, requested, held.usage,
        held.revision, sequence]
  | accounted cursor =>
    exact held.carried revision rfl (.inl rfl) ⟨rfl, rfl, rfl, rfl, rfl, rfl⟩ held.usage
  | planned plan free =>
    exact held.carried revision rfl (.inl rfl) ⟨rfl, rfl, rfl, rfl, rfl, rfl⟩ held.usage
  | reported delta total free carried counted added =>
    exact held.carried revision rfl (.inl rfl) ⟨rfl, rfl, rfl, rfl, rfl, rfl⟩
      (addRunUsage_bounded held.usage counted added).2
  | observed free =>
    exact held.carried revision rfl (.inl rfl) ⟨rfl, rfl, rfl, rfl, rfl, rfl⟩ held.usage

/-- The usage after an accepted event is the usage before it plus what the event reports. -/
theorem Effect.usage {state next : RunState} {event : RunLifecycleEvent}
    (effect : Effect state event next) (held : RunInvariant state) :
    next.usage = ((carriedUsage event.data).elim state.usage state.usage.add) := by
  cases effect
  case reported delta total free carried counted added =>
    rw [carried]
    exact (addRunUsage_bounded held.usage counted added).1
  all_goals
    rename_i silent
    rw [silent]
    rfl

/-- An accepted event becomes the last one of the run. -/
theorem Effect.position {state next : RunState} {event : RunLifecycleEvent}
    (effect : Effect state event next) : next.lastSequence = event.sequence := by
  cases effect <;> rfl

/-- An accepted event keeps the invariant. -/
theorem reduce_preserves {state next : RunState} {event : RunLifecycleEvent}
    (held : RunInvariant state)
    (accepted : reduceRunLifecycleEvent (some state) event = .ok next) : RunInvariant next := by
  obtain ⟨_, _, sequence, active, passes, applied⟩ := reduce_some_eq_ok.mp accepted
  exact (applyRunEvent_effect passes applied).preserves held active sequence

/-- A run keeps its id and stays with its tenant. -/
theorem identity_kept {current state : RunState} {events : List RunLifecycleEvent}
    (reduced : replayFrom reduceRunLifecycleEvent (some current) events = .ok (some state)) :
    state.runId = current.runId ∧ state.tenantId = current.tenantId := by
  refine replayFrom_preserves
    (motive := fun state => state.runId = current.runId ∧ state.tenantId = current.tenantId)
    ?_ ⟨rfl, rfl⟩ reduced
  intro state event next held accepted
  obtain ⟨_, _, _, _, passes, applied⟩ := reduce_some_eq_ok.mp accepted
  have effect := applyRunEvent_effect passes applied
  cases effect <;> exact held

/-- The state a run is created with. -/
theorem createRun_fresh {event : RunLifecycleEvent} {state : RunState}
    (created : createRun event = .ok state) :
    event.sequence = 1 ∧ carriedUsage event.data = none ∧ state.runId = event.runId ∧
      state.status = .queued ∧ state.revision = 1 ∧ state.lastSequence = 1 ∧
      state.cancelRequested = false ∧ state.usage = .zero ∧ state.updatedAt = event.occurredAt ∧
      RunInvariant state := by
  obtain ⟨schemaVersion, runId, eventId, sequence, occurredAt, data⟩ := event
  cases data
  case runCreated data =>
    simp only [createRun, bind_eq_ok, exists_unit, pure_eq_ok, rejectIf_eq_ok, not_not] at created
    obtain ⟨first, _, binding, _, _, _, _, origin, _, _, cursor, _, rfl⟩ := created
    refine ⟨first, rfl, rfl, rfl, rfl, rfl, rfl, rfl, rfl, ?_⟩
    constructor <;> simp [isTerminal, zero_bounded]
  all_goals simp [createRun] at created

/-- The first event creates the run. -/
theorem reduce_none_eq_ok {event : RunLifecycleEvent} {state : RunState} :
    reduceRunLifecycleEvent none event = .ok state ↔
      validateEventEnvelope event = .ok () ∧ createRun event = .ok state := by
  simp [reduceRunLifecycleEvent]

/-- A log is replayed exactly when the reducer accepts it event by event. -/
theorem replayRunLifecycle_eq_ok {events : List RunLifecycleEvent} {state : RunState} :
    replayRunLifecycle events = .ok state ↔ Reaches reduceRunLifecycleEvent events state := by
  have folds : replayRunLifecycle events =
      fold reduceRunLifecycleEvent (runLifecycleError "run_events_empty") events := by
    simp only [replayRunLifecycle, fold]
    congr 1
    funext reached
    cases reached <;> rfl
  rw [folds, fold_eq_ok]

/-- What holds of a run together with its log. -/
structure LogInvariant (events : List RunLifecycleEvent) (state : RunState) : Prop extends
    RunInvariant state where
  revisionCounts : state.revision = events.length
  lastSequenceCounts : state.lastSequence = events.length
  usageSums : state.usage = usageSum events
  openPrefixes : ∀ earlier later reached, events = earlier ++ later → later ≠ [] →
    replayRunLifecycle earlier = .ok reached → isTerminal reached.status = false

/-- One more event adds its report to the sum. -/
theorem usageSum_append (events : List RunLifecycleEvent) (event : RunLifecycleEvent) :
    usageSum (events ++ [event]) =
      (carriedUsage event.data).elim (usageSum events) (usageSum events).add := by
  cases carried : carriedUsage event.data <;>
    simp [usageSum, List.filterMap_append, List.foldl_append, carried]

/-- The position in the log and the usage follow the log. -/
theorem reaches_counts {events : List RunLifecycleEvent} {state : RunState}
    (reached : Reaches reduceRunLifecycleEvent events state) :
    RunInvariant state ∧ state.lastSequence = events.length ∧ state.usage = usageSum events := by
  refine reaches_induction (motive := fun events state =>
    RunInvariant state ∧ state.lastSequence = events.length ∧ state.usage = usageSum events)
    ?first ?step reached
  case first =>
    intro event state accepted
    obtain ⟨_, created⟩ := reduce_none_eq_ok.mp accepted
    obtain ⟨_, silent, _, _, _, last, _, usage, _, held⟩ := createRun_fresh created
    exact ⟨held, by simp [last], by simp [usage, usageSum, silent]⟩
  case step =>
    rintro events state event next _ ⟨held, counted, summed⟩ accepted
    obtain ⟨_, _, sequence, active, passes, applied⟩ := reduce_some_eq_ok.mp accepted
    have effect := applyRunEvent_effect passes applied
    refine ⟨effect.preserves held active sequence, ?_, ?_⟩
    · rw [effect.position, sequence, counted]
      simp
    · rw [effect.usage held, summed, usageSum_append]

/-- The events of a log are numbered by their places. -/
theorem reaches_numbered {events : List RunLifecycleEvent} {state : RunState}
    (reached : Reaches reduceRunLifecycleEvent events state) :
    events.map (·.sequence) = (List.range events.length).map fun (place : Nat) =>
      (place : Int) + 1 := by
  refine reaches_induction (motive := fun events _ => events.map (·.sequence) =
    (List.range events.length).map fun (place : Nat) => (place : Int) + 1) ?first ?step reached
  case first =>
    intro event state accepted
    obtain ⟨_, created⟩ := reduce_none_eq_ok.mp accepted
    have first := (createRun_fresh created).1
    simp [first]
  case step =>
    intro events state event next before numbered accepted
    have sequence := (reduce_some_eq_ok.mp accepted).2.2.1
    have counted := (reaches_counts before).2.1
    rw [List.map_append, numbered, List.length_append, List.length_singleton, List.range_succ,
      List.map_append, List.map_singleton, List.map_singleton, sequence, counted]

/-- A log that goes on has not ended the run. -/
theorem open_of_continued {state : RunState} {later : List RunLifecycleEvent}
    {result : Option RunState} (continued : later ≠ [])
    (accepted : replayFrom reduceRunLifecycleEvent (some state) later = .ok result) :
    isTerminal state.status = false := by
  cases later with
  | nil => exact absurd rfl continued
  | cons event rest =>
    simp only [replayFrom, bind_eq_ok] at accepted
    obtain ⟨next, reduced, _⟩ := accepted
    exact (reduce_some_eq_ok.mp reduced).2.2.2.1

/-- Every accepted log leaves the run in a state of the invariant: the counters are the length
of the log, each mark is present exactly in its own status, the usage is the sum of what the
events reported, and the run ends with the last event at the earliest. -/
theorem replayRunLifecycle_invariant {events : List RunLifecycleEvent} {state : RunState}
    (accepted : replayRunLifecycle events = .ok state) : LogInvariant events state := by
  have reached := replayRunLifecycle_eq_ok.mp accepted
  obtain ⟨held, counted, summed⟩ := reaches_counts reached
  refine { held with
    revisionCounts := held.revision.trans counted
    lastSequenceCounts := counted
    usageSums := summed
    openPrefixes := ?_ }
  rintro earlier later prefixState rfl continued replayed
  have started : earlier ≠ [] := by
    rintro rfl
    simp [replayRunLifecycle] at replayed
  obtain ⟨middle, first, rest⟩ := reaches_prefix reached started
  have same : middle = prefixState := by
    have second := replayRunLifecycle_eq_ok.mp replayed
    rw [Reaches, first] at second
    simpa using second
  exact same ▸ open_of_continued continued rest

/-- A run of a thread without a goal. -/
def sampleCreated : RunCreatedData where
  threadId := js "thread"
  tenantId := js "tenant"
  spaceId := js "space"
  createdByActorId := js "actor"
  authorityId := js "authority"
  runtimeGeneration := js "generation"
  agentVersionId := js "agent"
  policySnapshotId := js "policy"
  workspaceBindingId := none
  workflowVersionBinding := none
  collaborationMode := .default
  toolPermissionMode := none
  goalBinding := none
  goalContinuationMode := none
  purpose := some .turn
  origin := none

/-- An event of the sample run at the given position. -/
def eventAt (sequence : Int) (data : RunEventData) : RunLifecycleEvent where
  schemaVersion := js "crewon.run-event.v0"
  runId := js "run"
  eventId := js "event"
  sequence := sequence
  occurredAt := js "2026-01-01T00:00:00Z"
  data := data

/-- The log of the sample run with the given contents from a position on. -/
def logFrom (first : Int) : List RunEventData → List RunLifecycleEvent
  | [] => []
  | data :: later => eventAt first data :: logFrom (first + 1) later

/-- A log with one usage report, an approval and a successful end. -/
def sampleLog : List RunLifecycleEvent :=
  logFrom 1 [.runCreated sampleCreated, .runStarted,
    .usageRecorded (js "segment") 1 ⟨10, some 4, some true, 5, 15⟩,
    .runApprovalRequired ⟨js "approval", js "digest"⟩, .runResumed (js "approved"),
    .runCompleted none]

/-- The sample log is accepted, so its run satisfies the invariant. -/
theorem replayRunLifecycle_invariant_sample :
    ∃ state, replayRunLifecycle sampleLog = .ok state ∧ LogInvariant sampleLog state := by
  obtain ⟨state, accepted⟩ := exists_of_isOk
    (by decide_cbv : (replayRunLifecycle sampleLog).isOk = true)
  exact ⟨state, accepted, replayRunLifecycle_invariant accepted⟩

end Crewon.Verif.RunLifecycle
