import Crewon.Verif.RunLifecycle
import Crewon.Domain.GoalSettlement
import Crewon.Js.DateText

/-!
# The accounting cursor along the log of a run

An accepted event keeps the cursor of a run, starts its clock, replaces it or takes a steering
message from it. Whatever the event, the cursor stays valid and within the usage and the log of its
run. It moves forward too, except that a replacement may name an earlier instant, and a
replacement may leave a usage difference that the accounting functions refuse.
-/

namespace Crewon.Verif.GoalCursor

open Crewon.Js Crewon.Checked Crewon.Replay Crewon.Domain Crewon.Verif.RunLifecycle

/-- No component is above that of the other usage. -/
structure UsageAtMost (previous next : RunUsage) : Prop where
  inputTokens : previous.inputTokens ≤ next.inputTokens
  cachedInputTokens : previous.cachedInputTokens ≤ next.cachedInputTokens
  outputTokens : previous.outputTokens ≤ next.outputTokens
  totalTokens : previous.totalTokens ≤ next.totalTokens

/-- A usage is at most itself. -/
theorem UsageAtMost.refl (usage : RunUsage) : UsageAtMost usage usage :=
  ⟨Int.le_refl _, Int.le_refl _, Int.le_refl _, Int.le_refl _⟩

/-- A usage is at most its sum with a valid usage. -/
theorem UsageAtMost.add {previous current delta : RunUsage} (before : UsageAtMost previous current)
    (valid : UsageBounded delta) : UsageAtMost previous (current.add delta) := by
  obtain ⟨input, cached, output, total⟩ := before
  have counted := valid.counted
  have sum := valid.total
  constructor <;> simp only [RunUsage.add] <;> omega

/-- The comparison of the source is the component-wise order. -/
theorem usageRegressed_eq_false {previous next : RunUsage} :
    usageRegressed previous next = false ↔ UsageAtMost previous next := by
  simp only [usageRegressed, Bool.or_eq_false_iff, decide_eq_false_iff_not, Int.not_lt]
  constructor
  · rintro ⟨⟨⟨input, cached⟩, output⟩, total⟩
    exact ⟨input, cached, output, total⟩
  · rintro ⟨input, cached, output, total⟩
    exact ⟨⟨⟨input, cached⟩, output⟩, total⟩

/-- The accounting functions accept exactly the bounded usages. -/
@[simp] theorem validateUsage_eq_ok {usage : RunUsage} {result : Unit} :
    validateUsage usage = .ok result ↔ UsageBounded usage := by
  simp only [validateUsage, rejectIf_eq_ok, not_or, Bool.not_eq_false, isNonNegativeInteger_iff]
  constructor
  · rintro ⟨input, cached, output, total, within, sum⟩
    exact ⟨⟨input.1, cached.1, output.1⟩, by omega, by omega,
      ⟨input.2, cached.2, output.2, total.2⟩⟩
  · rintro ⟨counted, cached, total, bounded⟩
    omega

/-- What an accepted event does to the usage and the cursor of a run. -/
inductive CursorEffect (state : RunState) (event : RunLifecycleEvent) (next : RunState) : Prop where
  | kept (delta : RunUsage) (valid : UsageBounded delta)
      (grown : next.usage = state.usage.add delta)
      (same : next.goalAccounting = state.goalAccounting)
      (other : ∀ cursor, event.data ≠ .runGoalAccountingUpdated cursor)
  | started (same : next.usage = state.usage) (carried : event.data = .runStarted)
      (moved : startRunGoalAccounting state.goalAccounting event.sequence event.occurredAt =
        .ok next.goalAccounting)
  | updated (cursor : RunGoalAccountingCursor) (same : next.usage = state.usage)
      (carried : event.data = .runGoalAccountingUpdated cursor)
      (moved : next.goalAccounting = some cursor)
      (reduced : reduceRunGoalAccountingUpdate state.goalAccounting cursor state.usage
        state.lastSequence event.occurredAt = .ok cursor)
  | consumed (handoffId : JsString) (current cursor : RunGoalAccountingCursor)
      (same : next.usage = state.usage) (carried : event.data = .runGoalSteeringConsumed handoffId)
      (held : state.goalAccounting = some current) (moved : next.goalAccounting = some cursor)
      (taken : consumeRunGoalSteering current handoffId event.occurredAt = .ok cursor)

/-- An event that leaves the usage alone adds the empty usage. -/
theorem CursorEffect.unchanged {state next : RunState} {event : RunLifecycleEvent}
    (usage : next.usage = state.usage) (same : next.goalAccounting = state.goalAccounting)
    (other : ∀ cursor, event.data ≠ .runGoalAccountingUpdated cursor) :
    CursorEffect state event next := by
  refine .kept .zero zero_bounded ?_ same other
  rw [usage]
  simp [RunUsage.add, RunUsage.zero]

/-- A sum that is accepted is the component-wise sum. -/
theorem addRunUsage_sum {current delta total : RunUsage}
    (added : addRunUsage current delta = .ok total) : total = current.add delta := by
  unfold addRunUsage at added
  dsimp only at added
  split at added
  case isTrue => exact (Except.ok.inj added).symm
  case isFalse => simp at added

/-- A usage that an accepted event reports is a valid one. -/
theorem carriedUsage_bounded {state next : RunState} {event : RunLifecycleEvent} {delta : RunUsage}
    (applied : applyRunEvent state event = .ok next)
    (carried : carriedUsage event.data = some delta) : UsageBounded delta := by
  obtain ⟨schemaVersion, runId, eventId, sequence, occurredAt, data⟩ := event
  cases data <;> simp only [carriedUsage, reduceCtorEq, Option.some.injEq] at carried
  case usageRecorded usage =>
    subst carried
    simp only [applyRunEvent, bind_eq_ok, exists_unit] at applied
    obtain ⟨_, _, valid, _⟩ := applied
    simp only [validateReportedUsage, bind_eq_ok, exists_unit, requireNonNegativeInteger_eq_ok,
      rejectIf_eq_ok, not_not] at valid
    obtain ⟨_, input, cached, output, total, within, sum⟩ := valid
    constructor <;> simp only [normalizedEventUsage] <;> omega
  case contextCompacted usage =>
    subst carried
    simp only [applyRunEvent, bind_eq_ok, exists_unit, rejectIf_eq_ok] at applied
    obtain ⟨_, _, _, _, valid, _⟩ := applied
    simp only [not_or, Bool.not_eq_false, isNonNegativeInteger_iff, isSafeInteger_iff] at valid
    obtain ⟨_, input, cached, within, output, total, sum⟩ := valid
    constructor <;> simp only [normalizedEventUsage] <;> omega

/-- Every accepted event has one of the listed effects on the usage and the cursor. -/
theorem applyRunEvent_cursor {state next : RunState} {event : RunLifecycleEvent}
    (applied : applyRunEvent state event = .ok next) : CursorEffect state event next := by
  have whole := applied
  obtain ⟨schemaVersion, runId, eventId, sequence, occurredAt, data⟩ := event
  cases data <;>
    simp only [applyRunEvent, bind_eq_ok, exists_unit, pure_eq_ok, mapGoalAccountingError,
      mapError_eq_ok, reduceCtorEq] at applied
  case runStarted =>
    obtain ⟨_, cursor, moved, rfl⟩ := applied
    exact .started rfl rfl moved
  case runGoalAccountingUpdated cursor =>
    obtain ⟨reduced, accepted, rfl⟩ := applied
    have same : cursor = reduced := by
      simp only [reduceRunGoalAccountingUpdate, bind_eq_ok, pure_eq_ok, exists_unit] at accepted
      exact accepted.2.2.2.2.2.2
    subst same
    exact .updated cursor rfl rfl rfl accepted
  case runGoalSteeringConsumed handoffId =>
    cases held : state.goalAccounting with
    | none => simp [held] at applied
    | some current =>
      simp only [held, bind_eq_ok, pure_eq_ok, mapError_eq_ok] at applied
      obtain ⟨cursor, taken, rfl⟩ := applied
      exact .consumed handoffId current cursor rfl rfl held rfl taken
  case usageRecorded usage =>
    obtain ⟨_, _, _, total, added, rfl⟩ := applied
    exact .kept _ (carriedUsage_bounded whole rfl) (addRunUsage_sum added) rfl (by simp)
  case contextCompacted usage =>
    obtain ⟨_, _, _, _, _, total, added, rfl⟩ := applied
    exact .kept _ (carriedUsage_bounded whole rfl) (addRunUsage_sum added) rfl (by simp)
  case runCancelRequested =>
    obtain ⟨_, rfl⟩ := applied
    exact .unchanged rfl rfl (by simp)
  all_goals
    -- the remaining events leave the usage and the cursor alone
    simp only [← and_assoc] at applied
    obtain ⟨_, rfl⟩ := applied
    exact .unchanged rfl rfl (by simp)

/-- The goal revision that an attribution names. -/
def attributedBinding (attribution : RunGoalAttribution) : RunGoalBinding :=
  ⟨attribution.goalId, attribution.goalRevision, attribution.objectiveDigest⟩

/-- A cursor that the accounting functions accept. -/
structure AcceptedCursor (cursor : RunGoalAccountingCursor) : Prop where
  schemaVersion : cursor.schemaVersion = runGoalAccountingSchema
  policy : cursor.policy = threadGoalAccountingPolicy
  revision : 1 ≤ cursor.revision ∧ cursor.revision ≤ maxSafeInteger
  throughRunSequence : 1 ≤ cursor.throughRunSequence ∧ cursor.throughRunSequence ≤ maxSafeInteger
  accountedUsage : UsageBounded cursor.accountedUsage
  updatedAt : isTimestamp cursor.updatedAt = true
  timeBaselineAt : ∀ baseline, cursor.timeBaselineAt = some baseline →
    NoLater baseline cursor.updatedAt
  attribution : ∀ attribution, cursor.attribution = some attribution →
    validateBinding (attributedBinding attribution) = .ok ()
  pendingSteering : ∀ handoff, cursor.pendingSteering = some handoff →
    handoff.handoffId.isBlank = false ∧ NoLater handoff.createdAt cursor.updatedAt ∧
      cursor.attribution.map attributedBinding = some handoff.target

/-- The target of a steering message is the attributed goal revision. -/
theorem steeringTargetValid_iff {cursor : RunGoalAccountingCursor}
    {handoff : RunGoalSteeringHandoff} : steeringTargetValid cursor handoff = true ↔
      cursor.attribution.map attributedBinding = some handoff.target ∧
        isEarlier cursor.updatedAt handoff.createdAt = false := by
  cases attributed : cursor.attribution with
  | none => simp [steeringTargetValid, attributed]
  | some attribution =>
    obtain ⟨handoffId, kind, ⟨goalId, revision, objectiveDigest⟩, createdAt⟩ := handoff
    simp [steeringTargetValid, attributed, attributedBinding, and_assoc]

/-- The checks accept exactly the accepted cursors. -/
theorem validateRunGoalAccountingCursor_eq_ok {cursor : RunGoalAccountingCursor} {result : Unit} :
    validateRunGoalAccountingCursor cursor = .ok result ↔ AcceptedCursor cursor := by
  simp only [validateRunGoalAccountingCursor, bind_eq_ok, exists_unit, rejectIf_eq_ok,
    requirePositiveInteger_eq_ok, validateUsage_eq_ok, whenPresent_eq_ok, requireTimestamp_eq_ok,
    requireNonEmpty_eq_ok, not_or, not_not, Bool.not_eq_true, Bool.not_eq_false,
    steeringTargetValid_iff]
  constructor
  · rintro ⟨⟨schemaVersion, policy⟩, revision, throughRunSequence, accountedUsage, baselineIs,
      updatedAt, ordered, attribution, pendingSteering⟩
    refine ⟨schemaVersion, policy, revision, throughRunSequence, accountedUsage, updatedAt, ?_, ?_,
      ?_⟩
    · intro baseline held
      exact noLater_iff.mpr ⟨baselineIs baseline held, updatedAt, ordered baseline held⟩
    · intro attributed held
      obtain ⟨goalId, goalRevision, objectiveDigest⟩ := attribution attributed held
      simp [validateBinding, attributedBinding, goalId, goalRevision, objectiveDigest]
    · intro handoff held
      obtain ⟨handoffId, _, createdAt, target, early⟩ := pendingSteering handoff held
      exact ⟨handoffId, noLater_iff.mpr ⟨createdAt, updatedAt, early⟩, target⟩
  · intro accepted
    refine ⟨⟨accepted.schemaVersion, accepted.policy⟩, accepted.revision,
      accepted.throughRunSequence, accepted.accountedUsage, ?_, accepted.updatedAt, ?_, ?_, ?_⟩
    · intro baseline held
      exact (noLater_iff.mp (accepted.timeBaselineAt baseline held)).1
    · intro baseline held
      exact (noLater_iff.mp (accepted.timeBaselineAt baseline held)).2.2
    · intro attributed held
      have bound := accepted.attribution attributed held
      simp only [validateBinding, bind_eq_ok, exists_unit, requireNonEmpty_eq_ok,
        requirePositiveInteger_eq_ok, rejectIf_eq_ok, Bool.not_eq_false] at bound
      exact bound
    · intro handoff held
      obtain ⟨handoffId, early, target⟩ := accepted.pendingSteering handoff held
      obtain ⟨createdAt, _, early⟩ := noLater_iff.mp early
      obtain ⟨attributed, attribution, same⟩ := Option.map_eq_some_iff.mp target
      exact ⟨handoffId, same ▸ accepted.attribution attributed attribution, createdAt, target,
        early⟩

/-- What holds of the cursor of a run, if the run has one. -/
structure CursorHeld (cursor : RunGoalAccountingCursor) (usage : RunUsage) (lastSequence : Int) :
    Prop where
  accepted : AcceptedCursor cursor
  accountedUsage : UsageAtMost cursor.accountedUsage usage
  throughRunSequence : cursor.throughRunSequence ≤ lastSequence

/-- The cursor did not go back. -/
structure CursorAdvances (previous next : RunGoalAccountingCursor) : Prop where
  revision : previous.revision ≤ next.revision
  throughRunSequence : previous.throughRunSequence ≤ next.throughRunSequence
  accountedUsage : UsageAtMost previous.accountedUsage next.accountedUsage
  updatedAt : NoLater previous.updatedAt next.updatedAt

/-- An accepted cursor stays where it is. -/
theorem CursorAdvances.refl {cursor : RunGoalAccountingCursor} (accepted : AcceptedCursor cursor) :
    CursorAdvances cursor cursor :=
  ⟨Int.le_refl _, Int.le_refl _, .refl _, .refl accepted.updatedAt⟩

/-- The cursor a run is created with is accepted. -/
theorem createRunGoalAccountingCursor_held {binding : RunGoalBinding} {occurredAt : JsString}
    {cursor : RunGoalAccountingCursor}
    (created : createRunGoalAccountingCursor binding occurredAt = .ok cursor) :
    CursorHeld cursor .zero 1 := by
  simp only [createRunGoalAccountingCursor, bind_eq_ok, exists_unit, pure_eq_ok,
    requireTimestamp_eq_ok] at created
  obtain ⟨timestamp, bound, rfl⟩ := created
  have first : (1 : Int) ≤ 1 ∧ (1 : Int) ≤ maxSafeInteger := by decide
  refine ⟨⟨rfl, rfl, first, first, zero_bounded, timestamp, ?_, ?_, ?_⟩, .refl _, Int.le_refl _⟩
  · simp
  · intro attribution held
    obtain rfl := Option.some.inj held
    exact bound
  · simp

/-- An accepted cursor whose instant is moved on is accepted with any baseline up to the new
instant. -/
theorem AcceptedCursor.moved {cursor : RunGoalAccountingCursor} (accepted : AcceptedCursor cursor)
    {revision throughRunSequence : Int} {occurredAt : JsString} {timeBaselineAt : Option JsString}
    (counted : 1 ≤ revision ∧ revision ≤ maxSafeInteger)
    (position : 1 ≤ throughRunSequence ∧ throughRunSequence ≤ maxSafeInteger)
    (later : NoLater cursor.updatedAt occurredAt)
    (since : ∀ baseline, timeBaselineAt = some baseline → NoLater baseline occurredAt) :
    AcceptedCursor { cursor with
      revision := revision
      throughRunSequence := throughRunSequence
      timeBaselineAt := timeBaselineAt
      updatedAt := occurredAt } := by
  refine { accepted with
    revision := counted
    throughRunSequence := position
    updatedAt := (noLater_iff.mp later).2.1
    timeBaselineAt := since
    pendingSteering := ?_ }
  intro handoff held
  obtain ⟨handoffId, early, target⟩ := accepted.pendingSteering handoff held
  exact ⟨handoffId, early.trans later, target⟩

/-- A started cursor is accepted at the position of the event and did not go back. -/
theorem startRunGoalAccounting_held {current cursor : RunGoalAccountingCursor} {sequence : Int}
    {occurredAt : JsString} {usage : RunUsage} {lastSequence : Int}
    (held : CursorHeld current usage lastSequence)
    (started : startRunGoalAccounting (some current) sequence occurredAt = .ok (some cursor)) :
    CursorHeld cursor usage sequence ∧ CursorAdvances current cursor := by
  have accepted := held.accepted
  simp only [startRunGoalAccounting, incrementSafeInteger, bind_eq_ok, exists_unit, pure_eq_ok,
    requirePositiveInteger_eq_ok, requireTimestamp_eq_ok, rejectIf_eq_ok, not_or,
    addSafeIntegers_eq_ok, Option.some.injEq, Bool.not_eq_true] at started
  obtain ⟨_, position, timestamp, ⟨later, ordered⟩, revision, ⟨grown, _, bounded⟩, rfl⟩ := started
  have moved : NoLater current.updatedAt occurredAt :=
    noLater_iff.mpr ⟨accepted.updatedAt, timestamp, ordered⟩
  have counted := accepted.revision
  refine ⟨⟨?_, held.accountedUsage, Int.le_refl _⟩, ?_, ?_, .refl _, moved⟩
  · refine accepted.moved ⟨by omega, bounded⟩ position moved ?_
    intro baseline same
    obtain rfl := Option.some.inj same
    exact .refl timestamp
  · show current.revision ≤ revision
    omega
  · show current.throughRunSequence ≤ sequence
    omega

/-- What a start leaves of a cursor and what it sets. -/
theorem startRunGoalAccounting_parts {current cursor : RunGoalAccountingCursor} {sequence : Int}
    {occurredAt : JsString}
    (started : startRunGoalAccounting (some current) sequence occurredAt = .ok (some cursor)) :
    cursor.accountedUsage = current.accountedUsage ∧ cursor.timeBaselineAt = some occurredAt ∧
      cursor.updatedAt = occurredAt ∧ isTimestamp occurredAt = true := by
  simp only [startRunGoalAccounting, bind_eq_ok, exists_unit, pure_eq_ok, Option.some.injEq,
    requireTimestamp_eq_ok] at started
  obtain ⟨_, _, timestamp, _, _, _, rfl⟩ := started
  exact ⟨rfl, rfl, rfl, timestamp⟩

/-- What taking a steering message leaves of a cursor. -/
theorem consumeRunGoalSteering_parts {current cursor : RunGoalAccountingCursor}
    {handoffId occurredAt : JsString}
    (taken : consumeRunGoalSteering current handoffId occurredAt = .ok cursor) :
    cursor.accountedUsage = current.accountedUsage ∧
      cursor.timeBaselineAt = current.timeBaselineAt ∧
      cursor.attribution = current.attribution ∧ cursor.updatedAt = occurredAt := by
  simp only [consumeRunGoalSteering, bind_eq_ok, exists_unit, pure_eq_ok] at taken
  obtain ⟨_, _, _, _, _, _, rfl⟩ := taken
  exact ⟨rfl, rfl, rfl, rfl⟩

/-- A cursor whose steering message was taken is accepted and did not go back. -/
theorem consumeRunGoalSteering_held {current cursor : RunGoalAccountingCursor}
    {handoffId occurredAt : JsString} {usage : RunUsage} {lastSequence : Int}
    (held : CursorHeld current usage lastSequence)
    (taken : consumeRunGoalSteering current handoffId occurredAt = .ok cursor) :
    CursorHeld cursor usage lastSequence ∧ CursorAdvances current cursor := by
  have accepted := held.accepted
  simp only [consumeRunGoalSteering, incrementSafeInteger, bind_eq_ok, exists_unit, pure_eq_ok,
    requireTimestamp_eq_ok, rejectIf_eq_ok, not_or, addSafeIntegers_eq_ok,
    Bool.not_eq_true] at taken
  obtain ⟨_, _, timestamp, ⟨_, ordered⟩, revision, ⟨grown, _, bounded⟩, rfl⟩ := taken
  have moved : NoLater current.updatedAt occurredAt :=
    noLater_iff.mpr ⟨accepted.updatedAt, timestamp, ordered⟩
  have counted := accepted.revision
  have carried := accepted.moved ⟨by omega, bounded⟩ accepted.throughRunSequence moved
    (fun baseline same => (accepted.timeBaselineAt baseline same).trans moved)
  refine ⟨⟨{ carried with pendingSteering := by simp }, held.accountedUsage,
    held.throughRunSequence⟩, ?_, Int.le_refl _, .refl _, moved⟩
  show current.revision ≤ revision
  omega

/-- A replaced cursor is accepted and within the usage and the log of the run. It did not go back,
except that its instant may be an earlier one. -/
theorem reduceRunGoalAccountingUpdate_held {current : Option RunGoalAccountingCursor}
    {next : RunGoalAccountingCursor} {usage : RunUsage} {lastSequence : Int}
    {occurredAt : JsString}
    (reduced : reduceRunGoalAccountingUpdate current next usage lastSequence occurredAt =
      .ok next) :
    CursorHeld next usage lastSequence ∧ next.updatedAt = occurredAt ∧
      ∀ cursor, current = some cursor → AcceptedCursor cursor ∧
        cursor.revision ≤ next.revision ∧ cursor.throughRunSequence ≤ next.throughRunSequence ∧
          UsageAtMost cursor.accountedUsage next.accountedUsage := by
  simp only [reduceRunGoalAccountingUpdate, bind_eq_ok, exists_unit, pure_eq_ok,
    whenPresent_eq_ok, validateRunGoalAccountingCursor_eq_ok, rejectIf_eq_ok, not_or, not_not,
    Bool.not_eq_true, usageRegressed_eq_false, and_true] at reduced
  obtain ⟨before, accepted, _, _, _, revision, instant, within, position, grown, covered⟩ := reduced
  refine ⟨⟨accepted, covered, Int.not_lt.mp within⟩, instant, ?_⟩
  rintro cursor rfl
  simp only [Option.map_some, Option.getD_some] at revision position grown
  exact ⟨before cursor rfl, by omega, Int.not_lt.mp position, grown⟩

/-- What holds of the usage, the position and the cursor of every run. -/
structure StateHeld (state : RunState) : Prop where
  usage : UsageBounded state.usage
  position : 1 ≤ state.lastSequence ∧ state.lastSequence ≤ maxSafeInteger
  cursor : ∀ cursor, state.goalAccounting = some cursor →
    CursorHeld cursor state.usage state.lastSequence

/-- The cursor a run is created with, if any, is held by the empty usage and the first position. -/
theorem createRun_cursor {event : RunLifecycleEvent} {state : RunState}
    {cursor : RunGoalAccountingCursor} (created : createRun event = .ok state)
    (tracked : state.goalAccounting = some cursor) : CursorHeld cursor .zero 1 := by
  obtain ⟨schemaVersion, runId, eventId, sequence, occurredAt, data⟩ := event
  cases data
  case runCreated data =>
    simp only [createRun, bind_eq_ok, exists_unit, pure_eq_ok] at created
    obtain ⟨_, _, _, _, _, _, _, _, _, _, made, pinned, rfl⟩ := created
    obtain rfl : made = some cursor := tracked
    cases bound : data.goalBinding with
    | none => simp [bound, mapPresent] at pinned
    | some binding =>
      simp only [bound, mapPresent] at pinned
      cases fresh : createRunGoalAccountingCursor binding occurredAt with
      | error _ => simp [fresh, Except.map] at pinned
      | ok made =>
        obtain rfl : made = cursor := by simpa [fresh, Except.map] using pinned
        exact createRunGoalAccountingCursor_held fresh
  all_goals simp [createRun] at created

/-- A created run holds a fresh cursor, if any. -/
theorem reduce_none_held {event : RunLifecycleEvent} {state : RunState}
    (accepted : reduceRunLifecycleEvent none event = .ok state) : StateHeld state := by
  obtain ⟨_, created⟩ := reduce_none_eq_ok.mp accepted
  obtain ⟨_, _, _, _, _, last, _, usage, _, held⟩ := createRun_fresh created
  have first : (1 : Int) ≤ 1 ∧ (1 : Int) ≤ maxSafeInteger := by decide
  refine ⟨held.usage, by rw [last]; exact first, ?_⟩
  intro cursor tracked
  rw [usage, last]
  exact createRun_cursor created tracked

/-- The same cursor is held by more usage at a later position. -/
theorem CursorHeld.grown {cursor : RunGoalAccountingCursor} {usage delta : RunUsage}
    {position next : Int} (held : CursorHeld cursor usage position) (valid : UsageBounded delta)
    (later : position ≤ next) : CursorHeld cursor (usage.add delta) next :=
  ⟨held.accepted, held.accountedUsage.add valid, Int.le_trans held.throughRunSequence later⟩

/-- An accepted event that replaces the cursor by an earlier instant is out of order. -/
def InOrder (state : RunState) (event : RunLifecycleEvent) : Prop :=
  ∀ previous cursor, state.goalAccounting = some previous →
    event.data = .runGoalAccountingUpdated cursor →
      isEarlier event.occurredAt previous.updatedAt = false

/-- Only a replacement of the cursor can be out of order. -/
theorem inOrder_of_other {state : RunState} {event : RunLifecycleEvent}
    (other : ∀ cursor, event.data ≠ .runGoalAccountingUpdated cursor) : InOrder state event :=
  fun _ cursor _ carried => absurd carried (other cursor)

/-- An effect keeps what holds of a run, and moves its cursor forward exactly when it does not
replace the cursor out of order. -/
theorem CursorEffect.held {state next : RunState} {event : RunLifecycleEvent}
    (effect : CursorEffect state event next) (before : StateHeld state)
    (later : state.lastSequence ≤ next.lastSequence)
    (position : next.lastSequence = event.sequence) :
    (∀ cursor, next.goalAccounting = some cursor →
      CursorHeld cursor next.usage next.lastSequence) ∧
    ∀ previous cursor, state.goalAccounting = some previous → next.goalAccounting = some cursor →
      (CursorAdvances previous cursor ↔ InOrder state event) := by
  cases effect with
  | kept delta valid grown same other =>
    rw [grown, same]
    refine ⟨fun cursor tracked => (before.cursor cursor tracked).grown valid later, ?_⟩
    intro previous cursor tracked again
    obtain rfl : previous = cursor := Option.some.inj (tracked.symm.trans again)
    exact iff_of_true (.refl (before.cursor previous tracked).accepted) (inOrder_of_other other)
  | started same carried moved =>
    have order : InOrder state event := inOrder_of_other (by simp [carried])
    rw [same, position]
    cases tracked : state.goalAccounting with
    | none =>
      rw [tracked] at moved
      obtain none : none = next.goalAccounting := Except.ok.inj moved
      simp [← none]
    | some previous =>
      rw [tracked] at moved
      constructor
      · intro cursor again
        rw [again] at moved
        exact (startRunGoalAccounting_held (before.cursor previous tracked) moved).1
      · rintro _ cursor ⟨rfl⟩ again
        rw [again] at moved
        exact iff_of_true (startRunGoalAccounting_held (before.cursor previous tracked) moved).2 order
  | updated update same carried moved reduced =>
    obtain ⟨held, instant, past⟩ := reduceRunGoalAccountingUpdate_held reduced
    rw [same, moved]
    constructor
    · rintro cursor ⟨rfl⟩
      exact ⟨held.accepted, held.accountedUsage, Int.le_trans held.throughRunSequence later⟩
    · rintro previous cursor tracked ⟨rfl⟩
      obtain ⟨accepted, revision, through, usage⟩ := past previous tracked
      constructor
      · intro advances old cursor again _
        obtain rfl : previous = old := Option.some.inj (tracked.symm.trans again)
        exact (noLater_iff.mp (instant ▸ advances.updatedAt)).2.2
      · intro order
        have timestamp := held.accepted.updatedAt
        refine ⟨revision, through, usage, noLater_iff.mpr ⟨accepted.updatedAt, timestamp, ?_⟩⟩
        exact instant ▸ order previous update tracked carried
  | consumed handoffId current taken same carried tracked moved consumed =>
    have order : InOrder state event := inOrder_of_other (by simp [carried])
    obtain ⟨held, advances⟩ :=
      consumeRunGoalSteering_held (before.cursor current tracked) consumed
    rw [same, moved]
    constructor
    · rintro cursor ⟨rfl⟩
      exact ⟨held.accepted, held.accountedUsage, Int.le_trans held.throughRunSequence later⟩
    · rintro previous cursor again ⟨rfl⟩
      obtain rfl : current = previous := Option.some.inj (tracked.symm.trans again)
      exact iff_of_true advances order

/-- A replacement leaves the replacing cursor and the usage. -/
theorem applyRunEvent_replaced {state next : RunState} {event : RunLifecycleEvent}
    {cursor : RunGoalAccountingCursor} (carried : event.data = .runGoalAccountingUpdated cursor)
    (applied : applyRunEvent state event = .ok next) :
    next.goalAccounting = some cursor ∧ next.usage = state.usage := by
  simp only [applyRunEvent, carried, bind_eq_ok, pure_eq_ok, mapGoalAccountingError,
    mapError_eq_ok, reduceRunGoalAccountingUpdate, exists_unit] at applied
  obtain ⟨_, ⟨_, _, _, _, _, _, rfl⟩, rfl⟩ := applied
  exact ⟨rfl, rfl⟩

/-- What holds of every run that an accepted log leads to. -/
theorem reaches_held {events : List RunLifecycleEvent} {state : RunState}
    (reached : Reaches reduceRunLifecycleEvent events state) : StateHeld state := by
  refine reaches_induction (motive := fun _ state => StateHeld state) ?first ?step reached
  case first => exact fun event state accepted => reduce_none_held accepted
  case step =>
    intro events state event next before held accepted
    obtain ⟨envelope, _, sequence, _, passes, applied⟩ := reduce_some_eq_ok.mp accepted
    have position := (applyRunEvent_effect passes applied).position
    have usage := (reduce_preserves (reaches_counts before).1 accepted).usage
    have later : state.lastSequence ≤ next.lastSequence := by omega
    refine ⟨usage, ?_, ((applyRunEvent_cursor applied).held held later position).1⟩
    simp only [validateEventEnvelope, bind_eq_ok, exists_unit,
      requirePositiveInteger_eq_ok] at envelope
    rw [position]
    exact envelope.2.2.2.1

/-- An accepted event of a log moves the cursor forward exactly when it does not replace the cursor
out of order. -/
theorem step_advances {events : List RunLifecycleEvent} {state next : RunState}
    {event : RunLifecycleEvent} {previous cursor : RunGoalAccountingCursor}
    (reached : Reaches reduceRunLifecycleEvent events state)
    (accepted : reduceRunLifecycleEvent (some state) event = .ok next)
    (before : state.goalAccounting = some previous) (after : next.goalAccounting = some cursor) :
    CursorAdvances previous cursor ↔ InOrder state event := by
  obtain ⟨_, _, sequence, _, passes, applied⟩ := reduce_some_eq_ok.mp accepted
  have position := (applyRunEvent_effect passes applied).position
  have later : state.lastSequence ≤ next.lastSequence := by omega
  exact ((applyRunEvent_cursor applied).held (reaches_held reached) later position).2 previous cursor
    before after

/-- The cursor of a run never goes back along a log, and stays within the usage and the positions
of the run. -/
structure CursorMonotone (events : List RunLifecycleEvent) : Prop where
  advances : ∀ earlier event later before after previous next,
    events = earlier ++ event :: later → replayRunLifecycle earlier = .ok before →
      replayRunLifecycle (earlier ++ [event]) = .ok after →
        before.goalAccounting = some previous → after.goalAccounting = some next →
          CursorAdvances previous next
  within : ∀ earlier later state cursor, events = earlier ++ later →
    replayRunLifecycle earlier = .ok state → state.goalAccounting = some cursor →
      UsageAtMost cursor.accountedUsage state.usage ∧
        cursor.throughRunSequence ≤ state.lastSequence

/-- No event of a log replaces the cursor of the run by an earlier instant. -/
def UpdatesInOrder (events : List RunLifecycleEvent) : Prop :=
  ∀ earlier event later before, events = earlier ++ event :: later →
    replayRunLifecycle earlier = .ok before → InOrder before event

/-- The cursor of a run never goes back along an accepted log, and stays within the usage and the
positions of the run, exactly when no event replaces it by an earlier instant. -/
theorem cursorMonotone_iff {events : List RunLifecycleEvent} {state : RunState}
    (accepted : replayRunLifecycle events = .ok state) :
    CursorMonotone events ↔ UpdatesInOrder events := by
  have reached := replayRunLifecycle_eq_ok.mp accepted
  constructor
  · rintro monotone earlier event later before rfl first previous cursor tracked carried
    have start := replayRunLifecycle_eq_ok.mp first
    obtain ⟨after, reduced, extended⟩ := reaches_step reached start
    obtain ⟨_, _, _, _, _, applied⟩ := reduce_some_eq_ok.mp reduced
    have moved := (applyRunEvent_replaced carried applied).1
    have advances := monotone.advances earlier event later before after previous cursor rfl first
      (replayRunLifecycle_eq_ok.mpr extended) tracked moved
    exact (step_advances start reduced tracked moved).mp advances previous cursor tracked carried
  · intro ordered
    constructor
    · rintro earlier event later before after previous next rfl first second tracked moved
      have start := replayRunLifecycle_eq_ok.mp first
      obtain ⟨found, reduced, extended⟩ := reaches_step reached start
      have same := extended.symm.trans (replayRunLifecycle_eq_ok.mp second)
      obtain rfl : found = after := by simpa using same
      exact (step_advances start reduced tracked moved).mpr (ordered earlier event later before rfl
        first)
    · rintro earlier later middle cursor rfl first tracked
      have held := (reaches_held (replayRunLifecycle_eq_ok.mp first)).cursor cursor tracked
      exact ⟨held.accountedUsage, held.throughRunSequence⟩

/-- The goal revision of the sample run. -/
def sampleBinding : RunGoalBinding where
  goalId := js "goal"
  revision := 1
  objectiveDigest := js "sha256:0000000000000000000000000000000000000000000000000000000000000000"

/-- The log of a run with a goal that records a usage and then replaces its cursor, at the given
instant, by one that accounts for the given usage. -/
def replacedLog (occurredAt : JsString) (accountedUsage : RunUsage) : List RunLifecycleEvent :=
  logFrom 1 [.runCreated { sampleCreated with goalBinding := some sampleBinding }, .runStarted,
    .usageRecorded (js "segment") 1 ⟨10, some 4, some true, 5, 15⟩] ++
  [{ eventAt 4 (.runGoalAccountingUpdated {
      schemaVersion := runGoalAccountingSchema
      revision := 3
      policy := threadGoalAccountingPolicy
      throughRunSequence := 3
      accountedUsage := accountedUsage
      timeBaselineAt := none
      attribution := none
      pendingSteering := none
      updatedAt := occurredAt }) with occurredAt := occurredAt }]

/-- A cursor replaced in order never goes back. -/
theorem cursorMonotone_sample :
    ∃ state, replayRunLifecycle (replacedLog (js "2026-01-01T00:00:01Z") ⟨10, 4, 5, 15⟩) =
        .ok state ∧
      (CursorMonotone (replacedLog (js "2026-01-01T00:00:01Z") ⟨10, 4, 5, 15⟩) ↔
        UpdatesInOrder (replacedLog (js "2026-01-01T00:00:01Z") ⟨10, 4, 5, 15⟩)) := by
  obtain ⟨state, accepted⟩ := exists_of_isOk (by decide_cbv :
    (replayRunLifecycle (replacedLog (js "2026-01-01T00:00:01Z") ⟨10, 4, 5, 15⟩)).isOk = true)
  exact ⟨state, accepted, cursorMonotone_iff accepted⟩

/-- The cursor that a log leaves. -/
def cursorAfter (events : List RunLifecycleEvent) : Option RunGoalAccountingCursor :=
  (replayRunLifecycle events).toOption.bind (·.goalAccounting)

/-- A log that leaves a cursor is accepted. -/
theorem cursorAfter_eq_some {events : List RunLifecycleEvent} {cursor : RunGoalAccountingCursor}
    (left : cursorAfter events = some cursor) :
    ∃ state, replayRunLifecycle events = .ok state ∧ state.goalAccounting = some cursor := by
  cases replayed : replayRunLifecycle events with
  | error _ => simp [cursorAfter, replayed, Except.toOption] at left
  | ok state => exact ⟨state, rfl, by simpa [cursorAfter, replayed, Except.toOption] using left⟩

/-- The instants that a log leaves its cursor at, before and after its last event. -/
theorem cursorMonotone_instants {earlier : List RunLifecycleEvent} {event : RunLifecycleEvent}
    {start stop : JsString} (monotone : CursorMonotone (earlier ++ [event]))
    (before : (cursorAfter earlier).map (·.updatedAt) = some start)
    (after : (cursorAfter (earlier ++ [event])).map (·.updatedAt) = some stop) :
    NoLater start stop := by
  obtain ⟨previous, left, rfl⟩ := Option.map_eq_some_iff.mp before
  obtain ⟨next, leaves, rfl⟩ := Option.map_eq_some_iff.mp after
  obtain ⟨first, replayed, tracked⟩ := cursorAfter_eq_some left
  obtain ⟨second, extended, moved⟩ := cursorAfter_eq_some leaves
  exact (monotone.advances earlier event [] first second previous next rfl replayed extended tracked
    moved).updatedAt

/-- A cursor that is replaced by an earlier instant goes back. -/
theorem cursorMonotone_fails :
    ∃ state, replayRunLifecycle (replacedLog (js "2025-12-31T23:59:59Z") ⟨10, 4, 5, 15⟩) =
        .ok state ∧ ¬ CursorMonotone (replacedLog (js "2025-12-31T23:59:59Z") ⟨10, 4, 5, 15⟩) := by
  obtain ⟨state, accepted⟩ := exists_of_isOk (by decide_cbv :
    (replayRunLifecycle (replacedLog (js "2025-12-31T23:59:59Z") ⟨10, 4, 5, 15⟩)).isOk = true)
  refine ⟨state, accepted, ?_⟩
  intro monotone
  have ordered : NoLater (js "2026-01-01T00:00:00Z") (js "2025-12-31T23:59:59Z") :=
    cursorMonotone_instants monotone (by decide_cbv) (by decide +kernel)
  have backwards : isEarlier (js "2025-12-31T23:59:59Z") (js "2026-01-01T00:00:00Z") = true := by
    decide_cbv
  simp [(noLater_iff.mp ordered).2.2] at backwards

end Crewon.Verif.GoalCursor
