import Crewon.Verif.GoalCursor

/-!
# The interval since the accounting cursor

The delta of a cursor charges the usage and the time since the cursor. It is refused when the
usage since the cursor has more cached than input tokens: the components of two valid usages in
order need not differ by a valid usage. Along a log only a replacement of the cursor can bring
this about.
-/

namespace Crewon.Verif.GoalDelta

open Crewon.Js Crewon.Checked Crewon.Replay Crewon.Domain Crewon.Verif.RunLifecycle
open Crewon.Verif.GoalCursor

/-- The tokens that a usage charges: input that was not read from a cache, plus output. -/
def chargeable (usage : RunUsage) : Int :=
  usage.inputTokens - usage.cachedInputTokens + usage.outputTokens

/-- No more cached than input tokens came in since the accounted usage. -/
def CachedWithin (accounted usage : RunUsage) : Prop :=
  usage.cachedInputTokens - accounted.cachedInputTokens ≤ usage.inputTokens - accounted.inputTokens

/-- Two valid usages in order differ by a valid usage exactly when no more cached than input tokens
came in between. -/
theorem sub_bounded_iff {accounted usage : RunUsage} (before : UsageBounded accounted)
    (after : UsageBounded usage) (ordered : UsageAtMost accounted usage) :
    UsageBounded (usage.sub accounted) ↔ CachedWithin accounted usage := by
  obtain ⟨input, cached, output, total⟩ := ordered
  constructor
  · intro valid
    exact valid.cached
  · intro within
    have counted := before.counted
    have sums := before.total
    have sum := after.total
    have bounded := after.bounded
    constructor <;> simp only [RunUsage.sub, CachedWithin] at * <;> omega

/-- More valid usage keeps the cached tokens within the input tokens. -/
theorem CachedWithin.add {accounted usage delta : RunUsage} (within : CachedWithin accounted usage)
    (valid : UsageBounded delta) : CachedWithin accounted (usage.add delta) := by
  have cached := valid.cached
  simp only [CachedWithin, RunUsage.add] at *
  omega

/-- A valid usage is charged without a rejection. -/
theorem threadGoalChargedTokens_bounded {usage : RunUsage} (valid : UsageBounded usage) :
    threadGoalChargedTokens usage = .ok (chargeable usage) := by
  obtain ⟨counted, cached, total, bounded⟩ := valid
  simp only [threadGoalChargedTokens, bind_eq_ok, exists_unit, rejectIf_eq_ok, not_or, not_not,
    Bool.not_eq_false, isSafeInteger_iff, addSafeIntegers_eq_ok, chargeable, true_and]
  omega

/-- Time is counted while a cursor has a goal to charge and an instant to count from. -/
def tracked (cursor : RunGoalAccountingCursor) : Bool :=
  cursor.attribution.isSome && cursor.timeBaselineAt.isSome

/-- The whole seconds from the baseline of a cursor to an instant, and the baseline moved on by
them. -/
inductive TimeCharged (cursor : RunGoalAccountingCursor) (occurredAt : JsString) :
    Int → Option JsString → Prop where
  | counted (baseline advanced : JsString) (start stop : Int) (counts : tracked cursor = true)
      (since : cursor.timeBaselineAt = some baseline) (startIs : dateParse baseline = some start)
      (stopIs : dateParse occurredAt = some stop) (ordered : start ≤ stop)
      (written : toIsoString (start + (stop - start) / 1000 * 1000) = some advanced) :
      TimeCharged cursor occurredAt ((stop - start) / 1000) (some advanced)
  | idle (stands : tracked cursor = false) :
      TimeCharged cursor occurredAt 0 cursor.timeBaselineAt

/-- The delta of a cursor: the tokens and the time since the cursor. -/
structure DeltaOf (cursor : RunGoalAccountingCursor) (usage : RunUsage) (throughRunSequence : Int)
    (occurredAt : JsString) (delta : RunGoalAccountingDelta) : Prop where
  throughRunSequence : delta.throughRunSequence = throughRunSequence
  accountedUsage : delta.accountedUsage = usage
  tokenDelta : delta.tokenDelta = chargeable usage - chargeable cursor.accountedUsage
  time : TimeCharged cursor occurredAt delta.timeDeltaSeconds delta.nextTimeBaselineAt

/-- The conditions under which the delta of an accepted cursor is computed. -/
structure DeltaReady (cursor : RunGoalAccountingCursor) (usage : RunUsage)
    (throughRunSequence : Int) (occurredAt : JsString) : Prop where
  accepted : AcceptedCursor cursor
  current : UsageBounded usage
  position : 1 ≤ throughRunSequence ∧ throughRunSequence ≤ maxSafeInteger
  forward : cursor.throughRunSequence ≤ throughRunSequence
  ordered : UsageAtMost cursor.accountedUsage usage
  later : NoLater cursor.updatedAt occurredAt
  within : CachedWithin cursor.accountedUsage usage

/-- The time since an accepted cursor is charged at every later instant. -/
theorem timeSince_eq_ok {cursor : RunGoalAccountingCursor} {occurredAt : JsString}
    (accepted : AcceptedCursor cursor) (later : NoLater cursor.updatedAt occurredAt) :
    ∃ seconds baseline, timeSince cursor occurredAt = .ok (seconds, baseline) ∧
      TimeCharged cursor occurredAt seconds baseline := by
  cases attributed : cursor.attribution with
  | none =>
    have stands : tracked cursor = false := by simp [tracked, attributed]
    exact ⟨0, cursor.timeBaselineAt, by simp [timeSince, attributed], .idle stands⟩
  | some attribution =>
    cases since : cursor.timeBaselineAt with
    | none =>
      have stands : tracked cursor = false := by simp [tracked, since]
      exact ⟨0, cursor.timeBaselineAt, by simp [timeSince, attributed, since], .idle stands⟩
    | some baseline =>
      have counts : tracked cursor = true := by simp [tracked, attributed, since]
      obtain ⟨start, stop, startIs, stopIs, ordered⟩ :=
        (accepted.timeBaselineAt baseline since).trans later
      have elapsed : elapsedMillis baseline occurredAt = stop - start := by
        simp [elapsedMillis, startIs, stopIs]
      have positive : ¬ stop - start < 0 := by omega
      obtain ⟨advanced, written⟩ : ∃ text,
          toIsoString (start + (stop - start) / 1000 * 1000) = some text :=
        toIsoString_between startIs stopIs (by omega) (by omega)
      refine ⟨_, _, ?_, .counted baseline advanced start stop counts since startIs stopIs ordered
        written⟩
      simp [timeSince, attributed, since, elapsed, rejectIf, positive, advanceBaseline, startIs,
        written, pure, Except.pure]

/-- The delta of a cursor is computed exactly under its conditions. -/
theorem computeRunGoalAccountingDelta_ready {cursor : RunGoalAccountingCursor} {usage : RunUsage}
    {sequence : Int} {occurredAt : JsString} :
    (∃ delta, computeRunGoalAccountingDelta cursor usage sequence occurredAt = .ok delta) ↔
      DeltaReady cursor usage sequence occurredAt := by
  simp only [computeRunGoalAccountingDelta, bind_eq_ok, exists_unit, pure_eq_ok,
    validateRunGoalAccountingCursor_eq_ok, validateUsage_eq_ok, requirePositiveInteger_eq_ok,
    requireTimestamp_eq_ok, rejectIf_eq_ok, not_or, Bool.not_eq_true, usageRegressed_eq_false,
    Int.not_lt]
  constructor
  · rintro ⟨_, accepted, current, position, timestamp, ⟨forward, ordered, later⟩, valid, _⟩
    exact ⟨accepted, current, position, forward, ordered,
      noLater_iff.mpr ⟨accepted.updatedAt, timestamp, later⟩,
      (sub_bounded_iff accepted.accountedUsage current ordered).mp valid⟩
  · intro ready
    obtain ⟨_, timestamp, later⟩ := noLater_iff.mp ready.later
    have valid := (sub_bounded_iff ready.accepted.accountedUsage ready.current ready.ordered).mpr
      ready.within
    obtain ⟨seconds, baseline, elapsed, _⟩ := timeSince_eq_ok ready.accepted ready.later
    exact ⟨_, ready.accepted, ready.current, ready.position, timestamp,
      ⟨ready.forward, ready.ordered, later⟩, valid, _, elapsed, _,
      threadGoalChargedTokens_bounded valid, rfl⟩

/-- A delta that is computed charges the tokens and the time since its cursor. -/
theorem computeRunGoalAccountingDelta_charges {cursor : RunGoalAccountingCursor} {usage : RunUsage}
    {sequence : Int} {occurredAt : JsString} {delta : RunGoalAccountingDelta}
    (computed : computeRunGoalAccountingDelta cursor usage sequence occurredAt = .ok delta) :
    DeltaOf cursor usage sequence occurredAt delta := by
  have ready := computeRunGoalAccountingDelta_ready.mp ⟨delta, computed⟩
  have valid := (sub_bounded_iff ready.accepted.accountedUsage ready.current ready.ordered).mpr
    ready.within
  obtain ⟨seconds, baseline, elapsed, charged⟩ := timeSince_eq_ok ready.accepted ready.later
  simp only [computeRunGoalAccountingDelta, bind_eq_ok, exists_unit, pure_eq_ok, elapsed,
    threadGoalChargedTokens_bounded valid, Except.ok.injEq] at computed
  obtain ⟨_, _, _, _, _, _, _, rfl, _, rfl, rfl⟩ := computed
  refine ⟨rfl, rfl, ?_, charged⟩
  simp only [chargeable, RunUsage.sub]
  omega

/-- The delta of the cursor of a run, if the run has one, is computed at every instant from that of
the cursor on. -/
def AccountingComputable (state : RunState) : Prop :=
  ∀ cursor occurredAt, state.goalAccounting = some cursor → NoLater cursor.updatedAt occurredAt →
    ∃ delta, computeRunGoalAccountingDelta cursor state.usage state.lastSequence occurredAt =
      .ok delta

/-- The delta of the cursor of a run is computed exactly while no more cached than input tokens came
in since the cursor. -/
theorem accountingComputable_iff {state : RunState} (held : StateHeld state) :
    AccountingComputable state ↔ ∀ cursor, state.goalAccounting = some cursor →
      CachedWithin cursor.accountedUsage state.usage := by
  constructor
  · intro computable cursor present
    have accepted := (held.cursor cursor present).accepted
    have computed := computable cursor cursor.updatedAt present (.refl accepted.updatedAt)
    exact (computeRunGoalAccountingDelta_ready.mp computed).within
  · intro within cursor occurredAt present later
    have fits := held.cursor cursor present
    exact computeRunGoalAccountingDelta_ready.mpr ⟨fits.accepted, held.usage, held.position,
      fits.throughRunSequence, fits.accountedUsage, later, within cursor present⟩

/-- An event does not replace the cursor by one since which more cached than input tokens came
in. -/
def LeavesDifference (state : RunState) (event : RunLifecycleEvent) : Prop :=
  ∀ cursor, event.data = .runGoalAccountingUpdated cursor →
    CachedWithin cursor.accountedUsage state.usage

/-- The usage since the cursor, before and after an accepted event: a replaced cursor has the usage
that the event leaves it, every other one keeps what it had. -/
theorem cursorEffect_cachedWithin {state next : RunState} {event : RunLifecycleEvent}
    (effect : CursorEffect state event next)
    (before : ∀ cursor, state.goalAccounting = some cursor →
      CachedWithin cursor.accountedUsage state.usage)
    (leaves : LeavesDifference state event) : ∀ cursor, next.goalAccounting = some cursor →
      CachedWithin cursor.accountedUsage next.usage := by
  intro cursor present
  cases effect with
  | kept delta valid grown same other =>
    rw [grown]
    exact (before cursor (same ▸ present)).add valid
  | started same carried moved =>
    rw [same]
    cases current : state.goalAccounting with
    | none =>
      rw [current] at moved
      obtain none : none = next.goalAccounting := Except.ok.inj moved
      simp [← none] at present
    | some previous =>
      rw [current, present] at moved
      rw [(startRunGoalAccounting_parts moved).1]
      exact before previous current
  | updated update same carried moved reduced =>
    obtain rfl : update = cursor := Option.some.inj (moved.symm.trans present)
    rw [same]
    exact leaves update carried
  | consumed handoffId current taken same carried held moved consumed =>
    obtain rfl : taken = cursor := Option.some.inj (moved.symm.trans present)
    rw [same, (consumeRunGoalSteering_parts consumed).1]
    exact before current held

/-- No event of a log replaces the cursor of the run by one since which more cached than input
tokens came in. -/
def UpdatesLeaveDifference (events : List RunLifecycleEvent) : Prop :=
  ∀ earlier event later before, events = earlier ++ event :: later →
    replayRunLifecycle earlier = .ok before → LeavesDifference before event

/-- Accounting is computable in every state along a log. -/
def AlwaysComputable (events : List RunLifecycleEvent) : Prop :=
  ∀ earlier later state, events = earlier ++ later → replayRunLifecycle earlier = .ok state →
    AccountingComputable state

/-- A log that leaves every difference valid leaves one in its last state. -/
theorem reaches_cachedWithin {events : List RunLifecycleEvent} {state : RunState}
    (reached : Reaches reduceRunLifecycleEvent events state)
    (leaves : UpdatesLeaveDifference events) : ∀ cursor, state.goalAccounting = some cursor →
      CachedWithin cursor.accountedUsage state.usage := by
  revert leaves
  refine reaches_induction (motive := fun events state => UpdatesLeaveDifference events →
    ∀ cursor, state.goalAccounting = some cursor →
      CachedWithin cursor.accountedUsage state.usage) ?first ?step reached
  case first =>
    intro event state accepted _ cursor present
    obtain ⟨_, created⟩ := reduce_none_eq_ok.mp accepted
    obtain ⟨_, _, _, _, _, _, _, usage, _, _⟩ := createRun_fresh created
    obtain ⟨accepted, within, _⟩ := createRun_cursor created present
    have counted := accepted.accountedUsage.counted
    obtain ⟨input, cached, _, _⟩ := within
    rw [usage]
    simp only [CachedWithin, RunUsage.zero] at *
    omega
  case step =>
    intro events state event next before held accepted leaves
    obtain ⟨_, _, _, _, _, applied⟩ := reduce_some_eq_ok.mp accepted
    refine cursorEffect_cachedWithin (applyRunEvent_cursor applied) (held ?_) ?_
    · rintro earlier inner later middle rfl
      exact leaves earlier inner (later ++ [event]) middle (by simp)
    · exact leaves events event [] state rfl (replayRunLifecycle_eq_ok.mpr before)

/-- Accounting is computable in every state along an accepted log exactly when no event replaces
the cursor by one since which more cached than input tokens came in. -/
theorem alwaysComputable_iff {events : List RunLifecycleEvent} {state : RunState}
    (accepted : replayRunLifecycle events = .ok state) :
    AlwaysComputable events ↔ UpdatesLeaveDifference events := by
  have reached := replayRunLifecycle_eq_ok.mp accepted
  constructor
  · rintro computable earlier event later before rfl first cursor carried
    have start := replayRunLifecycle_eq_ok.mp first
    obtain ⟨after, reduced, extended⟩ := reaches_step reached start
    obtain ⟨_, _, _, _, _, applied⟩ := reduce_some_eq_ok.mp reduced
    have moved := applyRunEvent_replaced carried applied
    have leaves := computable (earlier ++ [event]) later after (by simp)
      (replayRunLifecycle_eq_ok.mpr extended)
    exact moved.2 ▸ (accountingComputable_iff (reaches_held extended)).mp leaves cursor moved.1
  · rintro leaves earlier later middle rfl replayed
    have start := replayRunLifecycle_eq_ok.mp replayed
    refine (accountingComputable_iff (reaches_held start)).mpr (reaches_cachedWithin start ?_)
    rintro first event rest before rfl
    exact leaves first event (rest ++ later) before (by simp)

/-- Accounting is computable along a log that replaces its cursor in order. -/
theorem alwaysComputable_sample :
    ∃ state, replayRunLifecycle (replacedLog (js "2026-01-01T00:00:01Z") ⟨8, 2, 5, 13⟩) =
        .ok state ∧
      (AlwaysComputable (replacedLog (js "2026-01-01T00:00:01Z") ⟨8, 2, 5, 13⟩) ↔
        UpdatesLeaveDifference (replacedLog (js "2026-01-01T00:00:01Z") ⟨8, 2, 5, 13⟩)) := by
  obtain ⟨state, accepted⟩ := exists_of_isOk (by decide_cbv :
    (replayRunLifecycle (replacedLog (js "2026-01-01T00:00:01Z") ⟨8, 2, 5, 13⟩)).isOk = true)
  exact ⟨state, accepted, alwaysComputable_iff accepted⟩

/-- A cursor that accounts for all input and no cached tokens leaves only cached tokens, and no
delta can be computed from it. -/
theorem alwaysComputable_fails :
    ∃ state, replayRunLifecycle (replacedLog (js "2026-01-01T00:00:01Z") ⟨10, 0, 5, 15⟩) =
        .ok state ∧
      ¬ AlwaysComputable (replacedLog (js "2026-01-01T00:00:01Z") ⟨10, 0, 5, 15⟩) := by
  obtain ⟨state, accepted⟩ := exists_of_isOk (by decide_cbv :
    (replayRunLifecycle (replacedLog (js "2026-01-01T00:00:01Z") ⟨10, 0, 5, 15⟩)).isOk = true)
  refine ⟨state, accepted, ?_⟩
  intro computable
  have reached := reaches_held (replayRunLifecycle_eq_ok.mp accepted)
  have covered := (accountingComputable_iff reached).mp
    (computable _ [] state (List.append_nil _).symm accepted)
  have left : ((replayRunLifecycle
      (replacedLog (js "2026-01-01T00:00:01Z") ⟨10, 0, 5, 15⟩)).toOption.map fun state =>
        (state.usage, state.goalAccounting.map (·.accountedUsage))) =
      some (⟨10, 4, 5, 15⟩, some ⟨10, 0, 5, 15⟩) := by decide_cbv
  simp only [accepted, Except.toOption, Option.map_some, Option.some.injEq, Prod.mk.injEq,
    Option.map_eq_some_iff] at left
  obtain ⟨usage, cursor, present, accounted⟩ := left
  have within := covered cursor present
  simp [usage, accounted, CachedWithin] at within

end Crewon.Verif.GoalDelta
