import Crewon.Verif.GoalDelta

/-!
# Charging a goal along a chain of accounting steps

A chain reports usage of a run and, at instants that do not go back, starts the clock of the run's
cursor, reads the interval since the cursor, takes a steering message from it or closes its
interval and opens the next one. The ledger of a chain adds up what the closed intervals charge:
tokens in one sum, seconds for each stretch of tracked time.
-/

namespace Crewon.Verif.GoalCharging

open Crewon.Js Crewon.Checked Crewon.Domain Crewon.Verif.RunLifecycle Crewon.Verif.GoalCursor
open Crewon.Verif.GoalDelta

/-- What a chain does with the cursor. -/
inductive ChainAction where
  | start
  | compute
  | consume (handoffId : JsString)
  | advance (nextBinding : Option RunGoalBinding)
      (pendingSteering : Option RunGoalSteeringHandoff) (trackTime : Bool)
deriving DecidableEq

/-- One link of a chain: a usage that the run reports, or an accounting step at an instant. -/
inductive ChainStep where
  | report (delta : RunUsage)
  | account (action : ChainAction) (throughRunSequence : Int) (occurredAt : JsString)
deriving DecidableEq

/-- A stretch of tracked time: the instants in milliseconds of its begin and of the last charge,
and the seconds charged. -/
structure Interval where
  start : Int
  last : Int
  seconds : Int
deriving DecidableEq

/-- A run's usage and cursor, and the ledger of what was charged. -/
structure Chain where
  usage : RunUsage
  cursor : Option RunGoalAccountingCursor
  /-- The usage that the first cursor accounts for. -/
  initial : Option RunUsage
  /-- The tokens charged. -/
  charged : Int
  /-- The stretch in which time is tracked now. -/
  tracking : Option Interval
  /-- The stretches that have ended. -/
  past : List Interval
deriving DecidableEq

/-- The interval an instant opens. -/
def Interval.at (instant : Int) : Interval := ⟨instant, instant, 0⟩

/-- The interval after a charge at an instant. -/
def Interval.charge (interval : Interval) (instant seconds : Int) : Interval :=
  { interval with last := instant, seconds := interval.seconds + seconds }

/-- The ledger before the first step: a cursor that tracks time has done so since its baseline. -/
def Chain.begin (usage : RunUsage) (cursor : Option RunGoalAccountingCursor) : Chain where
  usage := usage
  cursor := cursor
  initial := cursor.map (·.accountedUsage)
  charged := 0
  tracking := cursor.bind fun held =>
    if tracked held then
      held.timeBaselineAt.map fun baseline => .at ((dateParse baseline).getD 0)
    else none
  past := []

/-- Replace the cursor. The stretch of tracked time goes on as long as the cursor tracks time,
unless the step opens a new one. -/
def Chain.move (chain : Chain) (next : RunGoalAccountingCursor) (opens : Bool) (instant : Int) :
    Chain :=
  let moved := { chain with
    cursor := some next
    initial := some (chain.initial.getD next.accountedUsage) }
  if tracked next = false then
    { moved with tracking := none, past := chain.tracking.toList ++ chain.past }
  else
    match chain.tracking with
    | none => { moved with tracking := some (.at instant) }
    | some interval =>
      if opens then
        { moved with tracking := some (.at instant), past := interval :: chain.past }
      else moved

/-- Charge an interval of the cursor. -/
def Chain.charge (chain : Chain) (delta : RunGoalAccountingDelta) (instant : Int) : Chain :=
  { chain with
    charged := chain.charged + delta.tokenDelta
    tracking := chain.tracking.map fun interval =>
      interval.charge instant delta.timeDeltaSeconds }

/-- An accounting step. A `start` opens a new stretch of tracked time if starts divide them. -/
def Chain.account (divides : Bool) (chain : Chain) (action : ChainAction)
    (throughRunSequence : Int) (occurredAt : JsString) : Checked Chain :=
  let instant := (dateParse occurredAt).getD 0
  match action with
  | .start => do
    let next ← startRunGoalAccounting chain.cursor throughRunSequence occurredAt
    match next with
    | none => return chain
    | some next => return chain.move next divides instant
  | .compute =>
    match chain.cursor with
    | none => .ok chain
    | some cursor => do
      let _ ← computeRunGoalAccountingDelta cursor chain.usage throughRunSequence occurredAt
      return chain
  | .consume handoffId =>
    match chain.cursor with
    | none => .ok chain
    | some cursor => do
      let next ← consumeRunGoalSteering cursor handoffId occurredAt
      return chain.move next false instant
  | .advance nextBinding pendingSteering trackTime => do
    let (delta, next) ← advanceRunGoalAccounting chain.cursor {
      currentUsage := chain.usage
      throughRunSequence := throughRunSequence
      occurredAt := occurredAt
      nextBinding := nextBinding
      pendingSteering := pendingSteering
      trackTime := trackTime }
    return (chain.charge delta instant).move next false instant

/-- The chain after one link. A rejected step leaves it as it was. -/
def Chain.next (divides : Bool) (chain : Chain) : ChainStep → Chain
  | .report delta =>
    match addRunUsage chain.usage delta with
    | .ok total => { chain with usage := total }
    | .error _ => chain
  | .account action throughRunSequence occurredAt =>
    match chain.account divides action throughRunSequence occurredAt with
    | .ok moved => moved
    | .error _ => chain

/-- The chain after its links. -/
def Chain.run (divides : Bool) (chain : Chain) (steps : List ChainStep) : Chain :=
  steps.foldl (Chain.next divides) chain

/-- What the next cursor of an accepted advance takes over from its input and from the delta. -/
structure Advanced (current : Option RunGoalAccountingCursor)
    (input : AdvanceRunGoalAccountingInput) (delta : RunGoalAccountingDelta)
    (next : RunGoalAccountingCursor) : Prop where
  accepted : AcceptedCursor next
  accountedUsage : next.accountedUsage = input.currentUsage
  updatedAt : next.updatedAt = input.occurredAt
  fresh : current = none → delta.tokenDelta = 0 ∧ tracked next = false
  charges : ∀ cursor, current = some cursor →
    DeltaOf cursor input.currentUsage input.throughRunSequence input.occurredAt delta
  time : ∀ cursor, current = some cursor → tracked next = true →
    next.timeBaselineAt =
      if tracked cursor then delta.nextTimeBaselineAt else some input.occurredAt

/-- An accepted advance charges the interval of the cursor and opens the next one. -/
theorem advanceRunGoalAccounting_advanced {current : Option RunGoalAccountingCursor}
    {input : AdvanceRunGoalAccountingInput} {delta : RunGoalAccountingDelta}
    {next : RunGoalAccountingCursor}
    (advanced : advanceRunGoalAccounting current input = .ok (delta, next)) :
    Advanced current input delta next := by
  simp only [advanceRunGoalAccounting, bind_eq_ok, exists_unit, pure_eq_ok, Prod.mk.injEq,
    validateRunGoalAccountingCursor_eq_ok] at advanced
  obtain ⟨_, _, _, _, _, _, found, computed, accepted, rfl, rfl⟩ := advanced
  refine ⟨accepted, rfl, rfl, ?_, ?_, ?_⟩
  · rintro rfl
    obtain rfl := Except.ok.inj computed
    refine ⟨rfl, ?_⟩
    simp [tracked, nextCursor, nextTimeBaselineAt]
  · rintro cursor rfl
    exact computeRunGoalAccountingDelta_charges computed
  · rintro cursor rfl counts
    have since : (nextTimeBaselineAt (some cursor) input found).isSome = true := by
      simp only [tracked, Bool.and_eq_true] at counts
      exact counts.2
    show nextTimeBaselineAt (some cursor) input found = _
    simp only [nextTimeBaselineAt, Option.all_some] at since ⊢
    split_ifs at since ⊢ with untracked idle counting
    all_goals simp_all [tracked]

/-- The seconds charged for a stretch are the whole seconds from its begin to the last charge. -/
def Interval.Exact (interval : Interval) : Prop :=
  interval.seconds = (interval.last - interval.start) / 1000

/-- Every stretch of the ledger is charged exactly. -/
structure Chain.ChargedExactly (chain : Chain) : Prop where
  tracking : ∀ interval, chain.tracking = some interval → interval.Exact
  past : ∀ interval ∈ chain.past, interval.Exact

/-- The baseline of a cursor is the begin of the stretch and the seconds charged for it. -/
def Carries (cursor : RunGoalAccountingCursor) (interval : Interval) : Prop :=
  ∃ baseline, cursor.timeBaselineAt = some baseline ∧
    dateParse baseline = some (interval.start + interval.seconds * 1000)

/-- The stretches of tracked time are charged exactly, and the cursor carries the rest of the one
that goes on. -/
structure TimeSound (chain : Chain) : Prop where
  exact : chain.ChargedExactly
  carries : ∀ cursor interval, chain.cursor = some cursor → chain.tracking = some interval →
    tracked cursor = true ∧ Carries cursor interval
  idle : ∀ cursor, chain.cursor = some cursor → chain.tracking = none → tracked cursor = false
  absent : chain.cursor = none → chain.tracking = none

/-- The tokens charged are those of the usage accounted for since the first cursor. -/
def Balanced (chain : Chain) : Prop :=
  ∀ cursor, chain.cursor = some cursor → ∃ initial, chain.initial = some initial ∧
    chain.charged = chargeable cursor.accountedUsage - chargeable initial

/-- A usage that can follow on a usage that was accounted for. -/
structure Follows (accounted usage : RunUsage) : Prop where
  ordered : UsageAtMost accounted usage
  within : CachedWithin accounted usage

/-- A usage follows on itself. -/
theorem Follows.refl (usage : RunUsage) : Follows usage usage :=
  ⟨.refl usage, by simp [CachedWithin]⟩

/-- What holds of a chain after every link. -/
structure Sound (chain : Chain) : Prop where
  usage : UsageBounded chain.usage
  accepted : ∀ cursor, chain.cursor = some cursor → AcceptedCursor cursor
  follows : ∀ cursor, chain.cursor = some cursor → Follows cursor.accountedUsage chain.usage
  fresh : chain.cursor = none → chain.initial = none ∧ chain.charged = 0
  balanced : Balanced chain
  time : TimeSound chain

/-- A new stretch is charged exactly. -/
theorem Interval.at_exact (instant : Int) : (Interval.at instant).Exact := by
  simp [Interval.Exact, Interval.at]

/-- A moved cursor keeps the time of its chain: it opens a stretch at its own baseline, or carries
the stretch that goes on. -/
theorem Chain.ChargedExactly.move {chain : Chain} (exact : chain.ChargedExactly)
    {next : RunGoalAccountingCursor} {opens : Bool} {occurredAt : JsString}
    (begins : tracked next = true → opens = true ∨ chain.tracking = none →
      next.timeBaselineAt = some occurredAt ∧ isTimestamp occurredAt = true)
    (continues : tracked next = true → opens = false → ∀ interval,
      chain.tracking = some interval → Carries next interval) :
    TimeSound (chain.move next opens ((dateParse occurredAt).getD 0)) := by
  have past := exact.past
  have opened (counts : tracked next = true) (reason : opens = true ∨ chain.tracking = none) :
      Carries next (.at ((dateParse occurredAt).getD 0)) := by
    obtain ⟨since, timestamp⟩ := begins counts reason
    obtain ⟨instant, named⟩ := isTimestamp_iff.mp timestamp
    exact ⟨occurredAt, since, by simp [Interval.at, named]⟩
  cases counts : tracked next with
  | false =>
    have ended : ∀ interval ∈ chain.tracking.toList ++ chain.past, interval.Exact := by
      intro interval member
      cases List.mem_append.mp member with
      | inl current => exact exact.tracking interval (Option.mem_toList.mp current)
      | inr before => exact past interval before
    refine ⟨⟨?_, ?_⟩, ?_, ?_, ?_⟩ <;> simp [Chain.move, counts]
    simpa using ended
  | true =>
    cases current : chain.tracking with
    | none =>
      have carried := opened counts (.inr current)
      refine ⟨⟨?_, ?_⟩, ?_, ?_, ?_⟩ <;>
        simp [Chain.move, counts, current, Interval.at_exact, carried]
      exact past
    | some interval =>
      have charged := exact.tracking interval current
      cases reason : opens with
      | true =>
        have carried := opened counts (.inl reason)
        refine ⟨⟨?_, ?_⟩, ?_, ?_, ?_⟩ <;>
          simp [Chain.move, counts, current, Interval.at_exact, carried, charged]
        exact past
      | false =>
        have carried := continues counts reason interval current
        refine ⟨⟨?_, ?_⟩, ?_, ?_, ?_⟩ <;>
          simp [Chain.move, counts, current, charged, carried]
        exact past

/-- The parts of a moved chain that are not about time. -/
@[simp] theorem Chain.move_cursor (chain : Chain) (next : RunGoalAccountingCursor) (opens : Bool)
    (instant : Int) : (chain.move next opens instant).cursor = some next ∧
      (chain.move next opens instant).usage = chain.usage ∧
      (chain.move next opens instant).charged = chain.charged ∧
      (chain.move next opens instant).initial =
        some (chain.initial.getD next.accountedUsage) := by
  unfold Chain.move
  split
  · exact ⟨rfl, rfl, rfl, rfl⟩
  · split
    · exact ⟨rfl, rfl, rfl, rfl⟩
    · split <;> exact ⟨rfl, rfl, rfl, rfl⟩

/-- A charge up to a later instant charges the stretch exactly, and the moved baseline carries the
rest. -/
theorem charge_exact {cursor : RunGoalAccountingCursor} {interval : Interval}
    {occurredAt : JsString} {seconds : Int} {baseline : Option JsString}
    (exact : interval.Exact) (counts : tracked cursor = true) (carried : Carries cursor interval)
    (charged : TimeCharged cursor occurredAt seconds baseline) :
    (interval.charge ((dateParse occurredAt).getD 0) seconds).Exact ∧
      ∃ advanced, baseline = some advanced ∧ (isTimestamp advanced = true →
        dateParse advanced = some (interval.start + (interval.seconds + seconds) * 1000)) := by
  obtain ⟨held, since, named⟩ := carried
  cases charged with
  | idle stands => simp [counts] at stands
  | counted moved advanced start stop _ again startIs stopIs ordered written =>
    obtain rfl : held = moved := Option.some.inj (since.symm.trans again)
    obtain rfl : start = interval.start + interval.seconds * 1000 :=
      Option.some.inj (startIs.symm.trans named)
    constructor
    · simp only [Interval.Exact, Interval.charge, stopIs, Option.getD_some] at exact ⊢
      omega
    · refine ⟨advanced, rfl, ?_⟩
      intro timestamp
      rw [dateParse_toIsoString written timestamp]
      congr 1
      omega

/-- A moved cursor keeps what holds of its chain. -/
theorem Sound.of_move {chain : Chain} {next : RunGoalAccountingCursor} {opens : Bool} {instant : Int}
    (usage : UsageBounded chain.usage) (accepted : AcceptedCursor next)
    (follows : Follows next.accountedUsage chain.usage)
    (balanced : chain.charged = chargeable next.accountedUsage -
      chargeable (chain.initial.getD next.accountedUsage))
    (time : TimeSound (chain.move next opens instant)) : Sound (chain.move next opens instant) := by
  refine ⟨by simpa using usage, ?_, ?_, by simp, ?_, time⟩
  · intro cursor present
    obtain rfl : next = cursor := by simpa using present
    exact accepted
  · intro cursor present
    obtain rfl : next = cursor := by simpa using present
    simpa using follows
  · intro cursor present
    obtain rfl : next = cursor := by simpa using present
    exact ⟨chain.initial.getD next.accountedUsage, by simp, by simpa using balanced⟩

/-- The tokens charged so far, for a cursor that accounts for the same usage as the last one. -/
theorem Sound.balance {chain : Chain} (sound : Sound chain) {cursor : RunGoalAccountingCursor}
    (present : chain.cursor = some cursor) (usage : RunUsage) :
    chain.charged =
      chargeable cursor.accountedUsage - chargeable (chain.initial.getD usage) := by
  obtain ⟨initial, known, charged⟩ := sound.balanced cursor present
  rw [known, charged]
  rfl

/-- A started clock keeps what holds of a chain, and opens a new stretch. -/
theorem Sound.start {chain : Chain} {current next : RunGoalAccountingCursor} {sequence : Int}
    {occurredAt : JsString} (sound : Sound chain) (present : chain.cursor = some current)
    (started : startRunGoalAccounting (some current) sequence occurredAt = .ok (some next)) :
    Sound (chain.move next true ((dateParse occurredAt).getD 0)) := by
  have held : CursorHeld current chain.usage current.throughRunSequence :=
    ⟨sound.accepted current present, (sound.follows current present).ordered, Int.le_refl _⟩
  obtain ⟨same, since, _, timestamp⟩ := startRunGoalAccounting_parts started
  have time : TimeSound (chain.move next true ((dateParse occurredAt).getD 0)) :=
    sound.time.exact.move (fun _ _ => ⟨since, timestamp⟩) (by simp)
  refine .of_move sound.usage (startRunGoalAccounting_held held started).1.accepted ?_ ?_ time
  · rw [same]
    exact sound.follows current present
  · rw [same]
    exact sound.balance present current.accountedUsage

/-- A taken steering message keeps what holds of a chain, and its stretch goes on. -/
theorem Sound.consume {chain : Chain} {current next : RunGoalAccountingCursor}
    {handoffId occurredAt : JsString} (sound : Sound chain) (present : chain.cursor = some current)
    (taken : consumeRunGoalSteering current handoffId occurredAt = .ok next) :
    Sound (chain.move next false ((dateParse occurredAt).getD 0)) := by
  have held : CursorHeld current chain.usage current.throughRunSequence :=
    ⟨sound.accepted current present, (sound.follows current present).ordered, Int.le_refl _⟩
  obtain ⟨same, baseline, attribution, _⟩ := consumeRunGoalSteering_parts taken
  have counts : tracked next = tracked current := by simp [tracked, baseline, attribution]
  have time : TimeSound (chain.move next false ((dateParse occurredAt).getD 0)) := by
    refine sound.time.exact.move ?_ ?_
    · intro goes opens
      have idle := sound.time.idle current present (by simpa using opens)
      simp [counts, idle] at goes
    · intro _ _ interval ongoing
      obtain ⟨held, since, named⟩ := (sound.time.carries current interval present ongoing).2
      exact ⟨held, baseline ▸ since, named⟩
  refine .of_move sound.usage (consumeRunGoalSteering_held held taken).1.accepted ?_ ?_ time
  · rw [same]
    exact sound.follows current present
  · rw [same]
    exact sound.balance present current.accountedUsage

/-- A closed interval keeps what holds of a chain: its tokens and its time are charged, and the
cursor carries the rest. -/
theorem Sound.advance {chain : Chain} {input : AdvanceRunGoalAccountingInput}
    {delta : RunGoalAccountingDelta} {next : RunGoalAccountingCursor} (sound : Sound chain)
    (usage : input.currentUsage = chain.usage)
    (advanced : Advanced chain.cursor input delta next) :
    Sound ((chain.charge delta ((dateParse input.occurredAt).getD 0)).move next false
      ((dateParse input.occurredAt).getD 0)) := by
  have timestamp : isTimestamp input.occurredAt = true :=
    advanced.updatedAt ▸ advanced.accepted.updatedAt
  have follows : Follows next.accountedUsage chain.usage := by
    rw [advanced.accountedUsage, usage]
    exact .refl chain.usage
  cases present : chain.cursor with
  | none =>
    obtain ⟨nothing, idle⟩ := advanced.fresh present
    obtain ⟨initial, charged⟩ := sound.fresh present
    have stopped : chain.tracking = none := sound.time.absent present
    refine .of_move sound.usage advanced.accepted follows ?_ ?_
    · simp [Chain.charge, nothing, initial, charged]
    · have exact : (chain.charge delta ((dateParse input.occurredAt).getD 0)).ChargedExactly :=
        ⟨by simp [Chain.charge, stopped], sound.time.exact.past⟩
      exact exact.move (by simp [idle]) (by simp [idle])
  | some cursor =>
    have charges := advanced.charges cursor present
    have balance := sound.balance present next.accountedUsage
    have charged (interval : Interval) (ongoing : chain.tracking = some interval) :=
      charge_exact (sound.time.exact.tracking interval ongoing)
        (sound.time.carries cursor interval present ongoing).1
        (sound.time.carries cursor interval present ongoing).2 charges.time
    refine .of_move sound.usage advanced.accepted follows ?_ ?_
    · simp only [Chain.charge, charges.tokenDelta, balance, advanced.accountedUsage]
      omega
    · have exact : (chain.charge delta ((dateParse input.occurredAt).getD 0)).ChargedExactly := by
        refine ⟨?_, sound.time.exact.past⟩
        intro interval ongoing
        obtain ⟨before, current, rfl⟩ := Option.map_eq_some_iff.mp ongoing
        exact (charged before current).1
      refine exact.move ?_ ?_
      · intro goes opens
        have stopped : chain.tracking = none := by simpa [Chain.charge] using opens
        have since := advanced.time cursor present goes
        rw [sound.time.idle cursor present stopped] at since
        exact ⟨since, timestamp⟩
      · intro goes _ interval ongoing
        obtain ⟨before, current, rfl⟩ := Option.map_eq_some_iff.mp ongoing
        obtain ⟨moved, known, named⟩ := (charged before current).2
        have since := advanced.time cursor present goes
        rw [(sound.time.carries cursor before present current).1, if_pos rfl, known] at since
        have valid := (noLater_iff.mp (advanced.accepted.timeBaselineAt moved since)).1
        exact ⟨moved, since, named valid⟩

/-- What an accepted step does to a chain. -/
inductive StepEffect (divides : Bool) (chain : Chain) (occurredAt : JsString) : Chain → Prop where
  | unchanged : StepEffect divides chain occurredAt chain
  | started (sequence : Int) (current next : RunGoalAccountingCursor)
      (present : chain.cursor = some current)
      (started : startRunGoalAccounting (some current) sequence occurredAt = .ok (some next)) :
      StepEffect divides chain occurredAt
        (chain.move next divides ((dateParse occurredAt).getD 0))
  | consumed (handoffId : JsString) (current next : RunGoalAccountingCursor)
      (present : chain.cursor = some current)
      (taken : consumeRunGoalSteering current handoffId occurredAt = .ok next) :
      StepEffect divides chain occurredAt
        (chain.move next false ((dateParse occurredAt).getD 0))
  | advanced (input : AdvanceRunGoalAccountingInput) (delta : RunGoalAccountingDelta)
      (next : RunGoalAccountingCursor) (usage : input.currentUsage = chain.usage)
      (instant : input.occurredAt = occurredAt)
      (advanced : Advanced chain.cursor input delta next) :
      StepEffect divides chain occurredAt
        ((chain.charge delta ((dateParse occurredAt).getD 0)).move next false
          ((dateParse occurredAt).getD 0))

/-- Every accepted step has one of the listed effects. -/
theorem account_effect {divides : Bool} {chain moved : Chain} {action : ChainAction}
    {sequence : Int} {occurredAt : JsString}
    (stepped : chain.account divides action sequence occurredAt = .ok moved) :
    StepEffect divides chain occurredAt moved := by
  cases action with
  | start =>
    simp only [Chain.account, bind_eq_ok] at stepped
    obtain ⟨next, started, stepped⟩ := stepped
    cases next with
    | none => exact (pure_eq_ok.mp stepped) ▸ .unchanged
    | some next =>
      obtain rfl := pure_eq_ok.mp stepped
      cases present : chain.cursor with
      | none => simp [present, startRunGoalAccounting] at started
      | some current => exact .started sequence current next present (present ▸ started)
  | compute =>
    have same : chain = moved := by
      cases present : chain.cursor with
      | none => simpa [Chain.account, present] using stepped
      | some current =>
        simp only [Chain.account, present, bind_eq_ok, pure_eq_ok] at stepped
        obtain ⟨_, _, same⟩ := stepped
        exact same
    exact same ▸ .unchanged
  | consume handoffId =>
    cases present : chain.cursor with
    | none =>
      simp only [Chain.account, present, Except.ok.injEq] at stepped
      exact stepped ▸ .unchanged
    | some current =>
      simp only [Chain.account, present, bind_eq_ok, pure_eq_ok] at stepped
      obtain ⟨next, taken, rfl⟩ := stepped
      exact .consumed handoffId current next present taken
  | advance nextBinding pendingSteering trackTime =>
    simp only [Chain.account, bind_eq_ok, pure_eq_ok] at stepped
    obtain ⟨⟨delta, next⟩, advanced, rfl⟩ := stepped
    exact .advanced _ delta next rfl rfl (advanceRunGoalAccounting_advanced advanced)

/-- An accepted step keeps what holds of a chain whose starts open new stretches. -/
theorem StepEffect.sound {chain moved : Chain} {occurredAt : JsString}
    (effect : StepEffect true chain occurredAt moved) (sound : Sound chain) : Sound moved := by
  cases effect with
  | unchanged => exact sound
  | started sequence current next present started => exact sound.start present started
  | consumed handoffId current next present taken => exact sound.consume present taken
  | advanced input delta next usage instant advanced =>
    subst instant
    exact sound.advance usage advanced

/-- A step leaves the cursor at its own instant, or leaves it alone. -/
theorem StepEffect.updatedAt {divides : Bool} {chain moved : Chain} {occurredAt : JsString}
    (effect : StepEffect divides chain occurredAt moved) : moved.cursor = chain.cursor ∨
      ∃ cursor, moved.cursor = some cursor ∧ cursor.updatedAt = occurredAt := by
  cases effect with
  | unchanged => exact .inl rfl
  | started sequence current next present started =>
    exact .inr ⟨next, by simp, (startRunGoalAccounting_parts started).2.2.1⟩
  | consumed handoffId current next present taken =>
    exact .inr ⟨next, by simp, (consumeRunGoalSteering_parts taken).2.2.2⟩
  | advanced input delta next usage instant advanced =>
    exact .inr ⟨next, by simp, advanced.updatedAt.trans instant⟩

/-- The rejections that blame a usage. -/
def usageFailures : List Failure :=
  [runGoalAccountingError "goal_accounting_usage_invalid",
    runGoalAccountingError "goal_accounting_usage_regressed",
    threadGoalError "goal_usage_invalid", threadGoalError "goal_tokens_used_overflow"]

/-- A rejection has another cause than a usage. -/
def OtherCause (failure : Failure) : Prop := failure ∉ usageFailures

/-- The cause of a rejection can be read off its code. -/
instance (failure : Failure) : Decidable (OtherCause failure) :=
  inferInstanceAs (Decidable (failure ∉ usageFailures))

/-- A binding is never rejected because of a usage. -/
theorem validateBinding_fails (binding : RunGoalBinding) :
    FailsOnly OtherCause (validateBinding binding) := by
  refine (failsOnly_rejectIf (by decide)).bind fun _ _ => ?_
  refine (failsOnly_rejectIf (by decide)).bind fun _ _ => ?_
  exact failsOnly_rejectIf (by decide)

/-- A cursor that accounts for a valid usage is never rejected because of it. -/
theorem validateRunGoalAccountingCursor_fails {cursor : RunGoalAccountingCursor}
    (bounded : UsageBounded cursor.accountedUsage) :
    FailsOnly OtherCause (validateRunGoalAccountingCursor cursor) := by
  have checked : validateUsage cursor.accountedUsage = .ok () := validateUsage_eq_ok.mpr bounded
  refine (failsOnly_rejectIf (by decide)).bind fun _ _ => ?_
  refine (failsOnly_rejectIf (by decide)).bind fun _ _ => ?_
  refine (failsOnly_rejectIf (by decide)).bind fun _ _ => ?_
  refine (failsOnly_of_ok checked).bind fun _ _ => ?_
  refine (failsOnly_whenPresent fun _ _ => failsOnly_rejectIf (by decide)).bind fun _ _ => ?_
  refine (failsOnly_rejectIf (by decide)).bind fun _ _ => ?_
  refine (failsOnly_whenPresent fun _ _ => failsOnly_rejectIf (by decide)).bind fun _ _ => ?_
  refine (failsOnly_whenPresent fun attribution _ => validateBinding_fails
    (attributedBinding attribution)).bind fun _ _ => ?_
  refine failsOnly_whenPresent fun handoff _ => ?_
  refine (failsOnly_rejectIf (by decide)).bind fun _ _ => ?_
  refine (validateBinding_fails _).bind fun _ _ => ?_
  refine (failsOnly_rejectIf (by decide)).bind fun _ _ => ?_
  exact failsOnly_rejectIf (by decide)

/-- A counter is never rejected because of a usage. -/
theorem incrementSafeInteger_fails {value : Int} {failure : Failure} (other : OtherCause failure) :
    FailsOnly OtherCause (incrementSafeInteger value failure) := by
  intro found rejected
  simp only [incrementSafeInteger, addSafeIntegers] at rejected
  split at rejected
  case isTrue => simp at rejected
  case isFalse => exact Except.error.inj rejected ▸ other

/-- The start of an accepted cursor is never rejected because of a usage. -/
theorem startRunGoalAccounting_fails {cursor : RunGoalAccountingCursor}
    (accepted : AcceptedCursor cursor) (sequence : Int) (occurredAt : JsString) :
    FailsOnly OtherCause (startRunGoalAccounting (some cursor) sequence occurredAt) := by
  refine (validateRunGoalAccountingCursor_fails accepted.accountedUsage).bind fun _ _ => ?_
  refine (failsOnly_rejectIf (by decide)).bind fun _ _ => ?_
  refine (failsOnly_rejectIf (by decide)).bind fun _ _ => ?_
  refine (failsOnly_rejectIf (by decide)).bind fun _ _ => ?_
  exact (incrementSafeInteger_fails (by decide)).bind fun _ _ => failsOnly_of_ok rfl

/-- Taking a steering message from an accepted cursor is never rejected because of a usage. -/
theorem consumeRunGoalSteering_fails {cursor : RunGoalAccountingCursor}
    (accepted : AcceptedCursor cursor) (handoffId occurredAt : JsString) :
    FailsOnly OtherCause (consumeRunGoalSteering cursor handoffId occurredAt) := by
  refine (validateRunGoalAccountingCursor_fails accepted.accountedUsage).bind fun _ _ => ?_
  refine (failsOnly_rejectIf (by decide)).bind fun _ _ => ?_
  refine (failsOnly_rejectIf (by decide)).bind fun _ _ => ?_
  refine (failsOnly_rejectIf (by decide)).bind fun _ _ => ?_
  exact (incrementSafeInteger_fails (by decide)).bind fun _ _ => failsOnly_of_ok rfl

/-- The delta of an accepted cursor is never rejected because of a usage that follows on the
accounted one, unless the position went back. -/
theorem computeRunGoalAccountingDelta_fails {cursor : RunGoalAccountingCursor} {usage : RunUsage}
    {sequence : Int} {occurredAt : JsString} (accepted : AcceptedCursor cursor)
    (bounded : UsageBounded usage) (follows : Follows cursor.accountedUsage usage)
    (forward : cursor.throughRunSequence ≤ sequence)
    (later : NoLater cursor.updatedAt occurredAt) :
    FailsOnly OtherCause (computeRunGoalAccountingDelta cursor usage sequence occurredAt) := by
  by_cases position : 1 ≤ sequence ∧ sequence ≤ maxSafeInteger
  · have ready : DeltaReady cursor usage sequence occurredAt :=
      ⟨accepted, bounded, position, forward, follows.ordered, later, follows.within⟩
    obtain ⟨delta, computed⟩ := computeRunGoalAccountingDelta_ready.mpr ready
    exact failsOnly_of_ok computed
  · have checked : validateUsage usage = .ok () := validateUsage_eq_ok.mpr bounded
    refine (validateRunGoalAccountingCursor_fails accepted.accountedUsage).bind fun _ _ => ?_
    refine (failsOnly_of_ok checked).bind fun _ _ => ?_
    refine (failsOnly_rejectIf (by decide)).bind fun _ counted => ?_
    exact absurd (requirePositiveInteger_eq_ok.mp counted) position

/-- An advance is never rejected because of a usage that follows on the accounted one, unless the
position went back. -/
theorem advanceRunGoalAccounting_fails {current : Option RunGoalAccountingCursor}
    {input : AdvanceRunGoalAccountingInput} (bounded : UsageBounded input.currentUsage)
    (closes : FailsOnly OtherCause (closedInterval current input)) :
    FailsOnly OtherCause (advanceRunGoalAccounting current input) := by
  have checked : validateUsage input.currentUsage = .ok () := validateUsage_eq_ok.mpr bounded
  refine (failsOnly_of_ok checked).bind fun _ _ => ?_
  refine (failsOnly_rejectIf (by decide)).bind fun _ _ => ?_
  refine (failsOnly_rejectIf (by decide)).bind fun _ _ => ?_
  refine (failsOnly_whenPresent fun _ _ => validateBinding_fails _).bind fun _ _ => ?_
  refine (failsOnly_whenPresent fun _ _ => failsOnly_rejectIf (by decide)).bind fun _ _ => ?_
  refine (failsOnly_rejectIf (by decide)).bind fun _ _ => ?_
  refine closes.bind fun delta _ => ?_
  exact (validateRunGoalAccountingCursor_fails bounded).bind fun _ _ => failsOnly_of_ok rfl

/-- A step went back to a position before that of the cursor. -/
def WentBack (chain : Chain) (sequence : Int) : Prop :=
  ∃ cursor, chain.cursor = some cursor ∧ sequence < cursor.throughRunSequence

/-- No step of a chain is rejected because of a usage, unless its position went back. -/
theorem Sound.fails {chain : Chain} {divides : Bool} (sound : Sound chain) (action : ChainAction)
    {sequence : Int} {occurredAt : JsString} (forward : ¬ WentBack chain sequence)
    (later : ∀ cursor, chain.cursor = some cursor → NoLater cursor.updatedAt occurredAt) :
    FailsOnly OtherCause (chain.account divides action sequence occurredAt) := by
  have computes (cursor : RunGoalAccountingCursor) (present : chain.cursor = some cursor) :
      FailsOnly OtherCause
        (computeRunGoalAccountingDelta cursor chain.usage sequence occurredAt) := by
    have position : cursor.throughRunSequence ≤ sequence := by
      by_contra before
      exact forward ⟨cursor, present, by omega⟩
    exact computeRunGoalAccountingDelta_fails (sound.accepted cursor present) sound.usage
      (sound.follows cursor present) position (later cursor present)
  cases action with
  | start =>
    have starts : FailsOnly OtherCause
        (startRunGoalAccounting chain.cursor sequence occurredAt) := by
      cases present : chain.cursor with
      | none => exact failsOnly_of_ok rfl
      | some cursor =>
        exact startRunGoalAccounting_fails (sound.accepted cursor present) sequence occurredAt
    refine starts.bind fun next _ => ?_
    cases next <;> exact failsOnly_of_ok rfl
  | compute =>
    cases present : chain.cursor with
    | none =>
      have kept : chain.account divides .compute sequence occurredAt = .ok chain := by
        simp [Chain.account, present]
      exact failsOnly_of_ok kept
    | some cursor =>
      simp only [Chain.account, present]
      exact (computes cursor present).bind fun _ _ => failsOnly_of_ok rfl
  | consume handoffId =>
    cases present : chain.cursor with
    | none =>
      have kept : chain.account divides (.consume handoffId) sequence occurredAt = .ok chain := by
        simp [Chain.account, present]
      exact failsOnly_of_ok kept
    | some cursor =>
      simp only [Chain.account, present]
      exact (consumeRunGoalSteering_fails (sound.accepted cursor present) handoffId
        occurredAt).bind fun _ _ => failsOnly_of_ok rfl
  | advance nextBinding pendingSteering trackTime =>
    refine (advanceRunGoalAccounting_fails sound.usage ?_).bind fun _ _ => failsOnly_of_ok rfl
    cases present : chain.cursor with
    | none => exact failsOnly_of_ok rfl
    | some cursor => exact computes cursor present

/-- The instant of a link, if it has one. -/
def ChainStep.instant : ChainStep → Option JsString
  | .report _ => none
  | .account _ _ occurredAt => some occurredAt

/-- The instants of a chain: that of its cursor, and those of its links. -/
def Chain.instants (chain : Chain) (steps : List ChainStep) : List JsString :=
  (chain.cursor.map (·.updatedAt)).toList ++ steps.filterMap ChainStep.instant

/-- Every usage that the links report is valid. -/
def ValidReports (steps : List ChainStep) : Prop :=
  ∀ delta, .report delta ∈ steps → UsageBounded delta

/-- A usage that is added keeps what holds of a chain. -/
theorem Sound.report {chain : Chain} {delta total : RunUsage} (sound : Sound chain)
    (valid : UsageBounded delta) (added : addRunUsage chain.usage delta = .ok total) :
    Sound { chain with usage := total } := by
  obtain ⟨rfl, bounded⟩ := addRunUsage_bounded sound.usage valid.counted added
  refine { sound with
    usage := bounded
    follows := ?_
    time := { sound.time with exact := ⟨sound.time.exact.tracking, sound.time.exact.past⟩ } }
  intro cursor present
  obtain ⟨ordered, within⟩ := sound.follows cursor present
  exact ⟨ordered.add valid, within.add valid⟩

/-- A link keeps what holds of a chain whose starts open new stretches. -/
theorem Sound.next {chain : Chain} {step : ChainStep} (sound : Sound chain)
    (valid : ValidReports [step]) : Sound (chain.next true step) := by
  cases step with
  | report delta =>
    cases added : addRunUsage chain.usage delta with
    | error _ => simpa [Chain.next, added] using sound
    | ok total => simpa [Chain.next, added] using sound.report (valid delta (by simp)) added
  | account action sequence occurredAt =>
    cases stepped : chain.account true action sequence occurredAt with
    | error _ => simpa [Chain.next, stepped] using sound
    | ok moved => simpa [Chain.next, stepped] using (account_effect stepped).sound sound

/-- A report has no instant. -/
theorem Chain.instants_report (chain : Chain) (delta : RunUsage) (later : List ChainStep) :
    chain.instants (.report delta :: later) = chain.instants later := rfl

/-- The instant of a step stands between that of the cursor and those of the later links. -/
theorem Chain.instants_account (chain : Chain) (action : ChainAction) (sequence : Int)
    (occurredAt : JsString) (later : List ChainStep) :
    chain.instants (.account action sequence occurredAt :: later) =
      (chain.cursor.map (·.updatedAt)).toList ++
        occurredAt :: later.filterMap ChainStep.instant := rfl

/-- The links that follow a link start no earlier than the cursor it leaves. -/
theorem instants_next {chain : Chain} {divides : Bool} {step : ChainStep} {later : List ChainStep}
    (ordered : (chain.instants (step :: later)).Pairwise NoLater) :
    ((chain.next divides step).instants later).Pairwise NoLater := by
  cases step with
  | report delta =>
    have same : (chain.next divides (.report delta)).cursor = chain.cursor := by
      simp only [Chain.next]
      split <;> rfl
    rw [Chain.instants_report] at ordered
    rw [Chain.instants, same]
    exact ordered
  | account action sequence occurredAt =>
    rw [Chain.instants_account] at ordered
    have skipped : (chain.instants later).Pairwise NoLater :=
      ordered.sublist ((List.sublist_cons_self occurredAt _).append_left _)
    cases stepped : chain.account divides action sequence occurredAt with
    | error _ => simpa [Chain.next, stepped] using skipped
    | ok moved =>
      simp only [Chain.next, stepped]
      cases (account_effect stepped).updatedAt with
      | inl same =>
        rw [Chain.instants, same]
        exact skipped
      | inr fresh =>
        obtain ⟨cursor, present, instant⟩ := fresh
        have behind := ordered.sublist (List.sublist_append_right _ _)
        simpa [Chain.instants, present, instant] using behind

/-- A link with an instant comes no earlier than the cursor. -/
theorem instants_head {chain : Chain} {action : ChainAction} {sequence : Int}
    {occurredAt : JsString} {later : List ChainStep}
    (ordered : (chain.instants (.account action sequence occurredAt :: later)).Pairwise NoLater) :
    ∀ cursor, chain.cursor = some cursor → NoLater cursor.updatedAt occurredAt := by
  intro cursor present
  rw [Chain.instants_account, present] at ordered
  exact List.rel_of_pairwise_cons ordered List.mem_cons_self

/-- The usage and the cursor that a chain begins with. -/
structure Begins (usage : RunUsage) (cursor : Option RunGoalAccountingCursor) : Prop where
  bounded : UsageBounded usage
  accepted : ∀ held, cursor = some held → AcceptedCursor held
  /-- The usage grew from what the cursor accounts for by valid usage. -/
  grown : ∀ held, cursor = some held →
    ∃ delta, UsageBounded delta ∧ usage = held.accountedUsage.add delta

/-- A cursor that tracks time has done so since its baseline. -/
theorem begin_timeSound {usage : RunUsage} {cursor : Option RunGoalAccountingCursor}
    (accepted : ∀ held, cursor = some held → AcceptedCursor held) :
    TimeSound (.begin usage cursor) := by
  cases cursor with
  | none => refine ⟨⟨?_, ?_⟩, ?_, ?_, ?_⟩ <;> simp [Chain.begin]
  | some held =>
    cases counts : tracked held with
    | false => refine ⟨⟨?_, ?_⟩, ?_, ?_, ?_⟩ <;> simp [Chain.begin, counts]
    | true =>
      have present := counts
      simp only [tracked, Bool.and_eq_true, Option.isSome_iff_exists] at present
      obtain ⟨_, baseline, since⟩ := present
      have timestamp := (noLater_iff.mp ((accepted held rfl).timeBaselineAt baseline since)).1
      obtain ⟨instant, named⟩ := isTimestamp_iff.mp timestamp
      have carried : Carries held (.at instant) :=
        ⟨baseline, since, by simp [Interval.at, named]⟩
      refine ⟨⟨?_, ?_⟩, ?_, ?_, ?_⟩ <;>
        simp [Chain.begin, counts, since, named, carried, Interval.at_exact]

/-- The ledger of a chain is sound before the first link. -/
theorem Begins.sound {usage : RunUsage} {cursor : Option RunGoalAccountingCursor}
    (begins : Begins usage cursor) : Sound (.begin usage cursor) := by
  have follows : ∀ held, cursor = some held → Follows held.accountedUsage usage := by
    intro held present
    obtain ⟨delta, valid, rfl⟩ := begins.grown held present
    have same := Follows.refl held.accountedUsage
    exact ⟨same.ordered.add valid, same.within.add valid⟩
  refine ⟨begins.bounded, begins.accepted, follows, ?_, ?_, begin_timeSound begins.accepted⟩
  · intro absent
    simp only [Chain.begin] at absent ⊢
    simp [absent]
  · intro held present
    refine ⟨held.accountedUsage, ?_, ?_⟩
    · simp only [Chain.begin] at present ⊢
      simp [present]
    · simp [Chain.begin]

/-- What a chain has charged when an interval is closed next. -/
structure Conserved (chain : Chain) : Prop where
  /-- The tokens charged are those accounted for since the first cursor. -/
  tokens : Balanced chain
  /-- The seconds charged for a stretch are the whole seconds up to the last charge. -/
  time : ∀ interval ∈ chain.tracking.toList ++ chain.past, interval.Exact
  /-- Charging the interval since the cursor, at whatever instant, keeps both sums. -/
  preview : ∀ cursor sequence occurredAt delta, chain.cursor = some cursor →
    computeRunGoalAccountingDelta cursor chain.usage sequence occurredAt = .ok delta →
      (∃ initial, chain.initial = some initial ∧ chain.charged + delta.tokenDelta =
        chargeable delta.accountedUsage - chargeable initial) ∧
      ∀ interval, chain.tracking = some interval →
        (interval.charge ((dateParse occurredAt).getD 0) delta.timeDeltaSeconds).Exact

/-- A sound ledger conserves tokens and time. -/
theorem Sound.conserved {chain : Chain} (sound : Sound chain) : Conserved chain := by
  refine ⟨sound.balanced, ?_, ?_⟩
  · intro interval member
    cases List.mem_append.mp member with
    | inl current => exact sound.time.exact.tracking interval (Option.mem_toList.mp current)
    | inr ended => exact sound.time.exact.past interval ended
  · intro cursor sequence occurredAt delta present computed
    have charges := computeRunGoalAccountingDelta_charges computed
    obtain ⟨initial, known, charged⟩ := sound.balanced cursor present
    refine ⟨⟨initial, known, ?_⟩, ?_⟩
    · rw [charged, charges.tokenDelta, charges.accountedUsage]
      omega
    · intro interval ongoing
      obtain ⟨counts, carried⟩ := sound.time.carries cursor interval present ongoing
      exact (charge_exact (sound.time.exact.tracking interval ongoing) counts carried
        charges.time).1

/-- The links of a chain, up to each step: none is rejected because of a usage unless its position
went back, and the ledger stays sound. -/
theorem Sound.run {chain : Chain} (sound : Sound chain) {steps : List ChainStep}
    (valid : ValidReports steps) (ordered : (chain.instants steps).Pairwise NoLater) :
    Sound (chain.run true steps) ∧ ∀ earlier action sequence occurredAt later,
      steps = earlier ++ .account action sequence occurredAt :: later →
        ¬ WentBack (chain.run true earlier) sequence →
          FailsOnly OtherCause ((chain.run true earlier).account true action sequence
            occurredAt) := by
  induction steps generalizing chain with
  | nil => exact ⟨sound, by simp⟩
  | cons step rest hypothesis =>
    have first : ValidReports [step] := by
      intro delta member
      exact valid delta (by simpa using .inl (List.mem_singleton.mp member))
    have others : ValidReports rest :=
      fun delta member => valid delta (List.mem_cons_of_mem _ member)
    obtain ⟨held, fails⟩ := hypothesis (sound.next first) others (instants_next ordered)
    refine ⟨held, ?_⟩
    intro earlier action sequence occurredAt later split forward
    cases earlier with
    | nil =>
      obtain ⟨rfl, _⟩ := List.cons.inj split
      exact sound.fails action forward (instants_head ordered)
    | cons head tail =>
      obtain ⟨rfl, same⟩ := List.cons.inj split
      exact fails tail action sequence occurredAt later same forward

/-- Accounting conserves tokens and time: along every chain of steps at instants that do not go
back, over a usage that grows by valid reports, no step is rejected because of a usage unless its
position went back, the tokens charged are those accounted for, and the seconds charged for every
stretch of tracked time are its whole seconds, where a start opens a new stretch. -/
theorem chain_conserves {usage : RunUsage} {cursor : Option RunGoalAccountingCursor}
    {steps : List ChainStep} (begins : Begins usage cursor) (valid : ValidReports steps)
    (ordered : ((Chain.begin usage cursor).instants steps).Pairwise NoLater) :
    (∀ earlier action sequence occurredAt later,
      steps = earlier ++ .account action sequence occurredAt :: later →
        ¬ WentBack ((Chain.begin usage cursor).run true earlier) sequence →
          FailsOnly OtherCause (((Chain.begin usage cursor).run true earlier).account true action
            sequence occurredAt)) ∧
      Conserved ((Chain.begin usage cursor).run true steps) := by
  obtain ⟨sound, fails⟩ := begins.sound.run valid ordered
  exact ⟨fails, sound.conserved⟩

/-- The cursor of a run that was created for the sample goal. -/
def sampleCursor : RunGoalAccountingCursor where
  schemaVersion := runGoalAccountingSchema
  revision := 1
  policy := threadGoalAccountingPolicy
  throughRunSequence := 1
  accountedUsage := .zero
  timeBaselineAt := none
  attribution := some ⟨sampleBinding.goalId, sampleBinding.revision, sampleBinding.objectiveDigest⟩
  pendingSteering := none
  updatedAt := js "2026-01-01T00:00:00Z"

/-- A chain may begin with the sample cursor. -/
theorem begins_sample : Begins .zero (some sampleCursor) := by
  obtain ⟨_, checked⟩ := exists_of_isOk
    (by decide_cbv : (validateRunGoalAccountingCursor sampleCursor).isOk = true)
  refine ⟨zero_bounded, ?_, ?_⟩
  · rintro held ⟨rfl⟩
    exact validateRunGoalAccountingCursor_eq_ok.mp checked
  · rintro held ⟨rfl⟩
    exact ⟨.zero, zero_bounded, rfl⟩

/-- An interval of a second and a half, one of seven tenths of a second, and the end. -/
def sampleChain : List ChainStep :=
  [.account .start 2 (js "2026-01-01T00:00:00Z"),
    .report ⟨10, 4, 5, 15⟩,
    .account (.advance (some sampleBinding) none true) 3 (js "2026-01-01T00:00:01.5Z"),
    .account (.advance (some sampleBinding) none true) 4 (js "2026-01-01T00:00:02.2Z"),
    .report ⟨3, 3, 1, 4⟩,
    .account (.advance none none false) 5 (js "2026-01-01T00:00:02.9Z")]

/-- The sample chain charges two seconds and twelve tokens. -/
example : ((Chain.begin .zero (some sampleCursor)).run true sampleChain).charged = 12 ∧
    ((Chain.begin .zero (some sampleCursor)).run true sampleChain).past.map (·.seconds) = [2] := by
  decide_cbv

/-- The sample chain conserves tokens and time. -/
theorem chain_conserves_sample :
    Conserved ((Chain.begin .zero (some sampleCursor)).run true sampleChain) := by
  have valid : ValidReports sampleChain := by
    intro delta member
    have listed : delta = ⟨10, 4, 5, 15⟩ ∨ delta = ⟨3, 3, 1, 4⟩ := by
      simpa [sampleChain] using member
    cases listed with
    | inl first => exact validateUsage_eq_ok.mp (by rw [first]; rfl)
    | inr second => exact validateUsage_eq_ok.mp (by rw [second]; rfl)
  exact (chain_conserves begins_sample valid (by decide_cbv)).2

/-- A start, a second one a second and a half later, and a charge after two seconds. -/
def restartedChain : List ChainStep :=
  [.account .start 2 (js "2026-01-01T00:00:00Z"),
    .account .start 3 (js "2026-01-01T00:00:01.5Z"),
    .account (.advance (some sampleBinding) none true) 4 (js "2026-01-01T00:00:02Z")]

/-- A start inside a stretch of tracked time drops the seconds since the last charge: the stretch as
a whole is not charged for. -/
theorem chain_conserves_restarted :
    Begins .zero (some sampleCursor) ∧ ValidReports restartedChain ∧
      ((Chain.begin .zero (some sampleCursor)).instants restartedChain).Pairwise NoLater ∧
      ¬ Conserved ((Chain.begin .zero (some sampleCursor)).run false restartedChain) := by
  refine ⟨begins_sample, by simp [ValidReports, restartedChain], by decide_cbv, ?_⟩
  intro conserved
  have tracking : ((Chain.begin .zero (some sampleCursor)).run false restartedChain).tracking =
      some ⟨1767225600000, 1767225602000, 0⟩ := by decide_cbv
  have exact := conserved.time ⟨1767225600000, 1767225602000, 0⟩ (by simp [tracking])
  simp [Interval.Exact] at exact

end Crewon.Verif.GoalCharging
