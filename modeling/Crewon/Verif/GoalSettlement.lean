import Crewon.Verif.GoalCharging

/-!
# The settlement of goals

A goal is charged while its run works, at the end of a tool call and when the run ends. Each time it
keeps its objective and its budget, its usage only grows, and it stops being active once its budget
is used up. A new revision is counted with every change, except while the run works: there the
caller counts it.
-/

namespace Crewon.Verif.GoalSettlement

open Crewon.Js Crewon.Checked Crewon.Domain
open Crewon.Verif.GoalDelta Crewon.Verif.GoalCursor

/-- A delta is what is computed for some cursor. -/
def AccountingDelta (delta : RunGoalAccountingDelta) : Prop :=
  ∃ cursor usage sequence occurredAt,
    computeRunGoalAccountingDelta cursor usage sequence occurredAt = .ok delta

/-- What a settlement keeps, what only grows, and that the goal stays valid. -/
structure Keeps (goal settled : ThreadGoal) : Prop where
  goalId : settled.goalId = goal.goalId
  createdAt : settled.createdAt = goal.createdAt
  objective : settled.objective = goal.objective
  tokenBudget : settled.tokenBudget = goal.tokenBudget
  tokensUsed : goal.tokensUsed ≤ settled.tokensUsed
  timeUsedSeconds : goal.timeUsedSeconds ≤ settled.timeUsedSeconds
  valid : validateThreadGoal settled = .ok ()

/-- The revision goes up by one when something else changes, and not at all otherwise. -/
def CountsRevision (goal settled : ThreadGoal) : Prop :=
  settled = goal ∨ (settled.revision = goal.revision + 1 ∧
    settled ≠ { goal with revision := goal.revision + 1 })

/-- A goal that is active has tokens left. -/
def WithinBudget (goal : ThreadGoal) : Prop :=
  goal.status = .active → ∀ budget, goal.tokenBudget = some budget → goal.tokensUsed < budget

/-- The law of a settlement that charges the goal or leaves it alone: it keeps the goal and counts
the revision; a goal that is charged and stays active has tokens left. -/
structure Lawful (charges : Prop) (goal settled : ThreadGoal) : Prop where
  keeps : Keeps goal settled
  revision : CountsRevision goal settled
  within : charges → WithinBudget settled
  untouched : ¬ charges → settled = goal

/-- A run charges the goal that its cursor names. -/
def ChargesByCursor (run : RunState) : Prop :=
  ∃ cursor, run.goalAccounting = some cursor ∧ cursor.attribution ≠ none

/-- A run charges the goal revision that it is bound to. -/
def ChargesByBinding (run : RunState) (goal : ThreadGoal) : Prop :=
  run.collaborationMode ≠ .plan ∧ ∃ binding, run.goalBinding = some binding ∧
    binding.goalId = goal.goalId ∧ binding.revision = goal.revision

/-- The checks of a goal, one by one. -/
structure ValidGoal (goal : ThreadGoal) : Prop where
  schemaVersion : goal.schemaVersion = js "crewon.thread-goal.v0"
  tenantId : requireBoundedNonEmpty goal.tenantId 256
    (threadGoalError "goal_tenant_id_invalid") = .ok ()
  threadId : requireBoundedNonEmpty goal.threadId 512
    (threadGoalError "goal_thread_id_invalid") = .ok ()
  goalId : requireBoundedNonEmpty goal.goalId 512 (threadGoalError "goal_id_invalid") = .ok ()
  revision : 1 ≤ goal.revision ∧ goal.revision ≤ maxSafeInteger
  objective : validateThreadGoalObjective goal.objective = .ok ()
  tokenBudget : (whenPresent goal.tokenBudget fun budget =>
    requirePositiveInteger budget (threadGoalError "goal_token_budget_invalid")) = .ok ()
  tokensUsed : 0 ≤ goal.tokensUsed ∧ goal.tokensUsed ≤ maxSafeInteger
  timeUsedSeconds : 0 ≤ goal.timeUsedSeconds ∧ goal.timeUsedSeconds ≤ maxSafeInteger
  ordered : NoLater goal.createdAt goal.updatedAt

/-- A goal passes its checks exactly when it is valid. -/
theorem validateThreadGoal_eq_ok {goal : ThreadGoal} :
    validateThreadGoal goal = .ok () ↔ ValidGoal goal := by
  simp only [validateThreadGoal, bind_eq_ok, exists_unit, rejectIf_eq_ok, not_not,
    requirePositiveInteger_eq_ok, requireNonNegativeInteger_eq_ok, requireTimestamp_eq_ok,
    Bool.not_eq_true]
  constructor
  · rintro ⟨schema, tenant, thread, goalId, revision, objective, budget, tokens, time, created,
      updated, ordered⟩
    exact ⟨schema, tenant, thread, goalId, revision, objective, budget, tokens, time,
      noLater_iff.mpr ⟨created, updated, ordered⟩⟩
  · rintro ⟨schema, tenant, thread, goalId, revision, objective, budget, tokens, time, ordered⟩
    obtain ⟨created, updated, ordered⟩ := noLater_iff.mp ordered
    exact ⟨schema, tenant, thread, goalId, revision, objective, budget, tokens, time, created,
      updated, ordered⟩

/-- A delta charges no negative amount. -/
theorem AccountingDelta.nonneg {delta : RunGoalAccountingDelta} (computed : AccountingDelta delta) :
    0 ≤ delta.tokenDelta ∧ 0 ≤ delta.timeDeltaSeconds := by
  obtain ⟨cursor, usage, sequence, occurredAt, computed⟩ := computed
  have ready := computeRunGoalAccountingDelta_ready.mp ⟨delta, computed⟩
  have charges := computeRunGoalAccountingDelta_charges computed
  refine ⟨?_, ?_⟩
  · obtain ⟨_, _, output, _⟩ := ready.ordered
    have within := ready.within
    rw [charges.tokenDelta]
    simp only [chargeable, CachedWithin] at *
    omega
  · have time := charges.time
    generalize delta.timeDeltaSeconds = seconds at time ⊢
    generalize delta.nextTimeBaselineAt = baseline at time
    cases time with
    | counted => omega
    | idle => exact le_rfl

/-- The tokens of a goal reach its budget. -/
def reached (goal : ThreadGoal) (tokensUsed : Int) : Bool :=
  goal.tokenBudget.any fun budget => budget ≤ tokensUsed

/-- A goal charged with an interval. -/
structure Progressed (goal : ThreadGoal) (delta : RunGoalAccountingDelta) (occurredAt : JsString)
    (charged : ThreadGoal) : Prop where
  running : goal.status = .active ∨ goal.status = .budgetLimited
  inTime : isTimestamp occurredAt = true ∧ isEarlier occurredAt goal.updatedAt = false
  tokensUsed : charged.tokensUsed = goal.tokensUsed + delta.tokenDelta
  tokensSafe : charged.tokensUsed ≤ maxSafeInteger
  timeUsedSeconds : charged.timeUsedSeconds = goal.timeUsedSeconds + delta.timeDeltaSeconds
  timeSafe : charged.timeUsedSeconds ≤ maxSafeInteger
  status : charged.status =
    if goal.status = .active ∧ reached goal charged.tokensUsed = true then .budgetLimited
    else goal.status
  shape : charged = goal ∨ charged = { goal with
    status := charged.status
    tokensUsed := charged.tokensUsed
    timeUsedSeconds := charged.timeUsedSeconds
    updatedAt := occurredAt }
  changed : charged = goal ∨ charged.tokensUsed ≠ goal.tokensUsed ∨
    charged.timeUsedSeconds ≠ goal.timeUsedSeconds ∨ charged.status ≠ goal.status

/-- A goal that is charged through an attribution is charged with the interval. -/
theorem accountThreadGoalProgress_charges {goal : ThreadGoal} {cursor : RunGoalAccountingCursor}
    {delta : RunGoalAccountingDelta} {occurredAt : JsString} {after : Option ThreadGoal}
    (attributed : cursor.attribution ≠ none)
    (accounted : accountThreadGoalProgress (some goal) cursor delta occurredAt = .ok after) :
    ∃ charged, after = some charged ∧ Progressed goal delta occurredAt charged := by
  obtain ⟨attribution, named⟩ := Option.ne_none_iff_exists'.mp attributed
  simp only [accountThreadGoalProgress, bind_eq_ok, exists_unit, rejectIf_eq_ok, not_or, not_and,
    requireTimestamp_eq_ok, named, addSafeIntegers_eq_ok, Bool.not_eq_true, not_not]
    at accounted
  obtain ⟨_, timestamp, _, running, inTime, _, ⟨rfl, _, tokensSafe⟩, _, ⟨rfl, _, timeSafe⟩,
    accounted⟩ := accounted
  have running' : goal.status = .active ∨ goal.status = .budgetLimited := by
    by_cases active : goal.status = .active
    · exact .inl active
    · exact .inr (running active)
  generalize statusIs : (if goal.status = .active ∧
      (goal.tokenBudget.any fun budget => budget ≤ goal.tokensUsed + delta.tokenDelta) = true
    then ThreadGoalStatus.budgetLimited else goal.status) = status at accounted
  split at accounted
  case isTrue same =>
    obtain ⟨tokens, time, rfl⟩ := same
    obtain rfl := Except.ok.inj accounted
    refine ⟨goal, rfl, running', ⟨timestamp, inTime⟩, tokens.symm, tokens ▸ tokensSafe, time.symm,
      time ▸ timeSafe, ?_, .inl rfl, .inl rfl⟩
    rw [tokens] at statusIs
    exact statusIs.symm
  case isFalse different =>
    obtain rfl := Except.ok.inj accounted
    refine ⟨_, rfl, running', ⟨timestamp, inTime⟩, rfl, tokensSafe, rfl, timeSafe, statusIs.symm,
      .inr rfl, .inr ?_⟩
    by_contra same
    simp only [not_or, ne_eq, not_not] at same
    exact different same

/-- A valid goal stays valid with another revision, another status and a later instant. -/
theorem ValidGoal.revised {goal : ThreadGoal} (valid : ValidGoal goal) {revision : Int}
    (safe : 1 ≤ revision ∧ revision ≤ maxSafeInteger) (status : ThreadGoalStatus)
    {updatedAt : JsString} (ordered : NoLater goal.createdAt updatedAt) :
    ValidGoal { goal with revision := revision, status := status, updatedAt := updatedAt } :=
  ⟨valid.schemaVersion, valid.tenantId, valid.threadId, valid.goalId, safe, valid.objective,
    valid.tokenBudget, valid.tokensUsed, valid.timeUsedSeconds, ordered⟩

/-- What is kept stays kept with another revision, another status and a later instant. -/
theorem Keeps.revised {goal charged : ThreadGoal} (keeps : Keeps goal charged) {revision : Int}
    (safe : 1 ≤ revision ∧ revision ≤ maxSafeInteger) (status : ThreadGoalStatus)
    {updatedAt : JsString} (ordered : NoLater goal.createdAt updatedAt) :
    Keeps goal { charged with revision := revision, status := status, updatedAt := updatedAt } := by
  have valid := validateThreadGoal_eq_ok.mp keeps.valid
  refine ⟨keeps.goalId, keeps.createdAt, keeps.objective, keeps.tokenBudget, keeps.tokensUsed,
    keeps.timeUsedSeconds, validateThreadGoal_eq_ok.mpr (valid.revised safe status ?_)⟩
  rw [keeps.createdAt]
  exact ordered

/-- A valid goal keeps everything of itself. -/
theorem Keeps.refl {goal : ThreadGoal} (valid : ValidGoal goal) : Keeps goal goal :=
  ⟨rfl, rfl, rfl, rfl, le_rfl, le_rfl, validateThreadGoal_eq_ok.mpr valid⟩

/-- The instant of a charge is not before the goal was created. -/
theorem createdAt_noLater {goal : ThreadGoal} (valid : ValidGoal goal) {occurredAt : JsString}
    (inTime : isTimestamp occurredAt = true ∧ isEarlier occurredAt goal.updatedAt = false) :
    NoLater goal.createdAt occurredAt := by
  have updated := (noLater_iff.mp valid.ordered).2.1
  exact valid.ordered.trans (noLater_iff.mpr ⟨updated, inTime.1, inTime.2⟩)

variable {goal charged : ThreadGoal} {delta : RunGoalAccountingDelta} {occurredAt : JsString}

/-- Charging an interval keeps the goal. -/
theorem Progressed.keeps (progressed : Progressed goal delta occurredAt charged)
    (valid : ValidGoal goal) (computed : AccountingDelta delta) : Keeps goal charged := by
  obtain ⟨tokens, time⟩ := computed.nonneg
  have tokensUsed := progressed.tokensUsed
  have timeUsed := progressed.timeUsedSeconds
  rcases progressed.shape with rfl | shape
  · exact Keeps.refl valid
  · have tokensNonneg : 0 ≤ charged.tokensUsed := by
      have before := valid.tokensUsed.1
      omega
    have timeNonneg : 0 ≤ charged.timeUsedSeconds := by
      have before := valid.timeUsedSeconds.1
      omega
    have charged' : ValidGoal charged := by
      rw [shape]
      exact ⟨valid.schemaVersion, valid.tenantId, valid.threadId, valid.goalId, valid.revision,
        valid.objective, valid.tokenBudget, ⟨tokensNonneg, progressed.tokensSafe⟩,
        ⟨timeNonneg, progressed.timeSafe⟩, createdAt_noLater valid progressed.inTime⟩
    refine ⟨?_, ?_, ?_, ?_, by omega, by omega, validateThreadGoal_eq_ok.mpr charged'⟩
    all_goals rw [shape]

/-- Charging an interval keeps the revision. -/
theorem Progressed.revision (progressed : Progressed goal delta occurredAt charged) :
    charged.revision = goal.revision := by
  rcases progressed.shape with rfl | shape
  · rfl
  · rw [shape]

/-- After a charge an active goal has tokens left. -/
theorem Progressed.within (progressed : Progressed goal delta occurredAt charged)
    (budgetKept : charged.tokenBudget = goal.tokenBudget) : WithinBudget charged := by
  intro active budget named
  by_contra used
  have status := progressed.status
  rw [budgetKept] at named
  have reaches : reached goal charged.tokensUsed = true := by
    rw [reached, named]
    simpa using used
  rcases progressed.running with running | running
  · rw [if_pos ⟨running, reaches⟩, active] at status
    cases status
  · rw [if_neg (by simp [running]), active, running] at status
    cases status

/-- The law of a charge while the run works: the caller counts the revision. -/
theorem accountThreadGoalProgress_law (valid : ValidGoal goal) (computed : AccountingDelta delta)
    {cursor : RunGoalAccountingCursor} {after : Option ThreadGoal}
    (accounted : accountThreadGoalProgress (some goal) cursor delta occurredAt = .ok after) :
    ∃ settled, after = some settled ∧ Keeps goal settled ∧ settled.revision = goal.revision ∧
      (cursor.attribution ≠ none → WithinBudget settled) ∧
      (cursor.attribution = none → settled = goal) := by
  by_cases attributed : cursor.attribution = none
  · simp only [accountThreadGoalProgress, attributed, bind_eq_ok, exists_unit, pure_eq_ok]
      at accounted
    exact ⟨goal, accounted.2.2.symm, Keeps.refl valid, rfl, absurd attributed, fun _ => rfl⟩
  · obtain ⟨charged, rfl, progressed⟩ := accountThreadGoalProgress_charges attributed accounted
    have keeps := progressed.keeps valid computed
    exact ⟨charged, rfl, keeps, progressed.revision,
      fun _ => progressed.within keeps.tokenBudget, fun none => absurd none attributed⟩

/-- A goal that is left alone is lawful. -/
theorem Lawful.still {charges : Prop} (valid : ValidGoal goal) (still : ¬ charges) :
    Lawful charges goal goal :=
  ⟨Keeps.refl valid, .inl rfl, fun charging => absurd charging still, fun _ => rfl⟩

/-- A charge with its revision counted is lawful. -/
theorem Progressed.counted {charges : Prop} (progressed : Progressed goal delta occurredAt charged)
    (valid : ValidGoal goal) (computed : AccountingDelta delta) (charging : charges)
    (changed : charged ≠ goal) (room : goal.revision + 1 ≤ maxSafeInteger) :
    Lawful charges goal { charged with revision := goal.revision + 1 } := by
  have keeps := progressed.keeps valid computed
  have within := progressed.within keeps.tokenBudget
  have positive := valid.revision.1
  have valid' := validateThreadGoal_eq_ok.mp keeps.valid
  have ordered : NoLater goal.createdAt charged.updatedAt := keeps.createdAt ▸ valid'.ordered
  refine ⟨keeps.revised ⟨by omega, room⟩ charged.status ordered, .inr ⟨rfl, ?_⟩,
    fun _ => within, fun still => absurd charging still⟩
  intro same
  simp only [ThreadGoal.mk.injEq] at same
  obtain ⟨_, _, _, _, _, _, status, _, tokens, time, _⟩ := same
  rcases progressed.changed with still | more | later | other
  · exact changed still
  · exact more tokens
  · exact later time
  · exact other status

/-- The law of a charge at the end of a tool call. -/
theorem accountThreadGoalAtToolBoundary_law (valid : ValidGoal goal) {run : RunState}
    {accounting : ThreadGoalToolBoundaryAccounting}
    (accounted : accountThreadGoalAtToolBoundary (some goal) run occurredAt = .ok accounting) :
    ∃ settled, accounting.goalState = some settled ∧
      Lawful (run.collaborationMode ≠ .plan ∧ ChargesByCursor run) goal settled := by
  unfold accountThreadGoalAtToolBoundary at accounted
  cases held : run.goalAccounting with
  | none =>
    rw [held] at accounted
    obtain rfl := Except.ok.inj accounted
    exact ⟨goal, rfl, .still valid (by simp [ChargesByCursor, held])⟩
  | some cursor =>
    simp only [held] at accounted
    split at accounted
    case isTrue idle =>
      obtain rfl := Except.ok.inj accounted
      refine ⟨goal, rfl, .still valid ?_⟩
      rintro ⟨notPlan, found, same, attributed⟩
      obtain rfl := Option.some.inj (held.symm.trans same)
      exact idle.elim notPlan attributed
    case isFalse charges =>
      obtain ⟨notPlan, attributed⟩ := not_or.mp charges
      have charging : run.collaborationMode ≠ .plan ∧ ChargesByCursor run :=
        ⟨notPlan, cursor, held, attributed⟩
      simp only [bind_eq_ok, exists_unit, rejectIf_eq_ok] at accounted
      obtain ⟨_, delta, computed, after, progress, accounted⟩ := accounted
      obtain ⟨charged, rfl, progressed⟩ := accountThreadGoalProgress_charges attributed progress
      have fromCursor : AccountingDelta delta := ⟨cursor, _, _, _, computed⟩
      have keeps := progressed.keeps valid fromCursor
      split at accounted
      case isTrue same =>
        obtain rfl := Except.ok.inj accounted
        obtain rfl := Option.some.inj same
        exact ⟨charged, rfl, keeps, .inl rfl, fun _ => progressed.within keeps.tokenBudget,
          fun still => absurd charging still⟩
      case isFalse different =>
        simp only [bind_eq_ok, incrementSafeInteger, addSafeIntegers_eq_ok, pure_eq_ok] at accounted
        obtain ⟨_, ⟨rfl, _, room⟩, rfl⟩ := accounted
        exact ⟨_, rfl, progressed.counted valid fromCursor charging
          (fun same => different (congrArg some same)) room⟩

/-- The law of a charge when a run with a cursor ends. -/
theorem settleThreadGoalFromAccounting_law (valid : ValidGoal goal) {run : RunState}
    {outcome : GoalRunTerminalOutcome} {after : Option ThreadGoal}
    (settled : settleThreadGoalFromAccounting (some goal) run outcome occurredAt = .ok after) :
    ∃ found, after = some found ∧ Lawful (ChargesByCursor run) goal found := by
  unfold settleThreadGoalFromAccounting at settled
  cases held : run.goalAccounting with
  | none =>
    rw [held] at settled
    obtain rfl := Except.ok.inj settled
    exact ⟨goal, rfl, .still valid (by simp [ChargesByCursor, held])⟩
  | some cursor =>
    simp only [held] at settled
    split at settled
    case isTrue idle =>
      obtain rfl := Except.ok.inj settled
      refine ⟨goal, rfl, .still valid ?_⟩
      rintro ⟨found, same, attributed⟩
      obtain rfl := Option.some.inj (held.symm.trans same)
      exact attributed idle
    case isFalse attributed =>
      have charging : ChargesByCursor run := ⟨cursor, held, attributed⟩
      simp only [bind_eq_ok] at settled
      obtain ⟨delta, computed, after, progress, settled⟩ := settled
      obtain ⟨charged, rfl, progressed⟩ := accountThreadGoalProgress_charges attributed progress
      have fromCursor : AccountingDelta delta := ⟨cursor, _, _, _, computed⟩
      have keeps := progressed.keeps valid fromCursor
      have within := progressed.within keeps.tokenBudget
      have ordered := createdAt_noLater valid progressed.inTime
      have positive := valid.revision.1
      dsimp only at settled
      generalize statusIs : (if outcome.usageLimited = true then ThreadGoalStatus.usageLimited
        else if charged.status = .budgetLimited then .budgetLimited
        else if outcome.isFailed = true then .blocked else .active) = status at settled
      -- a goal that stays active was active after the charge
      have active (same : status = .active) : charged.status = .active := by
        rw [same] at statusIs
        have running : charged.status = .active ∨ charged.status = .budgetLimited := by
          rw [progressed.status]
          split
          · exact .inr rfl
          · exact progressed.running
        refine running.resolve_right fun limited => ?_
        rw [if_pos limited] at statusIs
        split at statusIs <;> cases statusIs
      split at settled
      case isTrue same =>
        obtain ⟨rfl, _⟩ := same
        obtain rfl := Except.ok.inj settled
        exact ⟨charged, rfl, keeps, .inl rfl, fun _ => within, fun still => absurd charging still⟩
      case isFalse different =>
        simp only [bind_eq_ok, incrementSafeInteger, addSafeIntegers_eq_ok, pure_eq_ok] at settled
        obtain ⟨_, ⟨rfl, _, room⟩, rfl⟩ := settled
        refine ⟨_, rfl, keeps.revised ⟨by omega, room⟩ status ordered, .inr ⟨rfl, ?_⟩,
          fun _ stays => within (active stays), fun still => absurd charging still⟩
        intro same
        simp only [ThreadGoal.mk.injEq] at same
        obtain ⟨_, _, _, _, _, _, sameStatus, _, tokens, time, _⟩ := same
        rcases progressed.changed with still | more | later | other
        · exact different ⟨still, sameStatus⟩
        · exact more tokens
        · exact later time
        · have limited := progressed.status
          split at limited
          case isTrue crossed =>
            rw [active (sameStatus.trans crossed.1)] at limited
            cases limited
          case isFalse => exact other limited

/-- No usage charges a negative number of tokens. -/
theorem threadGoalChargedTokens_nonneg {usage : RunUsage} {tokens : Int}
    (priced : threadGoalChargedTokens usage = .ok tokens) : 0 ≤ tokens := by
  simp only [threadGoalChargedTokens, bind_eq_ok, exists_unit, addSafeIntegers_eq_ok] at priced
  exact priced.2.2.1

/-- The law of a charge when a run without a cursor ends. -/
theorem settleThreadGoalForRun_law (valid : ValidGoal goal) {run : RunState}
    {outcome : GoalRunTerminalOutcome} {after : Option ThreadGoal}
    (settled : settleThreadGoalForRun (some goal) run outcome occurredAt = .ok after) :
    ∃ found, after = some found ∧ Lawful (ChargesByBinding run goal) goal found := by
  unfold settleThreadGoalForRun at settled
  cases bound : run.goalBinding with
  | none =>
    simp only [bound] at settled
    obtain rfl := Except.ok.inj settled
    exact ⟨goal, rfl, .still valid (by simp [ChargesByBinding, bound])⟩
  | some binding =>
    simp only [bound] at settled
    split at settled
    case isTrue other =>
      obtain rfl := Except.ok.inj settled
      refine ⟨goal, rfl, .still valid ?_⟩
      rintro ⟨notPlan, found, same, goalId, revision⟩
      obtain rfl := Option.some.inj (bound.symm.trans same)
      exact other.elim notPlan fun rest => rest.elim (absurd goalId) (absurd revision)
    case isFalse names =>
      have charging : ChargesByBinding run goal := by
        simp only [not_or, not_not] at names
        exact ⟨names.1, binding, bound, names.2.1, names.2.2⟩
      have stays (still : ¬ ChargesByBinding run goal) {found : ThreadGoal} : found = goal :=
        absurd charging still
      have positive := valid.revision.1
      simp only [bind_eq_ok, exists_unit, rejectIf_eq_ok, requireTimestamp_eq_ok,
        Bool.not_eq_true] at settled
      obtain ⟨timestamp, inTime, settled⟩ := settled
      have ordered := createdAt_noLater valid ⟨timestamp, inTime⟩
      split at settled
      case isTrue stopped =>
        have within {found : ThreadGoal} (status : found.status ≠ .active) : WithinBudget found :=
          fun active => absurd active status
        split at settled
        case isTrue =>
          obtain rfl := Except.ok.inj settled
          exact ⟨goal, rfl, Keeps.refl valid, .inl rfl, fun _ => within stopped,
            fun still => stays still⟩
        case isFalse limited =>
          simp only [bind_eq_ok, incrementSafeInteger, addSafeIntegers_eq_ok, pure_eq_ok]
            at settled
          obtain ⟨_, ⟨rfl, _, room⟩, rfl⟩ := settled
          refine ⟨_, rfl, (Keeps.refl valid).revised ⟨by omega, room⟩ _ ordered, .inr ⟨rfl, ?_⟩,
            fun _ => within (by simp), fun still => stays still⟩
          intro same
          simp only [ThreadGoal.mk.injEq] at same
          have status := same.2.2.2.2.2.2.1
          simp [← status] at limited
      case isFalse active =>
        rw [not_not] at active
        simp only [bind_eq_ok, addSafeIntegers_eq_ok] at settled
        obtain ⟨chargedTokens, priced, _, ⟨rfl, tokensNonneg, tokensSafe⟩, _,
          ⟨rfl, timeNonneg, timeSafe⟩, settled⟩ := settled
        have tokens := threadGoalChargedTokens_nonneg priced
        have time : 0 ≤ max 0 (elapsedMillis run.createdAt occurredAt / 1000) := le_max_left _ _
        generalize max 0 (elapsedMillis run.createdAt occurredAt / 1000) = seconds at *
        generalize statusIs : (if outcome.usageLimited = true then ThreadGoalStatus.usageLimited
          else if (goal.tokenBudget.any fun budget =>
            budget ≤ goal.tokensUsed + chargedTokens) = true then .budgetLimited
          else if outcome.isFailed = true then .blocked else .active) = status at settled
        -- a goal that stays active has not reached its budget
        have left (same : status = .active) (budget : Int)
            (named : goal.tokenBudget = some budget) :
            goal.tokensUsed + chargedTokens < budget := by
          by_contra used
          rw [same, named] at statusIs
          simp only [Option.any_some, decide_eq_true_eq, not_lt.mp used, ↓reduceIte] at statusIs
          split at statusIs <;> cases statusIs
        split at settled
        case isTrue same =>
          obtain ⟨rfl, rfl, sameStatus⟩ := same
          obtain rfl := Except.ok.inj settled
          refine ⟨goal, rfl, Keeps.refl valid, .inl rfl, fun _ _ budget named => ?_,
            fun still => stays still⟩
          have room := left (sameStatus.trans active) budget named
          omega
        case isFalse different =>
          simp only [bind_eq_ok, incrementSafeInteger, addSafeIntegers_eq_ok, pure_eq_ok]
            at settled
          obtain ⟨_, ⟨rfl, _, room⟩, rfl⟩ := settled
          have valid' : ValidGoal { goal with
              tokensUsed := goal.tokensUsed + chargedTokens
              timeUsedSeconds := goal.timeUsedSeconds + seconds } :=
            ⟨valid.schemaVersion, valid.tenantId, valid.threadId, valid.goalId, valid.revision,
              valid.objective, valid.tokenBudget, ⟨tokensNonneg, tokensSafe⟩,
              ⟨timeNonneg, timeSafe⟩, valid.ordered⟩
          have keeps : Keeps goal { goal with
              tokensUsed := goal.tokensUsed + chargedTokens
              timeUsedSeconds := goal.timeUsedSeconds + seconds } :=
            ⟨rfl, rfl, rfl, rfl, by simpa using tokens, by simpa using time,
              validateThreadGoal_eq_ok.mpr valid'⟩
          refine ⟨_, rfl, keeps.revised ⟨by omega, room⟩ status ordered, .inr ⟨rfl, ?_⟩,
            fun _ stays => left stays, fun still => stays still⟩
          intro same
          simp only [ThreadGoal.mk.injEq] at same
          obtain ⟨_, _, _, _, _, _, sameStatus, _, sameTokens, sameTime, _⟩ := same
          exact different ⟨by omega, by omega, sameStatus⟩

/-- Every settlement of a valid goal keeps its identity, its objective and its budget, lets its
usage only grow and returns a valid goal. A charge while the run works keeps the revision as well;
at the end of a tool call and of the run the revision goes up by one exactly when something else
changes. A goal that is charged and stays active has tokens left, a goal that is not charged is left
alone. -/
theorem settlement_law (valid : validateThreadGoal goal = .ok ()) (run : RunState)
    (outcome : GoalRunTerminalOutcome) (occurredAt : JsString) :
    (∀ cursor delta after, AccountingDelta delta →
      accountThreadGoalProgress (some goal) cursor delta occurredAt = .ok after →
        ∃ settled, after = some settled ∧ Keeps goal settled ∧
          settled.revision = goal.revision ∧
          (cursor.attribution ≠ none → WithinBudget settled) ∧
          (cursor.attribution = none → settled = goal)) ∧
    (∀ accounting, accountThreadGoalAtToolBoundary (some goal) run occurredAt = .ok accounting →
      ∃ settled, accounting.goalState = some settled ∧
        Lawful (run.collaborationMode ≠ .plan ∧ ChargesByCursor run) goal settled) ∧
    (∀ after, settleThreadGoalFromAccounting (some goal) run outcome occurredAt = .ok after →
      ∃ settled, after = some settled ∧ Lawful (ChargesByCursor run) goal settled) ∧
    ∀ after, settleThreadGoalForRun (some goal) run outcome occurredAt = .ok after →
      ∃ settled, after = some settled ∧ Lawful (ChargesByBinding run goal) goal settled := by
  have valid' := validateThreadGoal_eq_ok.mp valid
  exact ⟨fun _ _ _ computed accounted => accountThreadGoalProgress_law valid' computed accounted,
    fun _ accounted => accountThreadGoalAtToolBoundary_law valid' accounted,
    fun _ settled => settleThreadGoalFromAccounting_law valid' settled,
    fun _ settled => settleThreadGoalForRun_law valid' settled⟩

/-- An active goal with a budget of twelve tokens. -/
def sampleGoal : ThreadGoal where
  schemaVersion := js "crewon.thread-goal.v0"
  tenantId := js "t"
  threadId := js "h"
  goalId := sampleBinding.goalId
  revision := sampleBinding.revision
  objective := js "o"
  status := .active
  tokenBudget := some 12
  tokensUsed := 0
  timeUsedSeconds := 0
  createdAt := js "2026-01-01T00:00:00Z"
  updatedAt := js "2026-01-01T00:00:00Z"

/-- Eleven tokens since the sample cursor. -/
def sampleDelta : RunGoalAccountingDelta := ⟨2, ⟨10, 4, 5, 15⟩, 11, 0, none⟩

/-- The sample goal is valid, and the sample delta is computed for the sample cursor. -/
theorem sampleGoal_valid : validateThreadGoal sampleGoal = .ok () ∧
    computeRunGoalAccountingDelta GoalCharging.sampleCursor ⟨10, 4, 5, 15⟩ 2
      (js "2026-01-01T00:00:00Z") = .ok sampleDelta := by
  decide_cbv

/-- The sample goal is charged with eleven tokens under its old revision. -/
theorem sampleGoal_charged : accountThreadGoalProgress (some sampleGoal) GoalCharging.sampleCursor
    sampleDelta (js "2026-01-01T00:00:00Z") = .ok (some { sampleGoal with tokensUsed := 11 }) := by
  decide_cbv

/-- A run that is bound to the sample goal. -/
def sampleRun : RunState where
  runId := js "r"
  threadId := js "h"
  tenantId := js "t"
  spaceId := js "s"
  createdByActorId := js "a"
  authorityId := js "u"
  runtimeGeneration := js "g"
  agentVersionId := js "v"
  policySnapshotId := js "p"
  workspaceBindingId := none
  workflowVersionBinding := none
  collaborationMode := .default
  toolPermissionMode := none
  purpose := none
  origin := none
  goalBinding := some sampleBinding
  goalContinuationMode := none
  goalAccounting := none
  plan := none
  usage := ⟨10, 4, 5, 15⟩
  status := .running
  revision := 1
  lastSequence := 2
  cancelRequested := false
  waitingApproval := none
  suspensionReasonCode := none
  reconciliationReceiptId := none
  outputRef := none
  failure := none
  createdAt := js "2026-01-01T00:00:00Z"
  updatedAt := js "2026-01-01T00:00:00Z"
  terminalAt := none

/-- The end of the sample run charges its tokens under the next revision. -/
theorem sampleRun_settles : settleThreadGoalForRun (some sampleGoal) sampleRun .completed
    (js "2026-01-01T00:00:00Z") =
      .ok (some { sampleGoal with revision := 2, tokensUsed := 11 }) := by
  decide_cbv

theorem settlement_law_sample :
    (∃ settled, some { sampleGoal with tokensUsed := 11 } = some settled ∧
      Keeps sampleGoal settled) ∧
    ∃ settled, some { sampleGoal with revision := 2, tokensUsed := 11 } = some settled ∧
      Lawful (ChargesByBinding sampleRun sampleGoal) sampleGoal settled := by
  have law := settlement_law sampleGoal_valid.1 sampleRun .completed (js "2026-01-01T00:00:00Z")
  obtain ⟨settled, same, keeps, _⟩ :=
    law.1 _ _ _ ⟨_, _, _, _, sampleGoal_valid.2⟩ sampleGoal_charged
  exact ⟨⟨settled, same, keeps⟩, law.2.2.2 _ sampleRun_settles⟩

/-- A goal that is charged while the run works keeps its revision, and a goal whose budget is used
up stays active as long as no run charges it. -/
theorem revision_is_kept :
    (∃ settled, accountThreadGoalProgress (some sampleGoal) GoalCharging.sampleCursor sampleDelta
        (js "2026-01-01T00:00:00Z") = .ok (some settled) ∧ settled ≠ sampleGoal ∧
        settled.revision = sampleGoal.revision) ∧
    accountThreadGoalProgress (some { sampleGoal with tokensUsed := 12 })
      { GoalCharging.sampleCursor with attribution := none } sampleDelta
      (js "2026-01-01T00:00:00Z") = .ok (some { sampleGoal with tokensUsed := 12 }) := by
  refine ⟨⟨_, sampleGoal_charged, ?_, rfl⟩, ?_⟩
  · intro same
    have tokens := congrArg ThreadGoal.tokensUsed same
    simp [sampleGoal] at tokens
  · decide_cbv

end Crewon.Verif.GoalSettlement
