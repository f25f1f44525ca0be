import Crewon.Domain.RunEvent

/-!
# Charging a run to its goal

A run charges its goal at the end of a tool call and when it ends. A run with an accounting cursor
charges the interval since the cursor, a run without one charges its whole usage.
-/

namespace Crewon.Domain

open Crewon.Js Crewon.Checked

/-- How a run ended. -/
inductive GoalRunTerminalOutcome where
  | completed
  | canceled
  | failed (code : JsString)
deriving DecidableEq

/-- The run ended because the provider's usage limit was reached. -/
def GoalRunTerminalOutcome.usageLimited : GoalRunTerminalOutcome → Bool
  | .failed code => code = js "responses_usage_limit_reached"
  | _ => false

/-- The run failed. -/
def GoalRunTerminalOutcome.isFailed : GoalRunTerminalOutcome → Bool
  | .failed _ => true
  | _ => false

/-- The milliseconds between two instants. Both texts were checked before. -/
def elapsedMillis (since occurredAt : JsString) : Int :=
  (dateParse occurredAt).getD 0 - (dateParse since).getD 0

/-- Charge a goal with a run that has no accounting cursor. -/
def settleThreadGoalForRun (current : Option ThreadGoal) (run : RunState)
    (outcome : GoalRunTerminalOutcome) (occurredAt : JsString) : Checked (Option ThreadGoal) :=
  match current, run.goalBinding with
  | some goal, some binding =>
    if run.collaborationMode = .plan ∨ binding.goalId ≠ goal.goalId ∨
        binding.revision ≠ goal.revision then .ok current
    else do
      requireTimestamp occurredAt (threadGoalError "goal_updated_at_invalid")
      rejectIf (isEarlier occurredAt goal.updatedAt = true)
        (threadGoalError "goal_timestamp_order_invalid")
      if goal.status ≠ .active then
        if goal.status ≠ .budgetLimited ∨ outcome.usageLimited = false then return current
        let revision ← incrementSafeInteger goal.revision
          (threadGoalError "goal_revision_overflow")
        return some { goal with
          revision := revision
          status := .usageLimited
          updatedAt := occurredAt }
      let timeDeltaSeconds := max 0 (elapsedMillis run.createdAt occurredAt / 1000)
      let chargedTokens ← threadGoalChargedTokens run.usage
      let tokensUsed ← addSafeIntegers goal.tokensUsed chargedTokens
        (threadGoalError "goal_tokens_used_overflow")
      let timeUsedSeconds ← addSafeIntegers goal.timeUsedSeconds timeDeltaSeconds
        (threadGoalError "goal_time_used_seconds_overflow")
      let budgetLimited := goal.tokenBudget.any fun budget => budget ≤ tokensUsed
      let status : ThreadGoalStatus :=
        if outcome.usageLimited = true then .usageLimited
        else if budgetLimited = true then .budgetLimited
        else if outcome.isFailed = true then .blocked
        else .active
      if chargedTokens = 0 ∧ timeDeltaSeconds = 0 ∧ status = goal.status then return current
      let revision ← incrementSafeInteger goal.revision (threadGoalError "goal_revision_overflow")
      return some { goal with
        revision := revision
        status := status
        tokensUsed := tokensUsed
        timeUsedSeconds := timeUsedSeconds
        updatedAt := occurredAt }
  | _, _ => .ok current

/-- What an interval charges. -/
structure RunGoalAccountingDelta where
  throughRunSequence : Int
  accountedUsage : RunUsage
  tokenDelta : Int
  timeDeltaSeconds : Int
  nextTimeBaselineAt : Option JsString
deriving DecidableEq

/-- The component-wise difference. -/
def RunUsage.sub (left right : RunUsage) : RunUsage :=
  ⟨left.inputTokens - right.inputTokens, left.cachedInputTokens - right.cachedInputTokens,
    left.outputTokens - right.outputTokens, left.totalTokens - right.totalTokens⟩

/-- The instant of a time baseline some whole seconds later; the host rejects an instant too far
from the epoch. -/
def advanceBaseline (baseline : JsString) (seconds : Int) : Checked JsString :=
  match toIsoString ((dateParse baseline).getD 0 + seconds * 1000) with
  | some text => .ok text
  | none => .error ⟨.range, "Invalid time value"⟩

/-- The whole seconds since the time baseline of a cursor, and the baseline moved on by them. -/
def timeSince (cursor : RunGoalAccountingCursor) (occurredAt : JsString) :
    Checked (Int × Option JsString) :=
  match cursor.attribution, cursor.timeBaselineAt with
  | some _, some baseline => do
    let elapsed := elapsedMillis baseline occurredAt
    rejectIf (elapsed < 0) (runGoalAccountingError "goal_accounting_time_regressed")
    let advanced ← advanceBaseline baseline (elapsed / 1000)
    return (elapsed / 1000, some advanced)
  | _, _ => .ok (0, cursor.timeBaselineAt)

/-- The interval since the cursor. -/
def computeRunGoalAccountingDelta (cursor : RunGoalAccountingCursor) (currentUsage : RunUsage)
    (throughRunSequence : Int) (occurredAt : JsString) : Checked RunGoalAccountingDelta := do
  validateRunGoalAccountingCursor cursor
  validateUsage currentUsage
  requirePositiveInteger throughRunSequence
    (runGoalAccountingError "goal_accounting_sequence_invalid")
  requireTimestamp occurredAt (runGoalAccountingError "goal_accounting_updated_at_invalid")
  rejectIf (throughRunSequence < cursor.throughRunSequence ∨
      usageRegressed cursor.accountedUsage currentUsage = true ∨
      isEarlier occurredAt cursor.updatedAt = true)
    (runGoalAccountingError "goal_accounting_usage_regressed")
  let usageDelta := currentUsage.sub cursor.accountedUsage
  validateUsage usageDelta
  let (timeDeltaSeconds, nextTimeBaselineAt) ← timeSince cursor occurredAt
  let tokenDelta ← threadGoalChargedTokens usageDelta
  return {
    throughRunSequence := throughRunSequence
    accountedUsage := currentUsage
    tokenDelta := tokenDelta
    timeDeltaSeconds := timeDeltaSeconds
    nextTimeBaselineAt := nextTimeBaselineAt }

/-- How a cursor is advanced. -/
structure AdvanceRunGoalAccountingInput where
  currentUsage : RunUsage
  throughRunSequence : Int
  occurredAt : JsString
  nextBinding : Option RunGoalBinding
  pendingSteering : Option RunGoalSteeringHandoff
  trackTime : Bool
deriving DecidableEq

/-- The interval that an advance closes; a run without a cursor has none to charge. -/
def closedInterval (current : Option RunGoalAccountingCursor)
    (input : AdvanceRunGoalAccountingInput) : Checked RunGoalAccountingDelta :=
  match current with
  | none => .ok ⟨input.throughRunSequence, input.currentUsage, 0, 0, none⟩
  | some cursor =>
    computeRunGoalAccountingDelta cursor input.currentUsage input.throughRunSequence
      input.occurredAt

/-- The baseline of the cursor after an advance. -/
def nextTimeBaselineAt (current : Option RunGoalAccountingCursor)
    (input : AdvanceRunGoalAccountingInput) (delta : RunGoalAccountingDelta) : Option JsString :=
  -- without a cursor the source compares `undefined` with `null`, so it takes the delta's baseline
  let counting := current.all fun cursor =>
    cursor.attribution.isSome && cursor.timeBaselineAt.isSome
  if input.nextBinding = none ∨ input.trackTime = false then none
  else if counting = false then some input.occurredAt
  else delta.nextTimeBaselineAt

/-- The cursor after an advance. -/
def nextCursor (current : Option RunGoalAccountingCursor) (input : AdvanceRunGoalAccountingInput)
    (delta : RunGoalAccountingDelta) : RunGoalAccountingCursor where
  schemaVersion := runGoalAccountingSchema
  revision := (current.map (·.revision)).getD 0 + 1
  policy := threadGoalAccountingPolicy
  throughRunSequence := input.throughRunSequence
  accountedUsage := input.currentUsage
  timeBaselineAt := nextTimeBaselineAt current input delta
  attribution := input.nextBinding.map fun binding =>
    ⟨binding.goalId, binding.revision, binding.objectiveDigest⟩
  pendingSteering := input.pendingSteering
  updatedAt := input.occurredAt

/-- Close the interval of the cursor and open the next one. -/
def advanceRunGoalAccounting (current : Option RunGoalAccountingCursor)
    (input : AdvanceRunGoalAccountingInput) :
    Checked (RunGoalAccountingDelta × RunGoalAccountingCursor) := do
  validateUsage input.currentUsage
  requirePositiveInteger input.throughRunSequence
    (runGoalAccountingError "goal_accounting_sequence_invalid")
  requireTimestamp input.occurredAt (runGoalAccountingError "goal_accounting_updated_at_invalid")
  whenPresent input.nextBinding validateBinding
  whenPresent input.pendingSteering fun steering =>
    rejectIf (input.nextBinding ≠ some steering.target)
      (runGoalAccountingError "goal_steering_target_invalid")
  rejectIf (input.nextBinding = none ∧ input.trackTime = true)
    (runGoalAccountingError "goal_accounting_time_tracking_invalid")
  let delta ← closedInterval current input
  validateRunGoalAccountingCursor (nextCursor current input delta)
  return (delta, nextCursor current input delta)

/-- Charge a goal with an interval, without a new revision. -/
def accountThreadGoalProgress (current : Option ThreadGoal) (cursor : RunGoalAccountingCursor)
    (delta : RunGoalAccountingDelta) (occurredAt : JsString) : Checked (Option ThreadGoal) := do
  validateRunGoalAccountingCursor cursor
  requireTimestamp occurredAt (runGoalAccountingError "goal_updated_at_invalid")
  match cursor.attribution with
  | none => return current
  | some attribution =>
    match current with
    | none => .error (runGoalAccountingError "goal_accounting_attribution_mismatch")
    | some goal => do
      rejectIf (goal.goalId ≠ attribution.goalId ∨ goal.revision ≠ attribution.goalRevision)
        (runGoalAccountingError "goal_accounting_attribution_mismatch")
      rejectIf (goal.status ≠ .active ∧ goal.status ≠ .budgetLimited)
        (runGoalAccountingError "goal_accounting_inactive_attribution")
      rejectIf (isEarlier occurredAt goal.updatedAt = true)
        (runGoalAccountingError "goal_accounting_time_regressed")
      let tokensUsed ← addSafeIntegers goal.tokensUsed delta.tokenDelta
        (runGoalAccountingError "goal_tokens_used_overflow")
      let timeUsedSeconds ← addSafeIntegers goal.timeUsedSeconds delta.timeDeltaSeconds
        (runGoalAccountingError "goal_time_used_seconds_overflow")
      let status : ThreadGoalStatus :=
        if goal.status = .active ∧ goal.tokenBudget.any (fun budget => budget ≤ tokensUsed) = true
        then .budgetLimited else goal.status
      if tokensUsed = goal.tokensUsed ∧ timeUsedSeconds = goal.timeUsedSeconds ∧
          status = goal.status then return current
      return some { goal with
        status := status
        tokensUsed := tokensUsed
        timeUsedSeconds := timeUsedSeconds
        updatedAt := occurredAt }

/-- The goal after a tool call, and whether its budget was crossed. -/
structure ThreadGoalToolBoundaryAccounting where
  goalState : Option ThreadGoal
  crossedBudget : Bool
deriving DecidableEq

/-- Charge a goal at the end of a tool call. -/
def accountThreadGoalAtToolBoundary (current : Option ThreadGoal) (run : RunState)
    (occurredAt : JsString) : Checked ThreadGoalToolBoundaryAccounting :=
  match run.goalAccounting with
  | none => .ok ⟨current, false⟩
  | some cursor =>
    if run.collaborationMode = .plan ∨ cursor.attribution = none then .ok ⟨current, false⟩
    else do
      rejectIf (run.status ≠ .running)
        (runGoalAccountingError "goal_accounting_run_not_running")
      let delta ← computeRunGoalAccountingDelta cursor run.usage run.lastSequence occurredAt
      let accounted ← accountThreadGoalProgress current cursor delta occurredAt
      if accounted = current then return ⟨current, false⟩
      match accounted, current with
      | some charged, some goal => do
        let revision ← incrementSafeInteger goal.revision
          (runGoalAccountingError "goal_revision_overflow")
        return ⟨some { charged with revision := revision },
          goal.status = .active && charged.status = .budgetLimited⟩
      | _, _ => .error (runGoalAccountingError "goal_accounting_attribution_mismatch")

/-- Charge a goal when a run with an accounting cursor ends. -/
def settleThreadGoalFromAccounting (current : Option ThreadGoal) (run : RunState)
    (outcome : GoalRunTerminalOutcome) (occurredAt : JsString) : Checked (Option ThreadGoal) :=
  match run.goalAccounting with
  | none => .ok current
  | some cursor =>
    if cursor.attribution = none then .ok current
    else do
      let delta ← computeRunGoalAccountingDelta cursor run.usage run.lastSequence occurredAt
      let accounted ← accountThreadGoalProgress current cursor delta occurredAt
      match accounted, current with
      | some charged, some goal => do
        let status : ThreadGoalStatus :=
          if outcome.usageLimited = true then .usageLimited
          else if charged.status = .budgetLimited then .budgetLimited
          else if outcome.isFailed = true then .blocked
          else .active
        if charged = goal ∧ status = goal.status then return current
        let revision ← incrementSafeInteger goal.revision
          (runGoalAccountingError "goal_revision_overflow")
        return some { charged with
          revision := revision
          status := status
          updatedAt := occurredAt }
      | _, _ => .error (runGoalAccountingError "goal_accounting_attribution_mismatch")

/-- Settle the goal of a run that ends, by its cursor if it has one. -/
def settleThreadGoal (current : Option ThreadGoal) (run : RunState)
    (outcome : GoalRunTerminalOutcome) (occurredAt : JsString) : Checked (Option ThreadGoal) :=
  if run.goalAccounting = none then settleThreadGoalForRun current run outcome occurredAt
  else settleThreadGoalFromAccounting current run outcome occurredAt

end Crewon.Domain
