import Crewon.Domain.ThreadGoal

/-!
# Goal accounting of a run

A run that works on a goal keeps a cursor: the usage already charged to the goal, the instant
from which time is counted, the goal revision the next interval is attributed to, and a
steering message that still has to reach the model.
-/

namespace Crewon.Domain

open Crewon.Js Crewon.Checked

/-- The goal revision an interval is charged to. -/
structure RunGoalAttribution where
  goalId : JsString
  goalRevision : Int
  objectiveDigest : JsString
deriving DecidableEq

/-- Why a running model has to be told about its goal. -/
inductive ThreadGoalSteeringKind where
  | objectiveUpdated
  | budgetLimited
deriving DecidableEq

/-- A steering message that has not reached the model. -/
structure RunGoalSteeringHandoff where
  handoffId : JsString
  kind : ThreadGoalSteeringKind
  target : RunGoalBinding
  createdAt : JsString
deriving DecidableEq

/-- The accounting cursor of a run. -/
structure RunGoalAccountingCursor where
  schemaVersion : JsString
  revision : Int
  policy : JsString
  throughRunSequence : Int
  accountedUsage : RunUsage
  timeBaselineAt : Option JsString
  attribution : Option RunGoalAttribution
  pendingSteering : Option RunGoalSteeringHandoff
  updatedAt : JsString
deriving DecidableEq

/-- A rejection of the accounting records. -/
def runGoalAccountingError (code : String) : Failure := ⟨.runGoalAccounting, code⟩

/-- The accounting policy every cursor names. -/
def threadGoalAccountingPolicy : JsString := js "nonCachedInputPlusOutput.v1"

/-- The schema version every cursor names. -/
def runGoalAccountingSchema : JsString := js "crewon.run-goal-accounting.v0"

/-- The checks of a binding inside a cursor. -/
def validateBinding (binding : RunGoalBinding) : Checked Unit := do
  requireNonEmpty binding.goalId (runGoalAccountingError "goal_accounting_goal_id_invalid")
  requirePositiveInteger binding.revision
    (runGoalAccountingError "goal_accounting_goal_revision_invalid")
  rejectIf (isDigest binding.objectiveDigest = false)
    (runGoalAccountingError "goal_accounting_objective_digest_invalid")

/-- A usage whose components are counters that add up. -/
def validateUsage (usage : RunUsage) : Checked Unit :=
  rejectIf (isNonNegativeInteger usage.inputTokens = false ∨
      isNonNegativeInteger usage.cachedInputTokens = false ∨
      isNonNegativeInteger usage.outputTokens = false ∨
      isNonNegativeInteger usage.totalTokens = false ∨
      usage.inputTokens < usage.cachedInputTokens ∨
      usage.totalTokens ≠ usage.inputTokens + usage.outputTokens)
    (runGoalAccountingError "goal_accounting_usage_invalid")

/-- Some component went down. -/
def usageRegressed (previous next : RunUsage) : Bool :=
  next.inputTokens < previous.inputTokens ||
    next.cachedInputTokens < previous.cachedInputTokens ||
    next.outputTokens < previous.outputTokens || next.totalTokens < previous.totalTokens

/-- The cursor of a run that starts with a binding. -/
def createRunGoalAccountingCursor (binding : RunGoalBinding) (occurredAt : JsString) :
    Checked RunGoalAccountingCursor := do
  requireTimestamp occurredAt (runGoalAccountingError "goal_accounting_updated_at_invalid")
  validateBinding binding
  return {
    schemaVersion := runGoalAccountingSchema
    revision := 1
    policy := threadGoalAccountingPolicy
    throughRunSequence := 1
    accountedUsage := .zero
    timeBaselineAt := none
    attribution := some ⟨binding.goalId, binding.revision, binding.objectiveDigest⟩
    pendingSteering := none
    updatedAt := occurredAt }

/-- The steering message points at the attributed goal revision and is not newer than the
cursor. -/
def steeringTargetValid (cursor : RunGoalAccountingCursor) (handoff : RunGoalSteeringHandoff) :
    Bool :=
  match cursor.attribution with
  | none => false
  | some attribution =>
    attribution.goalId = handoff.target.goalId &&
      attribution.goalRevision = handoff.target.revision &&
      attribution.objectiveDigest = handoff.target.objectiveDigest &&
      !isEarlier cursor.updatedAt handoff.createdAt

/-- The checks every cursor passes. -/
def validateRunGoalAccountingCursor (cursor : RunGoalAccountingCursor) : Checked Unit := do
  rejectIf (cursor.schemaVersion ≠ runGoalAccountingSchema ∨
      cursor.policy ≠ threadGoalAccountingPolicy)
    (runGoalAccountingError "goal_accounting_cursor_invalid")
  requirePositiveInteger cursor.revision
    (runGoalAccountingError "goal_accounting_revision_invalid")
  requirePositiveInteger cursor.throughRunSequence
    (runGoalAccountingError "goal_accounting_sequence_invalid")
  validateUsage cursor.accountedUsage
  whenPresent cursor.timeBaselineAt fun baseline =>
    requireTimestamp baseline (runGoalAccountingError "goal_accounting_time_baseline_invalid")
  requireTimestamp cursor.updatedAt (runGoalAccountingError "goal_accounting_updated_at_invalid")
  whenPresent cursor.timeBaselineAt fun baseline =>
    rejectIf (isEarlier cursor.updatedAt baseline = true)
      (runGoalAccountingError "goal_accounting_time_baseline_invalid")
  whenPresent cursor.attribution fun attribution => do
    requireNonEmpty attribution.goalId (runGoalAccountingError "goal_accounting_goal_id_invalid")
    requirePositiveInteger attribution.goalRevision
      (runGoalAccountingError "goal_accounting_goal_revision_invalid")
    rejectIf (isDigest attribution.objectiveDigest = false)
      (runGoalAccountingError "goal_accounting_objective_digest_invalid")
  whenPresent cursor.pendingSteering fun handoff => do
    requireNonEmpty handoff.handoffId (runGoalAccountingError "goal_steering_handoff_id_invalid")
    validateBinding handoff.target
    requireTimestamp handoff.createdAt
      (runGoalAccountingError "goal_steering_created_at_invalid")
    rejectIf (steeringTargetValid cursor handoff = false)
      (runGoalAccountingError "goal_steering_target_invalid")

/-- Start counting time when the run starts. -/
def startRunGoalAccounting (cursor : Option RunGoalAccountingCursor) (throughRunSequence : Int)
    (occurredAt : JsString) : Checked (Option RunGoalAccountingCursor) :=
  match cursor with
  | none => .ok none
  | some cursor => do
    validateRunGoalAccountingCursor cursor
    requirePositiveInteger throughRunSequence
      (runGoalAccountingError "goal_accounting_sequence_invalid")
    requireTimestamp occurredAt (runGoalAccountingError "goal_accounting_updated_at_invalid")
    rejectIf (throughRunSequence ≤ cursor.throughRunSequence ∨
        isEarlier occurredAt cursor.updatedAt = true)
      (runGoalAccountingError "goal_accounting_start_invalid")
    let revision ← incrementSafeInteger cursor.revision
      (runGoalAccountingError "goal_accounting_revision_overflow")
    return some { cursor with
      revision := revision
      throughRunSequence := throughRunSequence
      timeBaselineAt := some occurredAt
      updatedAt := occurredAt }

/-- Replace the cursor by its successor. -/
def reduceRunGoalAccountingUpdate (current : Option RunGoalAccountingCursor)
    (next : RunGoalAccountingCursor) (runUsage : RunUsage) (currentRunSequence : Int)
    (occurredAt : JsString) : Checked RunGoalAccountingCursor := do
  whenPresent current validateRunGoalAccountingCursor
  validateRunGoalAccountingCursor next
  validateUsage runUsage
  requirePositiveInteger currentRunSequence
    (runGoalAccountingError "goal_accounting_sequence_invalid")
  requireTimestamp occurredAt (runGoalAccountingError "goal_accounting_updated_at_invalid")
  rejectIf (next.revision ≠ (current.map (·.revision)).getD 0 + 1 ∨
      next.updatedAt ≠ occurredAt ∨ currentRunSequence < next.throughRunSequence ∨
      next.throughRunSequence < (current.map (·.throughRunSequence)).getD 1 ∨
      usageRegressed ((current.map (·.accountedUsage)).getD .zero) next.accountedUsage = true ∨
      usageRegressed next.accountedUsage runUsage = true)
    (runGoalAccountingError "goal_accounting_update_invalid")
  return next

/-- Drop the steering message that reached the model. -/
def consumeRunGoalSteering (cursor : RunGoalAccountingCursor) (handoffId : JsString)
    (occurredAt : JsString) : Checked RunGoalAccountingCursor := do
  validateRunGoalAccountingCursor cursor
  requireNonEmpty handoffId (runGoalAccountingError "goal_steering_handoff_id_invalid")
  requireTimestamp occurredAt (runGoalAccountingError "goal_accounting_updated_at_invalid")
  rejectIf (cursor.pendingSteering.map (·.handoffId) ≠ some handoffId ∨
      isEarlier occurredAt cursor.updatedAt = true)
    (runGoalAccountingError "goal_steering_not_current")
  let revision ← incrementSafeInteger cursor.revision
    (runGoalAccountingError "goal_accounting_revision_overflow")
  return { cursor with
    revision := revision
    pendingSteering := none
    updatedAt := occurredAt }

end Crewon.Domain
