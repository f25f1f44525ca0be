import Crewon.Domain.Failure

/-!
# Thread goals

A goal belongs to one thread and carries its objective, its token budget and the usage charged
to it so far. A run pins the goal it was admitted for by a binding.
-/

namespace Crewon.Domain

open Crewon.Js Crewon.Checked

/-- The status of a goal. -/
inductive ThreadGoalStatus where
  | active
  | paused
  | blocked
  | usageLimited
  | budgetLimited
  | complete
deriving DecidableEq

/-- How a run collaborates with its user. -/
inductive RunCollaborationMode where
  | default
  | plan
deriving DecidableEq

/-- The goal of a thread. -/
structure ThreadGoal where
  schemaVersion : JsString
  tenantId : JsString
  threadId : JsString
  goalId : JsString
  revision : Int
  objective : JsString
  status : ThreadGoalStatus
  tokenBudget : Option Int
  tokensUsed : Int
  timeUsedSeconds : Int
  createdAt : JsString
  updatedAt : JsString
deriving DecidableEq

/-- The goal identity pinned to a run when it is admitted. -/
structure RunGoalBinding where
  goalId : JsString
  revision : Int
  objectiveDigest : JsString
deriving DecidableEq

/-- Token counts of a run. -/
structure RunUsage where
  inputTokens : Int
  cachedInputTokens : Int
  outputTokens : Int
  totalTokens : Int
deriving DecidableEq

/-- The usage of a run that has not called a model. -/
def RunUsage.zero : RunUsage := ⟨0, 0, 0, 0⟩

/-- The component-wise sum. -/
def RunUsage.add (left right : RunUsage) : RunUsage :=
  ⟨left.inputTokens + right.inputTokens, left.cachedInputTokens + right.cachedInputTokens,
    left.outputTokens + right.outputTokens, left.totalTokens + right.totalTokens⟩

/-- A rejection of the goal records. -/
def threadGoalError (code : String) : Failure := ⟨.threadGoal, code⟩

/-- The longest objective, in code points. -/
def maxThreadGoalObjectiveChars : Nat := 4000

/-- An objective has text, no lone surrogate and at most the allowed code points. -/
def validateThreadGoalObjective (value : JsString) : Checked Unit := do
  rejectIf (value.isBlank = true) (threadGoalError "goal_objective_invalid")
  rejectIf (value.hasLoneSurrogate = true ∨
    maxThreadGoalObjectiveChars < value.codePoints.length)
    (threadGoalError "goal_objective_invalid")

/-- The checks every stored goal passes. -/
def validateThreadGoal (goal : ThreadGoal) : Checked Unit := do
  rejectIf (goal.schemaVersion ≠ js "crewon.thread-goal.v0")
    (threadGoalError "goal_schema_version_unsupported")
  requireBoundedNonEmpty goal.tenantId 256 (threadGoalError "goal_tenant_id_invalid")
  requireBoundedNonEmpty goal.threadId 512 (threadGoalError "goal_thread_id_invalid")
  requireBoundedNonEmpty goal.goalId 512 (threadGoalError "goal_id_invalid")
  requirePositiveInteger goal.revision (threadGoalError "goal_revision_invalid")
  validateThreadGoalObjective goal.objective
  whenPresent goal.tokenBudget fun budget =>
    requirePositiveInteger budget (threadGoalError "goal_token_budget_invalid")
  requireNonNegativeInteger goal.tokensUsed (threadGoalError "goal_tokens_used_invalid")
  requireNonNegativeInteger goal.timeUsedSeconds
    (threadGoalError "goal_time_used_seconds_invalid")
  requireTimestamp goal.createdAt (threadGoalError "goal_created_at_invalid")
  requireTimestamp goal.updatedAt (threadGoalError "goal_updated_at_invalid")
  rejectIf (isEarlier goal.updatedAt goal.createdAt = true)
    (threadGoalError "goal_timestamp_order_invalid")

/-- The checks of a binding on admission. -/
def validateRunGoalBinding (binding : RunGoalBinding) : Checked Unit := do
  requireBoundedNonEmpty binding.goalId 512 (threadGoalError "goal_id_invalid")
  requirePositiveInteger binding.revision (threadGoalError "goal_revision_invalid")
  rejectIf (isDigest binding.objectiveDigest = false)
    (threadGoalError "goal_objective_digest_invalid")

/-- Goal charging: input that was not read from a cache, plus output. -/
def threadGoalChargedTokens (usage : RunUsage) : Checked Int := do
  rejectIf (isSafeInteger usage.inputTokens = false ∨
      isSafeInteger usage.cachedInputTokens = false ∨ isSafeInteger usage.outputTokens = false ∨
      isSafeInteger usage.totalTokens = false ∨ usage.inputTokens < 0 ∨
      usage.cachedInputTokens < 0 ∨ usage.inputTokens < usage.cachedInputTokens ∨
      usage.outputTokens < 0 ∨ usage.totalTokens ≠ usage.inputTokens + usage.outputTokens)
    (threadGoalError "goal_usage_invalid")
  addSafeIntegers (usage.inputTokens - usage.cachedInputTokens) usage.outputTokens
    (threadGoalError "goal_tokens_used_overflow")

end Crewon.Domain
