import Crewon.Domain.Failure
import Crewon.Js.Json

/-!
# Records carried by run events

The plan of a run, the rate limit snapshot and the workspace change summary reported while it
runs, the workflow version and the automation invocation it was created for, the plan an
assistant proposes in it, and the source of an empty provider continuation. Each comes with the
check the program applies to it.
-/

namespace Crewon.Domain

open Crewon.Js Crewon.Checked

/-- The status of a plan item. -/
inductive RunPlanStatus where
  | pending
  | inProgress
  | completed
  | blocked
  | canceled
deriving DecidableEq

/-- The status as it is written. -/
def RunPlanStatus.text : RunPlanStatus → JsString
  | .pending => js "pending"
  | .inProgress => js "inProgress"
  | .completed => js "completed"
  | .blocked => js "blocked"
  | .canceled => js "canceled"

/-- One step of a plan. -/
structure RunPlanItem where
  itemId : JsString
  title : JsString
  status : RunPlanStatus
deriving DecidableEq

/-- The checklist of a run. -/
structure RunPlan where
  schemaVersion : JsString
  planId : JsString
  revision : Int
  explanation : Option JsString
  items : List RunPlanItem
  createdAt : JsString
  updatedAt : JsString
deriving DecidableEq

/-- A rejection of a plan. -/
def runPlanError (code : String) : Failure := ⟨.runPlan, code⟩

/-- Text without surrounding white space or control characters, within both bounds. -/
def requireBoundedText (value : JsString) (maxChars maxBytes : Nat) (failure : Failure) :
    Checked Unit :=
  rejectIf (value.isBlank = true ∨ value ≠ value.trim ∨ maxChars < value.codePoints.length ∨
    value.fitsBytes maxBytes = false ∨ value.units.any JsString.isTextControl = true) failure

/-- The value the plan is written as. -/
def RunPlan.json (plan : RunPlan) : JsonValue :=
  .object [
    ("schemaVersion", .string plan.schemaVersion),
    ("planId", .string plan.planId),
    ("revision", .number plan.revision),
    ("explanation", .ofOption .string plan.explanation),
    ("items", .array (plan.items.map fun item => .object [
      ("itemId", .string item.itemId),
      ("title", .string item.title),
      ("status", .string item.status.text)])),
    ("createdAt", .string plan.createdAt),
    ("updatedAt", .string plan.updatedAt)]

/-- The checks of the items, given the ids already seen. -/
def validateRunPlanItems (itemIds : List JsString) : List RunPlanItem → Checked Unit
  | [] => .ok ()
  | item :: rest => do
    rejectIf (isItemId item.itemId = false ∨ item.itemId ∈ itemIds)
      (runPlanError "run_plan_item_id_invalid")
    requireBoundedText item.title 256 1024 (runPlanError "run_plan_item_title_invalid")
    validateRunPlanItems (item.itemId :: itemIds) rest

/-- The checks every plan passes. -/
def validateRunPlan (plan : RunPlan) : Checked Unit := do
  rejectIf (plan.schemaVersion ≠ js "crewon.run-plan.v0") (runPlanError "run_plan_shape_invalid")
  requireBoundedText plan.planId 512 512 (runPlanError "run_plan_id_invalid")
  requirePositiveInteger plan.revision (runPlanError "run_plan_revision_invalid")
  requireTimestamp plan.createdAt (runPlanError "run_plan_created_at_invalid")
  requireTimestamp plan.updatedAt (runPlanError "run_plan_updated_at_invalid")
  rejectIf (isEarlier plan.updatedAt plan.createdAt = true)
    (runPlanError "run_plan_timestamp_order_invalid")
  whenPresent plan.explanation fun explanation =>
    requireBoundedText explanation 1000 4000 (runPlanError "run_plan_explanation_invalid")
  rejectIf (plan.items.length < 1 ∨ 32 < plan.items.length)
    (runPlanError "run_plan_items_invalid")
  validateRunPlanItems [] plan.items
  rejectIf (1 < (plan.items.filter fun item => item.status = .inProgress).length)
    (runPlanError "run_plan_multiple_items_in_progress")
  rejectIf (9999 < plan.json.encodedSize) (runPlanError "run_plan_snapshot_too_large")

/-- Why a provider limit was reached. -/
inductive RunRateLimitReachedType where
  | rateLimitReached
  | workspaceOwnerCreditsDepleted
  | workspaceMemberCreditsDepleted
  | workspaceOwnerUsageLimitReached
  | workspaceMemberUsageLimitReached
deriving DecidableEq

/-- One window of a provider limit. -/
structure RunRateLimitWindow where
  usedPercent : Rat
  windowMinutes : Option Int
  resetsAt : Option Int
deriving DecidableEq

/-- The credits a provider reports. -/
structure RunCreditsSnapshot where
  hasCredits : Bool
  unlimited : Bool
  balance : Option JsString
deriving DecidableEq

/-- The spending limit a provider reports for one member. -/
structure RunSpendControlLimitSnapshot where
  limit : JsString
  used : JsString
  remainingPercent : Int
  resetsAt : Int
deriving DecidableEq

/-- The provider limits at one moment. -/
structure RunRateLimitSnapshot where
  limitId : Option JsString
  limitName : Option JsString
  primary : Option RunRateLimitWindow
  secondary : Option RunRateLimitWindow
  credits : Option RunCreditsSnapshot
  individualLimit : Option RunSpendControlLimitSnapshot
  planType : Option JsString
  rateLimitReachedType : Option RunRateLimitReachedType
deriving DecidableEq

/-- A text of at least one unit and at most the bound. -/
def boundedString (value : JsString) (maxLength : Nat) : Bool :=
  0 < value.length && value.length ≤ maxLength

/-- A limit window with a percentage and counters in range. -/
def windowValid (window : RunRateLimitWindow) : Bool :=
  0 ≤ window.usedPercent && window.usedPercent ≤ 100 &&
    window.windowMinutes.all isNonNegativeInteger && window.resetsAt.all isNonNegativeInteger

/-- A spending limit with texts and counters in range. -/
def individualLimitValid (limit : RunSpendControlLimitSnapshot) : Bool :=
  boundedString limit.limit 128 && boundedString limit.used 128 &&
    isNonNegativeInteger limit.remainingPercent && limit.remainingPercent ≤ 100 &&
    isNonNegativeInteger limit.resetsAt

/-- The code a snapshot is rejected with, if it is. -/
def runRateLimitSnapshotError (snapshot : RunRateLimitSnapshot) : Option String :=
  if snapshot.limitId.all (boundedString · 128) && snapshot.limitName.all (boundedString · 256) &&
      snapshot.planType.all (boundedString · 64) && snapshot.primary.all windowValid &&
      snapshot.secondary.all windowValid &&
      snapshot.credits.all (fun credits => credits.balance.all (boundedString · 128)) &&
      snapshot.individualLimit.all individualLimitValid
  then none
  else some "rate_limit_snapshot_invalid"

/-- The files a tool call changed. -/
structure WorkspaceChangeSummary where
  schemaVersion : JsString
  paths : List JsString
  additions : Int
  deletions : Int
  statsComplete : Bool
deriving DecidableEq

/-- A rejection of a change summary. -/
def workspaceChangeError : Failure := ⟨.workspaceChange, "workspace_change_summary_invalid"⟩

/-- The value the summary is written as. -/
def WorkspaceChangeSummary.json (summary : WorkspaceChangeSummary) : JsonValue :=
  .object [
    ("schemaVersion", .string summary.schemaVersion),
    ("paths", .array (summary.paths.map .string)),
    ("additions", .number summary.additions),
    ("deletions", .number summary.deletions),
    ("statsComplete", .bool summary.statsComplete)]

/-- A relative path without control characters or empty and dot segments. -/
def workspacePathValid (path : JsString) : Bool :=
  1 ≤ path.length && !path.startsWith (unit '/') &&
    !path.units.any JsString.isControlOrDelete &&
    (path.splitOn (unit '/')).all (fun part =>
      part ≠ .empty && part ≠ js "." && part ≠ js "..") && path.fitsBytes 4096

/-- Every path comes strictly before the next one. -/
def pathsAscending : List JsString → Bool
  | [] => true
  | [_] => true
  | first :: second :: rest => first.before second && pathsAscending (second :: rest)

/-- The checks every change summary passes. -/
def validateWorkspaceChangeSummary (summary : WorkspaceChangeSummary) : Checked Unit := do
  rejectIf (summary.schemaVersion ≠ js "crewon.workspace-change-summary.v0" ∨
      isNonNegativeInteger summary.additions = false ∨
      isNonNegativeInteger summary.deletions = false ∨ 256 < summary.paths.length)
    workspaceChangeError
  forEach summary.paths fun path =>
    rejectIf (workspacePathValid path = false) workspaceChangeError
  rejectIf (65536 < (summary.paths.map JsString.byteLength).sum ∨ ¬ summary.paths.Nodup ∨
      pathsAscending summary.paths = false ∨
      (summary.statsComplete = false ∧
        (summary.paths ≠ [] ∨ summary.additions ≠ 0 ∨ summary.deletions ≠ 0)) ∨
      16384 < summary.json.encodedSize)
    workspaceChangeError

/-- The workflow version a run was created for. -/
structure FrozenWorkflowVersionBinding where
  workflowId : JsString
  workflowVersionId : JsString
  contentDigest : JsString
deriving DecidableEq

/-- An identifier of the workflow wire grammar. -/
def parseWorkflowVersionIdentityId (value : JsString) (code : String) : Checked JsString :=
  if value.fitsBytes 512 && isOpaqueId value then .ok value else .error ⟨.workflowVersion, code⟩

/-- Where an automation invocation came from. -/
structure AutomationInvocationBinding where
  automationId : JsString
  automationRevision : Int
  definitionDigest : JsString
  instructionDigest : JsString
  invocationId : JsString
  runId : JsString
  routeDigest : JsString
deriving DecidableEq

/-- The origin of a run that an automation started. -/
structure AutomationInvocationOrigin where
  binding : AutomationInvocationBinding
deriving DecidableEq

/-- The checks of an automation origin. -/
def parseAutomationInvocationOrigin (origin : AutomationInvocationOrigin) :
    Checked AutomationInvocationOrigin :=
  let binding := origin.binding
  if binding.automationRevision = 1 && isDigest binding.definitionDigest &&
      isDigest binding.instructionDigest && isDigest binding.routeDigest &&
      [binding.automationId, binding.invocationId, binding.runId].all
        (fun id => isOpaqueId id && id.length ≤ 512)
  then .ok origin
  else .error ⟨.automation, "automation_invocation_origin_invalid"⟩

/-- A plan that an assistant proposes in a message. -/
structure ProposedPlan where
  schemaVersion : JsString
  planId : JsString
  tenantId : JsString
  threadId : JsString
  runId : JsString
  messageId : JsString
  content : JsString
  contentDigest : JsString
  createdAt : JsString
deriving DecidableEq

/-- A rejection of a proposed plan. -/
def proposedPlanError (code : String) : Failure := ⟨.proposedPlan, code⟩

/-- Reject a text that is empty, too long or has control characters. -/
def ProposedPlan.requireBoundedText (value : JsString) (maxBytes : Nat) (code : String) :
    Checked Unit :=
  rejectIf (value.length = 0 ∨ value.fitsBytes maxBytes = false ∨
    value.units.any JsString.isTextControl = true) (proposedPlanError code)

/-- The checks every proposed plan passes. -/
def validateProposedPlan (value : ProposedPlan) : Checked Unit := do
  rejectIf (value.schemaVersion ≠ js "crewon.proposed-plan.v0")
    (proposedPlanError "proposed_plan_shape_invalid")
  ProposedPlan.requireBoundedText value.planId 512 "proposed_plan_id_invalid"
  ProposedPlan.requireBoundedText value.tenantId 512 "proposed_plan_tenant_invalid"
  ProposedPlan.requireBoundedText value.threadId 512 "proposed_plan_thread_invalid"
  ProposedPlan.requireBoundedText value.runId 512 "proposed_plan_run_invalid"
  ProposedPlan.requireBoundedText value.messageId 512 "proposed_plan_message_invalid"
  ProposedPlan.requireBoundedText value.content 9999 "proposed_plan_content_invalid"
  rejectIf (isDigest value.contentDigest = false)
    (proposedPlanError "proposed_plan_digest_invalid")
  requireTimestamp value.createdAt (proposedPlanError "proposed_plan_created_at_invalid")

/-- The value the plan is written as. -/
def ProposedPlan.json (plan : ProposedPlan) : JsonValue :=
  .object [
    ("schemaVersion", .string plan.schemaVersion),
    ("planId", .string plan.planId),
    ("tenantId", .string plan.tenantId),
    ("threadId", .string plan.threadId),
    ("runId", .string plan.runId),
    ("messageId", .string plan.messageId),
    ("content", .string plan.content),
    ("contentDigest", .string plan.contentDigest),
    ("createdAt", .string plan.createdAt)]

/-- The attempt that produced an empty provider continuation. -/
structure EmptyProviderContinuationSource where
  stepId : JsString
  attemptId : JsString
  contextRevision : JsString
deriving DecidableEq

/-- Every id is short, has text and no control character. -/
def isEmptyProviderContinuationSource (source : EmptyProviderContinuationSource) : Bool :=
  [source.stepId, source.attemptId, source.contextRevision].all fun item =>
    !item.isBlank && item.length ≤ 512 && !item.units.any JsString.isControl

end Crewon.Domain
