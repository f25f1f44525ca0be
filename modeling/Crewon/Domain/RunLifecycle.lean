import Crewon.Domain.RunEvent
import Crewon.Lib.Replay

/-!
# The run lifecycle reducer

`reduceRunLifecycleEvent` accepts or rejects one event in a state, `replayRunLifecycle` folds a
whole log. The branches and the order of their checks are those of the source.
-/

namespace Crewon.Domain

open Crewon.Js Crewon.Checked Crewon.Replay

/-- A rejection of the run lifecycle. -/
def runLifecycleError (code : String) : Failure := ⟨.runLifecycle, code⟩

/-- A rejection of a nested record, thrown again as one of the run lifecycle. -/
def asRunLifecycleError (failure : Failure) : Failure := runLifecycleError failure.code

/-- Accounting rejections become lifecycle rejections; every other one passes through. -/
def mapGoalAccountingError {α : Type} (operation : Checked α) : Checked α :=
  operation.mapError fun failure =>
    if failure.kind = .runGoalAccounting then asRunLifecycleError failure else failure

/-- The digest pattern of messages, checkpoints and workflow versions. -/
def requireDigest (value : JsString) : Checked Unit :=
  rejectIf (isDigest value = false) (runLifecycleError "message_content_digest_invalid")

/-- The envelope every event passes before its type is looked at. -/
def validateEventEnvelope (event : RunLifecycleEvent) : Checked Unit := do
  rejectIf (event.schemaVersion ≠ js "crewon.run-event.v0")
    (runLifecycleError "event_schema_version_unsupported")
  requireNonEmpty event.eventId (runLifecycleError "event_id_invalid")
  requireNonEmpty event.runId (runLifecycleError "run_id_invalid")
  requirePositiveInteger event.sequence (runLifecycleError "sequence_invalid")
  requireTimestamp event.occurredAt (runLifecycleError "occurred_at_invalid")

/-- The events a run with a pending cancellation still accepts. -/
def passesCancelPending (state : RunState) : RunEventData → Bool
  | .runCanceled .. => true
  | .runGoalAccountingUpdated .. => true
  | .runReconciliationRequired .. => state.status = .running
  | .runResumed .. => state.status = .reconciling || state.status = .waitingApproval
  | _ => false

/-- A pending cancellation filters the events of the run. -/
def validateCancelProgress (state : RunState) (data : RunEventData) : Checked Unit :=
  if state.cancelRequested then
    match data with
    | .runCancelRequested .. => .error (runLifecycleError "cancel_already_requested")
    | _ => rejectIf (passesCancelPending state data = false) (runLifecycleError "cancel_pending")
  else .ok ()

/-- The event is allowed in the listed statuses only. -/
def requireStatus (state : RunState) (data : RunEventData) (allowed : List RunStatus) :
    Checked Unit :=
  rejectIf (state.status ∉ allowed)
    (runLifecycleError ("invalid_transition:" ++ state.status.text ++ ":" ++ data.type))

/-- The segment an event belongs to. -/
def validateSegmentIdentity (segmentId : JsString) (segmentSequence : Int) : Checked Unit := do
  requireNonEmpty segmentId (runLifecycleError "segment_id_invalid")
  requirePositiveInteger segmentSequence (runLifecycleError "segment_sequence_invalid")

/-- The tool call an event belongs to. -/
def validateToolIdentity (callId name : JsString) : Checked Unit := do
  requireNonEmpty callId (runLifecycleError "tool_call_id_invalid")
  requireNonEmpty name (runLifecycleError "tool_name_invalid")

/-- The cache counters of a report contradict each other. -/
def cacheReadReportingError (usage : ReportedUsage) : Bool :=
  usage.cachedInputTokens.any (fun cached => !isNonNegativeInteger cached) ||
    (usage.cachedInputTokensReported = some true &&
      !usage.cachedInputTokens.any isNonNegativeInteger) ||
    (usage.cachedInputTokensReported = some false && usage.cachedInputTokens.getD 0 ≠ 0)

/-- The usage of an event with absent cache counts read as zero. -/
def normalizedEventUsage (usage : ReportedUsage) : RunUsage :=
  ⟨usage.inputTokens, usage.cachedInputTokens.getD 0, usage.outputTokens, usage.totalTokens⟩

/-- The usage of a run after a report, rejected when a component is no safe integer. -/
def addRunUsage (current delta : RunUsage) : Checked RunUsage :=
  let usage := current.add delta
  if isSafeInteger usage.inputTokens && isSafeInteger usage.cachedInputTokens &&
      isSafeInteger usage.outputTokens && isSafeInteger usage.totalTokens &&
      usage.cachedInputTokens ≤ usage.inputTokens &&
      usage.totalTokens = usage.inputTokens + usage.outputTokens
  then .ok usage
  else .error (runLifecycleError "usage_overflow")

/-- The checks of a usage report. -/
def validateReportedUsage (usage : ReportedUsage) : Checked Unit := do
  rejectIf (cacheReadReportingError usage = true)
    (runLifecycleError "usage_cache_reporting_invalid")
  requireNonNegativeInteger usage.inputTokens (runLifecycleError "usage_input_tokens_invalid")
  requireNonNegativeInteger (usage.cachedInputTokens.getD 0)
    (runLifecycleError "usage_cached_input_tokens_invalid")
  requireNonNegativeInteger usage.outputTokens (runLifecycleError "usage_output_tokens_invalid")
  requireNonNegativeInteger usage.totalTokens (runLifecycleError "usage_total_tokens_invalid")
  rejectIf (usage.inputTokens < usage.cachedInputTokens.getD 0)
    (runLifecycleError "usage_cached_input_tokens_exceeds_input")
  rejectIf (usage.totalTokens ≠ usage.inputTokens + usage.outputTokens)
    (runLifecycleError "usage_total_tokens_mismatch")

/-- The checks of a plan update against the run it belongs to. -/
def validatePlanUpdate (state : RunState) (event : RunLifecycleEvent) (callId : JsString)
    (plan : RunPlan) : Checked Unit := do
  rejectIf (state.collaborationMode ≠ .default ∨ state.purpose.getD .turn ≠ .turn)
    (runLifecycleError "run_plan_mode_invalid")
  requireBoundedString callId 512 (runLifecycleError "run_plan_call_id_invalid")
  (validateRunPlan plan).mapError asRunLifecycleError
  rejectIf (plan.planId ≠ state.runId ∨
      plan.revision ≠ (state.plan.map (·.revision)).getD 0 + 1 ∨
      plan.createdAt ≠ (state.plan.map (·.createdAt)).getD event.occurredAt ∨
      plan.updatedAt ≠ event.occurredAt)
    (runLifecycleError "run_plan_revision_invalid")

/-- The state after an event that changes nothing but the position in the log. -/
def RunState.advance (state : RunState) (event : RunLifecycleEvent) : RunState :=
  { state with
    revision := state.revision + 1
    lastSequence := event.sequence
    updatedAt := event.occurredAt }

/-- The branch of an event that follows the creation, once the common checks have passed. -/
def applyRunEvent (state : RunState) (event : RunLifecycleEvent) : Checked RunState :=
  let next := state.advance event
  let fail := fun code => runLifecycleError code
  match event.data with
  | .runCreated _ => .error (fail "run_already_created")
  | .runStarted => do
    requireStatus state event.data [.queued]
    let goalAccounting ← mapGoalAccountingError
      (startRunGoalAccounting state.goalAccounting event.sequence event.occurredAt)
    return { next with status := .running, goalAccounting := goalAccounting }
  | .runApprovalRequired data => do
    requireStatus state event.data [.running]
    requireNonEmpty data.approvalId (fail "approval_id_invalid")
    requireNonEmpty data.actionDigest (fail "action_digest_invalid")
    return { next with status := .waitingApproval, waitingApproval := some data }
  | .runResumed reasonCode => do
    requireStatus state event.data [.waitingApproval, .suspended, .reconciling]
    requireNonEmpty reasonCode (fail "resume_reason_invalid")
    return { next with
      status := .running
      waitingApproval := none
      suspensionReasonCode := none
      reconciliationReceiptId := none }
  | .runSuspended reasonCode => do
    requireStatus state event.data [.running]
    requireNonEmpty reasonCode (fail "suspension_reason_invalid")
    return { next with status := .suspended, suspensionReasonCode := some reasonCode }
  | .runReconciliationRequired receiptId => do
    requireStatus state event.data [.running]
    requireNonEmpty receiptId (fail "receipt_id_invalid")
    return { next with status := .reconciling, reconciliationReceiptId := some receiptId }
  | .runCancelRequested actorId => do
    requireNonEmpty actorId (fail "cancel_actor_invalid")
    return { next with cancelRequested := true }
  | .runCompleted outputRef => do
    requireStatus state event.data [.running]
    requireNullableNonEmpty outputRef (fail "output_ref_invalid")
    return { next with
      status := .completed
      outputRef := outputRef
      terminalAt := some event.occurredAt }
  | .runFailed data => do
    requireStatus state event.data
      [.queued, .running, .waitingApproval, .suspended, .reconciling]
    requireNonEmpty data.code (fail "failure_code_invalid")
    return { next with
      status := .failed
      failure := some data
      terminalAt := some event.occurredAt }
  | .runCanceled reasonCode => do
    requireNonEmpty reasonCode (fail "cancel_reason_invalid")
    rejectIf (state.cancelRequested = false) (fail "cancel_not_requested")
    rejectIf (state.status = .reconciling) (fail "reconciliation_pending")
    return { next with status := .canceled, terminalAt := some event.occurredAt }
  | .runGoalAccountingUpdated cursor => do
    let goalAccounting ← mapGoalAccountingError (reduceRunGoalAccountingUpdate
      state.goalAccounting cursor state.usage state.lastSequence event.occurredAt)
    return { next with goalAccounting := some goalAccounting }
  | .runGoalSteeringConsumed handoffId =>
    match state.goalAccounting with
    | none => .error (fail "goal_accounting_cursor_missing")
    | some cursor => do
      let goalAccounting ← mapGoalAccountingError
        (consumeRunGoalSteering cursor handoffId event.occurredAt)
      return { next with goalAccounting := some goalAccounting }
  | .runPlanUpdated callId plan => do
    requireStatus state event.data [.running]
    validatePlanUpdate state event callId plan
    return { next with plan := some plan }
  | .segmentStarted segmentId segmentSequence attempt => do
    requireStatus state event.data [.running]
    validateSegmentIdentity segmentId segmentSequence
    requirePositiveInteger attempt (fail "segment_attempt_invalid")
    return next
  | .modelOutputDelta segmentId segmentSequence delta => do
    requireStatus state event.data [.running]
    validateSegmentIdentity segmentId segmentSequence
    requireBoundedString delta (16 * 1024) (fail "model_output_delta_invalid")
    rejectIf (delta.length = 0) (fail "model_output_delta_invalid")
    return next
  | .modelReasoningSummary segmentId segmentSequence kind summaryIndex delta => do
    requireStatus state event.data [.running]
    validateSegmentIdentity segmentId segmentSequence
    requireNonNegativeInteger summaryIndex (fail "model_reasoning_index_invalid")
    rejectIf (kind = .delta ∧ delta = none) (fail "model_reasoning_delta_invalid")
    whenPresent (if kind = .delta then delta else none) fun text => do
      requireBoundedString text (16 * 1024) (fail "model_reasoning_delta_invalid")
      rejectIf (text.length = 0) (fail "model_reasoning_delta_invalid")
    return next
  | .modelSamplingRetry segmentId segmentSequence samplingAttempt maxRetries code _ => do
    requireStatus state event.data [.running]
    validateSegmentIdentity segmentId segmentSequence
    requirePositiveInteger samplingAttempt (fail "sampling_attempt_invalid")
    requirePositiveInteger maxRetries (fail "sampling_retries_invalid")
    rejectIf (maxRetries < samplingAttempt) (fail "sampling_attempt_invalid")
    requireNonEmpty code (fail "sampling_retry_code_invalid")
    return next
  | .modelTransportFallback segmentId segmentSequence fromTransport toTransport code _ => do
    requireStatus state event.data [.running]
    validateSegmentIdentity segmentId segmentSequence
    requireNonEmpty fromTransport (fail "model_transport_from_invalid")
    requireNonEmpty toTransport (fail "model_transport_to_invalid")
    requireNonEmpty code (fail "model_transport_fallback_code_invalid")
    return next
  | .usageRecorded segmentId segmentSequence usage => do
    requireStatus state event.data [.running]
    validateSegmentIdentity segmentId segmentSequence
    validateReportedUsage usage
    let total ← addRunUsage state.usage (normalizedEventUsage usage)
    return { next with usage := total }
  | .rateLimitUpdated segmentId segmentSequence snapshot => do
    requireStatus state event.data [.running]
    validateSegmentIdentity segmentId segmentSequence
    whenPresent (runRateLimitSnapshotError snapshot) fun code => .error (fail code)
    return next
  | .toolRequested segmentId segmentSequence callId _ name input => do
    requireStatus state event.data [.running]
    validateSegmentIdentity segmentId segmentSequence
    validateToolIdentity callId name
    requireBoundedString input (32 * 1024) (fail "tool_input_invalid")
    return next
  | .toolCompleted segmentId segmentSequence callId _ name output _ artifactRef _
      workspaceChanges => do
    requireStatus state event.data [.running]
    validateSegmentIdentity segmentId segmentSequence
    validateToolIdentity callId name
    requireBoundedString output 40000 (fail "tool_output_invalid")
    requireNullableNonEmpty artifactRef (fail "tool_artifact_ref_invalid")
    whenPresent workspaceChanges fun changes =>
      (validateWorkspaceChangeSummary changes).mapError fun _ =>
        fail "tool_workspace_changes_invalid"
    return next
  | .contextCompacted stepId compactionItemId _ replacesThroughSequence usage => do
    requireStatus state event.data [.running]
    rejectIf (cacheReadReportingError usage = true) (fail "usage_cache_reporting_invalid")
    requireNonEmpty stepId (fail "compaction_step_id_invalid")
    requireNonEmpty compactionItemId (fail "compaction_item_id_invalid")
    rejectIf (isPositiveInteger replacesThroughSequence = false ∨
        isNonNegativeInteger usage.inputTokens = false ∨
        isNonNegativeInteger (usage.cachedInputTokens.getD 0) = false ∨
        usage.inputTokens < usage.cachedInputTokens.getD 0 ∨
        isNonNegativeInteger usage.outputTokens = false ∨
        isSafeInteger usage.totalTokens = false ∨
        usage.totalTokens ≠ usage.inputTokens + usage.outputTokens)
      (fail "context_compaction_invalid")
    let total ← addRunUsage state.usage (normalizedEventUsage usage)
    return { next with usage := total }
  | .segmentCheckpointed segmentId segmentSequence checkpointDigest => do
    requireStatus state event.data [.running]
    validateSegmentIdentity segmentId segmentSequence
    requireDigest checkpointDigest
    return next
  | .segmentCompleted segmentId segmentSequence => do
    requireStatus state event.data [.running]
    validateSegmentIdentity segmentId segmentSequence
    return next
  | .segmentProviderContinuation segmentId segmentSequence sampleIndex throughHistorySequence
      emptyContinuation => do
    requireStatus state event.data [.running]
    validateSegmentIdentity segmentId segmentSequence
    rejectIf (emptyContinuation.all isEmptyProviderContinuationSource = false)
      (fail "provider_continuation_kind_invalid")
    requirePositiveInteger sampleIndex (fail "provider_sample_index_invalid")
    requirePositiveInteger throughHistorySequence (fail "provider_history_sequence_invalid")
    return next
  | .segmentFailed segmentId segmentSequence code _ => do
    requireStatus state event.data [.running]
    validateSegmentIdentity segmentId segmentSequence
    requireNonEmpty code (fail "segment_failure_code_invalid")
    return next
  | .messageCompleted messageId messageSequence contentDigest => do
    requireStatus state event.data [.running]
    requireNonEmpty messageId (fail "message_id_invalid")
    requirePositiveInteger messageSequence (fail "message_sequence_invalid")
    requireDigest contentDigest
    return next
  | .planProposed planId messageId messageSequence contentDigest => do
    requireStatus state event.data [.running]
    rejectIf (state.collaborationMode ≠ .plan) (fail "proposed_plan_mode_invalid")
    requireNonEmpty planId (fail "proposed_plan_id_invalid")
    requireNonEmpty messageId (fail "proposed_plan_message_invalid")
    requirePositiveInteger messageSequence (fail "proposed_plan_message_sequence_invalid")
    requireDigest contentDigest
    return next

/-- The checks of the workflow version a run is created for. -/
def parseFrozenWorkflowVersionBinding (binding : FrozenWorkflowVersionBinding) :
    Checked FrozenWorkflowVersionBinding := do
  let workflowId ← (parseWorkflowVersionIdentityId binding.workflowId
    "workflow_id_invalid").mapError asRunLifecycleError
  let workflowVersionId ← (parseWorkflowVersionIdentityId binding.workflowVersionId
    "workflow_version_id_invalid").mapError asRunLifecycleError
  requireDigest binding.contentDigest
  return ⟨workflowId, workflowVersionId, binding.contentDigest⟩

/-- The checks of the origin a run is created with. -/
def parseRunOrigin (origin : Option AutomationInvocationOrigin) :
    Checked (Option AutomationInvocationOrigin) :=
  mapPresent origin fun value =>
    (parseAutomationInvocationOrigin value).mapError fun _ =>
      runLifecycleError "automation_invocation_origin_invalid"

/-- The checks of the identifiers a run is created with. -/
def validateRunCreatedIds (runId : JsString) (data : RunCreatedData) : Checked Unit := do
  requireNonEmpty runId (runLifecycleError "run_id_invalid")
  requireNonEmpty data.threadId (runLifecycleError "thread_id_invalid")
  requireNonEmpty data.tenantId (runLifecycleError "tenant_id_invalid")
  requireNonEmpty data.spaceId (runLifecycleError "space_id_invalid")
  requireNonEmpty data.createdByActorId (runLifecycleError "created_by_actor_id_invalid")
  requireNonEmpty data.authorityId (runLifecycleError "authority_id_invalid")
  requireNonEmpty data.runtimeGeneration (runLifecycleError "runtime_generation_invalid")
  requireNonEmpty data.agentVersionId (runLifecycleError "agent_version_id_invalid")
  requireNonEmpty data.policySnapshotId (runLifecycleError "policy_snapshot_id_invalid")
  requireNullableNonEmpty data.workspaceBindingId
    (runLifecycleError "workspace_binding_id_invalid")

/-- The checks of how the parts of the creation fit together. -/
def validateRunCreatedShape (runId : JsString) (data : RunCreatedData)
    (origin : Option AutomationInvocationOrigin) : Checked Unit := do
  whenPresent origin fun value => do
    rejectIf (data.purpose ≠ some .turn)
      (runLifecycleError "automation_invocation_purpose_invalid")
    rejectIf (value.binding.runId ≠ runId)
      (runLifecycleError "automation_invocation_run_id_mismatch")
  rejectIf (data.purpose = some .manualCompaction ∧
      (data.collaborationMode ≠ .default ∨ data.goalBinding ≠ none))
    (runLifecycleError "maintenance_run_shape_invalid")
  rejectIf ((¬ (data.purpose = some .workflow ↔ data.workflowVersionBinding ≠ none)) ∨
      (data.purpose = some .workflow ∧
        (data.goalBinding ≠ none ∨ data.collaborationMode ≠ .default)))
    (runLifecycleError "run_execution_binding_invalid")

/-- The state after the first event. -/
def createRun (event : RunLifecycleEvent) : Checked RunState :=
  match event.data with
  | .runCreated data => do
    rejectIf (event.sequence ≠ 1) (runLifecycleError "sequence_gap")
    validateRunCreatedIds event.runId data
    let workflowVersionBinding ←
      mapPresent data.workflowVersionBinding parseFrozenWorkflowVersionBinding
    whenPresent data.goalBinding fun binding =>
      (validateRunGoalBinding binding).mapError asRunLifecycleError
    rejectIf (data.collaborationMode = .plan ∧ data.goalBinding ≠ none)
      (runLifecycleError "plan_goal_binding_invalid")
    rejectIf (data.goalContinuationMode = some .deferred ∧
        (data.collaborationMode ≠ .default ∨ data.goalBinding = none))
      (runLifecycleError "deferred_goal_run_invalid")
    let origin ← parseRunOrigin data.origin
    validateRunCreatedShape event.runId data origin
    let goalAccounting ← mapPresent data.goalBinding fun binding =>
      createRunGoalAccountingCursor binding event.occurredAt
    return {
      runId := event.runId
      threadId := data.threadId
      tenantId := data.tenantId
      spaceId := data.spaceId
      createdByActorId := data.createdByActorId
      authorityId := data.authorityId
      runtimeGeneration := data.runtimeGeneration
      agentVersionId := data.agentVersionId
      policySnapshotId := data.policySnapshotId
      workspaceBindingId := data.workspaceBindingId
      workflowVersionBinding := workflowVersionBinding
      collaborationMode := data.collaborationMode
      toolPermissionMode := data.toolPermissionMode
      purpose := data.purpose
      origin := origin
      goalBinding := data.goalBinding
      goalContinuationMode := data.goalContinuationMode
      goalAccounting := goalAccounting
      plan := none
      usage := .zero
      status := .queued
      revision := 1
      lastSequence := 1
      cancelRequested := false
      waitingApproval := none
      suspensionReasonCode := none
      reconciliationReceiptId := none
      outputRef := none
      failure := none
      createdAt := event.occurredAt
      updatedAt := event.occurredAt
      terminalAt := none }
  | _ => .error (runLifecycleError "run_not_created")

/-- Accept or reject one event in a state. -/
def reduceRunLifecycleEvent (state : Option RunState) (event : RunLifecycleEvent) :
    Checked RunState := do
  validateEventEnvelope event
  match state with
  | none => createRun event
  | some state =>
    rejectIf (event.runId ≠ state.runId) (runLifecycleError "run_id_mismatch")
    rejectIf (event.sequence ≠ state.lastSequence + 1) (runLifecycleError "sequence_gap")
    rejectIf (isTerminal state.status = true) (runLifecycleError "terminal_state")
    validateCancelProgress state event.data
    applyRunEvent state event

/-- Fold a log from its first event. -/
def replayRunLifecycle (events : List RunLifecycleEvent) : Checked RunState := do
  let state ← replayFrom reduceRunLifecycleEvent none events
  match state with
  | none => .error (runLifecycleError "run_events_empty")
  | some state => return state

end Crewon.Domain
