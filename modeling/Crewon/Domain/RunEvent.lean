import Crewon.Domain.RunGoalAccounting
import Crewon.Domain.RunRecords

/-!
# Run events and the state of a run

A run is an append-only log of events. The state is what the log folds to.
-/

namespace Crewon.Domain

open Crewon.Js

/-- The status of a run. -/
inductive RunStatus where
  | queued
  | running
  | waitingApproval
  | suspended
  | reconciling
  | completed
  | failed
  | canceled
deriving DecidableEq

/-- The status as it is written. -/
def RunStatus.text : RunStatus → String
  | .queued => "queued"
  | .running => "running"
  | .waitingApproval => "waitingApproval"
  | .suspended => "suspended"
  | .reconciling => "reconciling"
  | .completed => "completed"
  | .failed => "failed"
  | .canceled => "canceled"

/-- A run that has ended. -/
def isTerminal (status : RunStatus) : Bool :=
  status = .completed || status = .failed || status = .canceled

/-- What a run is for. -/
inductive RunPurpose where
  | turn
  | manualCompaction
  | workflow
deriving DecidableEq

/-- How much of the tool approval the user delegated for one run. -/
inductive RunToolPermissionMode where
  | requestApproval
  | approveForMe
  | fullAccess
deriving DecidableEq

/-- Automatic goal continuation is deferred after the run. -/
inductive GoalContinuationMode where
  | deferred
deriving DecidableEq

/-- A tool is called as a function or as a custom tool. -/
inductive ToolKind where
  | function
  | custom
deriving DecidableEq

/-- A reasoning summary grows by text or by a new part. -/
inductive ReasoningSummaryKind where
  | delta
  | partAdded
deriving DecidableEq

/-- What started a compaction. -/
inductive CompactionMode where
  | auto
  | manual
deriving DecidableEq

/-- Token counts as an event reports them. -/
structure ReportedUsage where
  inputTokens : Int
  cachedInputTokens : Option Int
  cachedInputTokensReported : Option Bool
  outputTokens : Int
  totalTokens : Int
deriving DecidableEq

/-- The facts a run is created with. -/
structure RunCreatedData where
  threadId : JsString
  tenantId : JsString
  spaceId : JsString
  createdByActorId : JsString
  authorityId : JsString
  runtimeGeneration : JsString
  agentVersionId : JsString
  policySnapshotId : JsString
  workspaceBindingId : Option JsString
  workflowVersionBinding : Option FrozenWorkflowVersionBinding
  collaborationMode : RunCollaborationMode
  toolPermissionMode : Option RunToolPermissionMode
  goalBinding : Option RunGoalBinding
  goalContinuationMode : Option GoalContinuationMode
  purpose : Option RunPurpose
  origin : Option AutomationInvocationOrigin
deriving DecidableEq

/-- The approval a waiting run waits for. -/
structure WaitingApproval where
  approvalId : JsString
  actionDigest : JsString
deriving DecidableEq

/-- Why a run failed. -/
structure RunFailure where
  code : JsString
  retryable : Bool
deriving DecidableEq

/-- The type of an event with its data. -/
inductive RunEventData where
  | runCreated (data : RunCreatedData)
  | runStarted
  | runApprovalRequired (data : WaitingApproval)
  | runResumed (reasonCode : JsString)
  | runSuspended (reasonCode : JsString)
  | runReconciliationRequired (receiptId : JsString)
  | runCancelRequested (actorId : JsString)
  | runCompleted (outputRef : Option JsString)
  | runFailed (data : RunFailure)
  | runCanceled (reasonCode : JsString)
  | runGoalAccountingUpdated (next : RunGoalAccountingCursor)
  | runGoalSteeringConsumed (handoffId : JsString)
  | runPlanUpdated (callId : JsString) (plan : RunPlan)
  | segmentStarted (segmentId : JsString) (segmentSequence attempt : Int)
  | modelSamplingRetry (segmentId : JsString) (segmentSequence samplingAttempt maxRetries : Int)
      (code : JsString) (discardedOutput : Bool)
  | modelTransportFallback (segmentId : JsString) (segmentSequence : Int)
      (fromTransport toTransport code : JsString) (discardedOutput : Bool)
  | modelOutputDelta (segmentId : JsString) (segmentSequence : Int) (delta : JsString)
  | modelReasoningSummary (segmentId : JsString) (segmentSequence : Int)
      (kind : ReasoningSummaryKind) (summaryIndex : Int) (delta : Option JsString)
  | toolRequested (segmentId : JsString) (segmentSequence : Int) (callId : JsString)
      (kind : ToolKind) (name input : JsString)
  | toolCompleted (segmentId : JsString) (segmentSequence : Int) (callId : JsString)
      (kind : ToolKind) (name output : JsString) (isError : Bool)
      (artifactRef : Option JsString) (outputTruncated : Bool)
      (workspaceChanges : Option WorkspaceChangeSummary)
  | contextCompacted (stepId compactionItemId : JsString) (mode : CompactionMode)
      (replacesThroughSequence : Int) (usage : ReportedUsage)
  | rateLimitUpdated (segmentId : JsString) (segmentSequence : Int)
      (snapshot : RunRateLimitSnapshot)
  | usageRecorded (segmentId : JsString) (segmentSequence : Int) (usage : ReportedUsage)
  | segmentCheckpointed (segmentId : JsString) (segmentSequence : Int)
      (checkpointDigest : JsString)
  | segmentCompleted (segmentId : JsString) (segmentSequence : Int)
  | segmentProviderContinuation (segmentId : JsString) (segmentSequence sampleIndex
      throughHistorySequence : Int) (emptyContinuation : Option EmptyProviderContinuationSource)
  | segmentFailed (segmentId : JsString) (segmentSequence : Int) (code : JsString)
      (retryable : Bool)
  | planProposed (planId messageId : JsString) (messageSequence : Int) (contentDigest : JsString)
  | messageCompleted (messageId : JsString) (messageSequence : Int) (contentDigest : JsString)
deriving DecidableEq

/-- The type of the event as it is written. -/
def RunEventData.type : RunEventData → String
  | .runCreated .. => "run.created"
  | .runStarted => "run.started"
  | .runApprovalRequired .. => "run.approval.required"
  | .runResumed .. => "run.resumed"
  | .runSuspended .. => "run.suspended"
  | .runReconciliationRequired .. => "run.reconciliation.required"
  | .runCancelRequested .. => "run.cancel.requested"
  | .runCompleted .. => "run.completed"
  | .runFailed .. => "run.failed"
  | .runCanceled .. => "run.canceled"
  | .runGoalAccountingUpdated .. => "run.goal.accounting.updated"
  | .runGoalSteeringConsumed .. => "run.goal.steering.consumed"
  | .runPlanUpdated .. => "run.plan.updated"
  | .segmentStarted .. => "segment.started"
  | .modelSamplingRetry .. => "model.sampling.retry"
  | .modelTransportFallback .. => "model.transport.fallback"
  | .modelOutputDelta .. => "model.output.delta"
  | .modelReasoningSummary .. => "model.reasoning.summary"
  | .toolRequested .. => "tool.requested"
  | .toolCompleted .. => "tool.completed"
  | .contextCompacted .. => "context.compacted"
  | .rateLimitUpdated .. => "rate_limit.updated"
  | .usageRecorded .. => "usage.recorded"
  | .segmentCheckpointed .. => "segment.checkpointed"
  | .segmentCompleted .. => "segment.completed"
  | .segmentProviderContinuation .. => "segment.provider_continuation"
  | .segmentFailed .. => "segment.failed"
  | .planProposed .. => "plan.proposed"
  | .messageCompleted .. => "message.completed"

/-- One event of the log of a run. -/
structure RunLifecycleEvent where
  schemaVersion : JsString
  runId : JsString
  eventId : JsString
  sequence : Int
  occurredAt : JsString
  data : RunEventData
deriving DecidableEq

/-- The state of a run. -/
structure RunState where
  runId : JsString
  threadId : JsString
  tenantId : JsString
  spaceId : JsString
  createdByActorId : JsString
  authorityId : JsString
  runtimeGeneration : JsString
  agentVersionId : JsString
  policySnapshotId : JsString
  workspaceBindingId : Option JsString
  workflowVersionBinding : Option FrozenWorkflowVersionBinding
  collaborationMode : RunCollaborationMode
  toolPermissionMode : Option RunToolPermissionMode
  purpose : Option RunPurpose
  origin : Option AutomationInvocationOrigin
  goalBinding : Option RunGoalBinding
  goalContinuationMode : Option GoalContinuationMode
  goalAccounting : Option RunGoalAccountingCursor
  plan : Option RunPlan
  usage : RunUsage
  status : RunStatus
  revision : Int
  lastSequence : Int
  cancelRequested : Bool
  waitingApproval : Option WaitingApproval
  suspensionReasonCode : Option JsString
  reconciliationReceiptId : Option JsString
  outputRef : Option JsString
  failure : Option RunFailure
  createdAt : JsString
  updatedAt : JsString
  terminalAt : Option JsString
deriving DecidableEq

end Crewon.Domain
