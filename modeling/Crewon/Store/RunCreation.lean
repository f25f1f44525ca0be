import Crewon.Store.ModelProviderSettings

/-!
# The entry points that write runs

A run is created by a commit of its own, by the start of a turn, by the invocation of an automation,
by a change of the goal of its thread, or when another run of the thread completes. What the tables
of threads, goals, histories, messages and work say of a commit is given.
-/

namespace Crewon.Store

open Crewon.Js Crewon.Checked Crewon.Domain Crewon.Lib

/-- What the other tables of the store say of a commit: it was made before, or its checks there
pass or fail. -/
inductive CommitAdmission where
  | replayed
  | judged (verdict : Checked Unit)

/-- A commit of events of a run. -/
structure RunCommit where
  tenantId : JsString
  expectedRevision : Int
  events : List RunLifecycleEvent

/-- The start of a turn of a thread. -/
structure TurnStart where
  tenantId : JsString
  threadId : JsString
  expectedRevision : Int
  events : List RunLifecycleEvent

/-- A change of the goal of a thread, with what it does to the runs of the thread. -/
structure ThreadGoalMutation where
  tenantId : JsString
  threadId : JsString
  queuedRunCancellation : Option (List RunLifecycleEvent)
  retainedRunUpdate : Option (List RunLifecycleEvent)
  continuation : Option (List RunLifecycleEvent)

/-- The completion of a run, with the run that continues its goal. -/
structure TextRunCompletion where
  tenantId : JsString
  threadId : JsString
  expectedRevision : Int
  events : List RunLifecycleEvent
  goalContinuation : Option (List RunLifecycleEvent)

/-- The invocation of an automation. -/
structure AutomationInvocation where
  tenantId : JsString
  threadId : JsString
  runId : JsString
  event : RunLifecycleEvent

/-- The creation that an event records. -/
def creationOf (event : RunLifecycleEvent) : Option RunCreatedData :=
  match event.data with
  | .runCreated data => some data
  | _ => none

/-- The creation that is the only one of the events. -/
def soleCreation : List RunLifecycleEvent → Option (RunLifecycleEvent × RunCreatedData)
  | [event] => (creationOf event).map fun data => (event, data)
  | _ => none

/-- An operation of the tenant on its settings is pending. -/
def ProviderSettingsStore.switchPending (store : ProviderSettingsStore) (tenantId : JsString) :
    Bool :=
  (store.pendingModelProviderSettings.find tenantId).isSome

/-- The active runs of a thread. -/
def ProviderSettingsStore.activeRuns (store : ProviderSettingsStore)
    (tenantId threadId : JsString) : List RunState :=
  store.runs.values.filter fun run =>
    run.tenantId = tenantId && run.threadId = threadId && !isTerminal run.status

/-- Store the states of runs in turn. -/
def ProviderSettingsStore.storeRunStates (states : List (JsString × RunState))
    (store : ProviderSettingsStore) : ProviderSettingsStore :=
  { store with runs := store.runs.setAll states }

/-- The state that events lead to. -/
def reduceRun (current : Option RunState) (events : List RunLifecycleEvent) : Checked RunState := do
  let reduced ← Replay.replayFrom reduceRunLifecycleEvent current events
  match reduced with
  | none => .error (runStoreError "events_empty")
  | some next => return next

/-- What a commit that is no replay writes: the states of runs under their ids. It created some of
these runs. -/
structure RunWrites where
  stored : List (JsString × RunState)
  created : List RunState

/-- A state under the id that it names. -/
def ownEntry (state : RunState) : JsString × RunState := (state.runId, state)

/-- A commit answers a request that it has answered before, or checks what it writes first. -/
def commitRuns (admission : CommitAdmission) (plan : ProviderSettingsStore → Checked RunWrites) :
    Program Failure ProviderSettingsStore (List RunState) :=
  match admission with
  | .replayed => return []
  | .judged verdict => do
    let store ← Program.read id
    let writes ← Program.check (plan store)
    Program.check verdict
    Program.update (ProviderSettingsStore.storeRunStates writes.stored)
    return writes.created

/-- The checks of a commit of events. -/
def validateRunCommit (input : RunCommit) : Checked RunLifecycleEvent :=
  match input.events with
  | [] => .error (runStoreError "events_empty")
  | first :: _ => do
    requireNonEmpty input.tenantId (runStoreError "tenant_id_invalid")
    rejectIf (isNonNegativeInteger input.expectedRevision = false)
      (runStoreError "expected_revision_invalid")
    requireNonEmpty first.runId (runStoreError "run_id_invalid")
    rejectIf (∃ data ∈ creationOf first, data.tenantId ≠ input.tenantId)
      (runStoreError "tenant_id_mismatch")
    return first

/-- What a commit of events writes. -/
def planRunCommit (input : RunCommit) (first : RunLifecycleEvent) (store : ProviderSettingsStore) :
    Checked RunWrites := do
  let current := store.runs.find first.runId
  rejectIf (current = none ∧ store.switchPending input.tenantId = true)
    (runStoreError "model_provider_settings_switch_pending")
  whenPresent current fun state =>
    rejectIf (state.tenantId ≠ input.tenantId) (runStoreError "tenant_id_mismatch")
  rejectIf (input.expectedRevision ≠ (current.map (·.revision)).getD 0)
    (runStoreError "revision_conflict")
  forEach input.events fun event =>
    rejectIf (event.runId ≠ first.runId) (runStoreError "run_id_mismatch")
  let next ← reduceRun current input.events
  return ⟨[(first.runId, next)], if current = none then [next] else []⟩

/-- Commit events of a run. -/
def commitRunEventsOf (admission : CommitAdmission) (input : RunCommit) :
    Program Failure ProviderSettingsStore (List RunState) := do
  let first ← Program.check (validateRunCommit input)
  commitRuns admission (planRunCommit input first)

/-- The checks of the start of a turn. -/
def validateTurnStart (input : TurnStart) : Checked RunLifecycleEvent := do
  let first ← validateRunCommit ⟨input.tenantId, input.expectedRevision, input.events⟩
  match soleCreation input.events with
  | none => .error (runStoreError "turn_start_shape_invalid")
  | some (_, data) => do
    rejectIf (input.expectedRevision ≠ 0) (runStoreError "turn_start_shape_invalid")
    rejectIf (data.threadId ≠ input.threadId ∨ data.tenantId ≠ input.tenantId)
      (runStoreError "turn_start_message_mismatch")
    return first

/-- What the start of a turn writes. -/
def planTurnStart (input : TurnStart) (first : RunLifecycleEvent) (store : ProviderSettingsStore) :
    Checked RunWrites := do
  rejectIf (store.switchPending input.tenantId = true)
    (runStoreError "model_provider_settings_switch_pending")
  rejectIf (store.activeRuns input.tenantId input.threadId ≠ [])
    (runStoreError "thread_active_run_conflict")
  rejectIf ((store.runs.find first.runId).isSome = true) (runStoreError "revision_conflict")
  let next ← reduceRun none input.events
  rejectIf (next.tenantId ≠ input.tenantId ∨ next.threadId ≠ input.threadId)
    (runStoreError "turn_start_authority_mismatch")
  return ⟨[(first.runId, next)], [next]⟩

/-- Start a turn. -/
def commitTurnStart (admission : CommitAdmission) (input : TurnStart) :
    Program Failure ProviderSettingsStore (List RunState) := do
  let first ← Program.check (validateTurnStart input)
  commitRuns admission (planTurnStart input first)

/-- The events request the cancellation of a run because its goal changed, and cancel it. -/
def cancelsForGoal : List RunLifecycleEvent → Bool
  | [requested, canceled] =>
    match requested.data, canceled.data with
    | .runCancelRequested _, .runCanceled reasonCode =>
      requested.occurredAt = canceled.occurredAt && reasonCode = js "goal_mutated"
    | _, _ => false
  | _ => false

/-- The queued run that a change of the goal cancels. -/
def reduceThreadGoalQueuedRunCancellation (events : List RunLifecycleEvent) (current : RunState) :
    Checked RunState := do
  forEach events fun event =>
    rejectIf (event.runId ≠ current.runId) (runStoreError "run_id_mismatch")
  rejectIf (cancelsForGoal events = false) (runStoreError "goal_queued_run_cancellation_invalid")
  let next ← reduceRun (some current) events
  rejectIf (next.status ≠ .canceled) (runStoreError "goal_queued_run_cancellation_invalid")
  return next

/-- The run that goes on under the changed goal. -/
def reduceThreadGoalRetainedRunUpdate (events : List RunLifecycleEvent) (current : RunState) :
    Checked RunState := do
  rejectIf (current.collaborationMode ≠ .default)
    (runStoreError "goal_retained_run_update_invalid")
  match events with
  | [event] =>
    match event.data with
    | .runGoalAccountingUpdated _ => do
      rejectIf (event.runId ≠ current.runId) (runStoreError "run_id_mismatch")
      reduceRun (some current) events
    | _ => .error (runStoreError "goal_retained_run_update_invalid")
  | _ => .error (runStoreError "goal_retained_run_update_invalid")

/-- The run that a change of the goal starts. -/
def reduceThreadGoalContinuation (events : List RunLifecycleEvent) (tenantId threadId : JsString) :
    Checked RunState := do
  match soleCreation events with
  | none => .error (runStoreError "goal_activation_shape_invalid")
  | some _ => do
    let next ← reduceRun none events
    rejectIf (next.tenantId ≠ tenantId ∨ next.threadId ≠ threadId ∨
      next.collaborationMode ≠ .default) (runStoreError "goal_activation_shape_invalid")
    return next

/-- What a change of the goal does to the active run: it is cancelled or updated. -/
def reduceActiveRun (activeRun : Option RunState)
    (reduce : List RunLifecycleEvent → RunState → Checked RunState) (unexpected : String)
    (events : Option (List RunLifecycleEvent)) : Checked (Option RunState) :=
  match events, activeRun with
  | none, _ => .ok none
  | some _, none => .error (runStoreError unexpected)
  | some events, some current => (reduce events current).map some

/-- What a change of the goal writes. -/
def planThreadGoalMutation (input : ThreadGoalMutation) (store : ProviderSettingsStore) :
    Checked RunWrites := do
  rejectIf (input.continuation ≠ none ∧ store.switchPending input.tenantId = true)
    (runStoreError "model_provider_settings_switch_pending")
  let activeRuns := store.activeRuns input.tenantId input.threadId
  rejectIf (1 < activeRuns.length) (runStoreError "thread_active_run_invariant")
  let canceled ← reduceActiveRun activeRuns.head? reduceThreadGoalQueuedRunCancellation
    "goal_queued_run_cancellation_unexpected" input.queuedRunCancellation
  rejectIf (canceled ≠ none ∧ input.retainedRunUpdate ≠ none)
    (runStoreError "goal_retained_run_update_unexpected")
  let retained ← reduceActiveRun activeRuns.head? reduceThreadGoalRetainedRunUpdate
    "goal_retained_run_update_unexpected" input.retainedRunUpdate
  rejectIf (input.continuation ≠ none ∧ activeRuns ≠ [] ∧ canceled = none)
    (runStoreError "goal_activation_unexpected")
  let continued ← mapPresent input.continuation fun events =>
    reduceThreadGoalContinuation events input.tenantId input.threadId
  whenPresent continued fun next =>
    rejectIf (activeRuns.head?.map (·.runId) = some next.runId)
      (runStoreError "goal_activation_run_conflict")
  return ⟨(canceled.toList ++ retained.toList ++ continued.toList).map ownEntry, continued.toList⟩

/-- Change the goal of a thread. -/
def commitThreadGoalMutation (admission : CommitAdmission) (input : ThreadGoalMutation) :
    Program Failure ProviderSettingsStore (List RunState) :=
  commitRuns admission (planThreadGoalMutation input)

/-- The event completes its run. -/
def completesRun (event : RunLifecycleEvent) : Bool :=
  match event.data with
  | .runCompleted _ => true
  | _ => false

/-- The checks of the completion of a run: its last event records that. -/
def validateTextRunCompletion (input : TextRunCompletion) : Checked RunLifecycleEvent := do
  let first ← validateRunCommit ⟨input.tenantId, input.expectedRevision, input.events⟩
  rejectIf ((input.events.getLast?.map completesRun).getD false = false)
    (runStoreError "text_completion_shape_invalid")
  return first

/-- The run that continues the goal of a completed run. -/
def reduceGoalContinuationRun (events : List RunLifecycleEvent) (previousRun : RunState) :
    Checked RunState :=
  match soleCreation events with
  | none => .error (runStoreError "goal_continuation_missing")
  | some (event, data) => do
    rejectIf (event.runId = previousRun.runId ∨ data.threadId ≠ previousRun.threadId ∨
        data.tenantId ≠ previousRun.tenantId ∨ data.spaceId ≠ previousRun.spaceId ∨
        data.createdByActorId ≠ previousRun.createdByActorId ∨
        data.authorityId ≠ previousRun.authorityId ∨
        data.runtimeGeneration ≠ previousRun.runtimeGeneration ∨
        data.agentVersionId ≠ previousRun.agentVersionId ∨
        data.policySnapshotId ≠ previousRun.policySnapshotId ∨
        data.workspaceBindingId ≠ previousRun.workspaceBindingId ∨
        data.toolPermissionMode ≠ previousRun.toolPermissionMode ∨
        data.collaborationMode ≠ .default)
      (runStoreError "goal_continuation_shape_invalid")
    (reduceRun none events).mapError fun _ => runStoreError "goal_continuation_shape_invalid"

/-- What the completion of a run writes. -/
def planTextRunCompletion (input : TextRunCompletion) (first : RunLifecycleEvent)
    (store : ProviderSettingsStore) : Checked RunWrites :=
  match store.runs.find first.runId with
  | none => .error (runStoreError "execution_authority_mismatch")
  | some current => do
    rejectIf (current.tenantId ≠ input.tenantId ∨ current.threadId ≠ input.threadId)
      (runStoreError "execution_authority_mismatch")
    rejectIf (current.revision ≠ input.expectedRevision) (runStoreError "revision_conflict")
    forEach input.events fun event =>
      rejectIf (event.runId ≠ first.runId) (runStoreError "run_id_mismatch")
    let next ← reduceRun (some current) input.events
    let continued ← mapPresent input.goalContinuation fun events =>
      reduceGoalContinuationRun events current
    whenPresent continued fun run =>
      rejectIf ((store.runs.find run.runId).isSome = true)
        (runStoreError "goal_continuation_run_conflict")
    return ⟨(first.runId, next) :: continued.toList.map ownEntry, continued.toList⟩

/-- Complete a run. -/
def commitTextRunCompletion (admission : CommitAdmission) (input : TextRunCompletion) :
    Program Failure ProviderSettingsStore (List RunState) := do
  let first ← Program.check (validateTextRunCompletion input)
  commitRuns admission (planTextRunCompletion input first)

/-- What the invocation of an automation writes. -/
def planAutomationInvocation (input : AutomationInvocation) (store : ProviderSettingsStore) :
    Checked RunWrites := do
  rejectIf (store.switchPending input.tenantId = true)
    (runStoreError "model_provider_settings_switch_pending")
  rejectIf (store.activeRuns input.tenantId input.threadId ≠ [])
    (runStoreError "thread_active_run_conflict")
  rejectIf ((store.runs.find input.runId).isSome = true) (runStoreError "run_id_conflict")
  rejectIf (input.event.runId ≠ input.runId) (runStoreError "run_id_mismatch")
  let next ← reduceRun none [input.event]
  rejectIf (next.runId ≠ input.runId ∨ next.threadId ≠ input.threadId ∨
    next.tenantId ≠ input.tenantId) (runStoreError "automation_invocation_authority_mismatch")
  return ⟨[(input.runId, next)], [next]⟩

/-- Rejections become rejections of the store of automations. -/
def normalizeAutomationStoreError (failure : Failure) : Failure :=
  if failure.kind = .store ∨ failure.kind = .automationStore then ⟨.automationStore, failure.code⟩
  else ⟨.automationStore, "automation_store_error"⟩

/-- Invoke an automation. -/
def commitAutomationInvocation (admission : CommitAdmission) (input : AutomationInvocation) :
    Program Failure ProviderSettingsStore (List RunState) :=
  commitRuns admission fun store =>
    (planAutomationInvocation input store).mapError normalizeAutomationStoreError

/-- What any other commit of events of a run that exists writes. -/
def planRunUpdate (runId : JsString) (events : List RunLifecycleEvent)
    (store : ProviderSettingsStore) : Checked RunWrites :=
  match store.runs.find runId with
  | none => .error (runStoreError "run_not_found")
  | some current => do
    let next ← reduceRun (some current) events
    return ⟨[(runId, next)], []⟩

/-- An operation on settings or on runs. -/
inductive ProviderStoreOperation where
  | prepare (input : PrepareModelProviderSettingsInput) (reading : Int)
  | finalize (input : CompleteModelProviderSettingsInput) (reading : Int)
  | abort (input : CompleteModelProviderSettingsInput) (reading : Int)
  | expire (input : ExpireModelProviderSettingsInput) (reading : Int)
  | commitRun (admission : CommitAdmission) (input : RunCommit)
  | startTurn (admission : CommitAdmission) (input : TurnStart)
  | mutateGoal (admission : CommitAdmission) (input : ThreadGoalMutation)
  | completeRun (admission : CommitAdmission) (input : TextRunCompletion)
  | invokeAutomation (admission : CommitAdmission) (input : AutomationInvocation)
  /-- A batch of output, a call of a goal tool. -/
  | updateRun (admission : CommitAdmission) (runId : JsString) (events : List RunLifecycleEvent)

/-- What an operation returns: what it did to settings, or the runs that it created. -/
inductive ProviderStoreOutcome where
  | settings (outcome : ProviderSettingsOutcome)
  | runs (created : List RunState)

/-- The result of a change of settings. -/
def settingsOutcome (program : Program Failure ProviderSettingsStore ProviderSettingsOutcome) :
    Program Failure ProviderSettingsStore ProviderStoreOutcome := do
  let outcome ← program
  return .settings outcome

/-- The result of a commit of runs. -/
def runsOutcome (program : Program Failure ProviderSettingsStore (List RunState)) :
    Program Failure ProviderSettingsStore ProviderStoreOutcome := do
  let created ← program
  return .runs created

section Performing

-- the host's reading of a date text in any format, and the endpoints that the host's reading of
-- addresses accepts
variable (parse : JsString → Option Int) (validEndpoint : JsString → Bool)

/-- Perform an operation. -/
def performProviderStore :
    ProviderStoreOperation → Program Failure ProviderSettingsStore ProviderStoreOutcome
  | .prepare input reading =>
    settingsOutcome (prepareModelProviderSettings parse validEndpoint input reading)
  | .finalize input reading =>
    settingsOutcome (finalizeModelProviderSettings parse validEndpoint input reading)
  | .abort input reading =>
    settingsOutcome (abortModelProviderSettings parse validEndpoint input reading)
  | .expire input reading =>
    settingsOutcome (expireModelProviderSettings parse validEndpoint input reading)
  | .commitRun admission input => runsOutcome (commitRunEventsOf admission input)
  | .startTurn admission input => runsOutcome (commitTurnStart admission input)
  | .mutateGoal admission input => runsOutcome (commitThreadGoalMutation admission input)
  | .completeRun admission input => runsOutcome (commitTextRunCompletion admission input)
  | .invokeAutomation admission input => runsOutcome (commitAutomationInvocation admission input)
  | .updateRun admission runId events =>
    runsOutcome (commitRuns admission (planRunUpdate runId events))

end Performing

end Crewon.Store
