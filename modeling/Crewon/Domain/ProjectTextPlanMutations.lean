import Crewon.Domain.ProjectTextPlan

/-!
# Transitions of text plans

Controls start, pause, revoke, resume, revise and continue a plan; checkpoints record what happens to
the active step. Each one has guards of its own, and what it makes is checked by the parsers and by
the rules of change.
-/

namespace Crewon.Domain

open Crewon.Js Crewon.Checked

/-- What is installed for a project. -/
structure ProjectConversationInstallation where
  tenantId : JsString
  spaceId : JsString
  profileId : JsString
  pluginId : JsString
  publisherId : JsString
  version : JsString
  packageDigest : JsString
  selectionRevision : Int
deriving DecidableEq

/-- Where the runs of a plan execute. -/
structure ExtensionExecutionTarget where
  agentVersionId : JsString
  agentVersionContentDigest : JsString
  materializationDigest : JsString
  authorityId : JsString
  runtimeGeneration : JsString
  policySnapshotId : JsString
  workspaceBindingId : Option JsString
deriving DecidableEq

/-- The action that an interface invoked. -/
inductive ProjectTextPlanAction where
  | start
  | reviseRemaining
  | resume
deriving DecidableEq

/-- The name of an action. -/
def ProjectTextPlanAction.text : ProjectTextPlanAction → String
  | .start => "crewon.project-text-plans.v1.start"
  | .reviseRemaining => "crewon.project-text-plans.v1.reviseRemaining"
  | .resume => "crewon.project-text-plans.v1.resume"

/-- Where a revision of a plan comes from. -/
structure ProjectTextPlanDelegation where
  contributionId : JsString
  actionId : ProjectTextPlanAction
  invocationId : JsString
  idempotencyKey : JsString
  inputDigest : JsString
deriving DecidableEq

/-- A revision of a plan: what its steps are. -/
structure ProjectTextPlanRevision where
  planId : JsString
  planRevision : Int
  actor : CreativeProjectActor
  installation : ProjectConversationInstallation
  projectId : JsString
  threadId : JsString
  bindingId : JsString
  bindingRevision : Int
  workspaceId : Option JsString
  configurationRevision : Int
  configurationDigest : JsString
  target : ExtensionExecutionTarget
  start : ProjectTextPlanStage
  targetStage : ProjectTextPlanStage
  episodeMode : ProjectTextPlanEpisodeMode
  episodeIds : List JsString
  adoption : ProjectTextPlanAdoption
  instruction : JsString
  instructionDigest : JsString
  delegation : ProjectTextPlanDelegation
  sources : ProjectStageSources
  baselines : List ProjectTextPlanHeadBaseline
  createdAt : JsString
  contentDigest : JsString
deriving DecidableEq

/-- An installation as JSON. -/
def ProjectConversationInstallation.json (installation : ProjectConversationInstallation) :
    JsonValue :=
  .object [("tenantId", .string installation.tenantId), ("spaceId", .string installation.spaceId),
    ("profileId", .string installation.profileId), ("pluginId", .string installation.pluginId),
    ("publisherId", .string installation.publisherId), ("version", .string installation.version),
    ("packageDigest", .string installation.packageDigest),
    ("selectionRevision", .number installation.selectionRevision)]

/-- A target as JSON. -/
def ExtensionExecutionTarget.json (target : ExtensionExecutionTarget) : JsonValue :=
  .object [("executionAuthority", jsonName "crewonKernel"),
    ("agentVersionId", .string target.agentVersionId),
    ("agentVersionContentDigest", .string target.agentVersionContentDigest),
    ("materializationDigest", .string target.materializationDigest),
    ("authorityId", .string target.authorityId),
    ("runtimeGeneration", .string target.runtimeGeneration),
    ("policySnapshotId", .string target.policySnapshotId),
    ("workspaceBindingId", .ofOption .string target.workspaceBindingId)]

/-- A delegation as JSON. -/
def ProjectTextPlanDelegation.json (delegation : ProjectTextPlanDelegation) : JsonValue :=
  .object [("kind", jsonName "pluginUi"), ("contributionId", .string delegation.contributionId),
    ("actionId", jsonName delegation.actionId.text),
    ("invocationId", .string delegation.invocationId),
    ("idempotencyKey", .string delegation.idempotencyKey),
    ("inputDigest", .string delegation.inputDigest)]

/-- A revision of a plan as JSON. -/
def ProjectTextPlanRevision.json (definition : ProjectTextPlanRevision) : JsonValue :=
  .object [("schemaVersion", jsonName "crewon.project-text-plan-revision.v1"),
    ("planId", .string definition.planId), ("planRevision", .number definition.planRevision),
    ("actor", definition.actor.json), ("installation", definition.installation.json),
    ("projectId", .string definition.projectId), ("threadId", .string definition.threadId),
    ("bindingId", .string definition.bindingId),
    ("bindingRevision", .number definition.bindingRevision),
    ("workspaceId", .ofOption .string definition.workspaceId),
    ("configurationRevision", .number definition.configurationRevision),
    ("configurationDigest", .string definition.configurationDigest),
    ("target", definition.target.json), ("start", jsonName definition.start.text),
    ("targetStage", jsonName definition.targetStage.text),
    ("episodeMode", jsonName definition.episodeMode.text),
    ("episodeIds", .array (definition.episodeIds.map .string)),
    ("adoption", jsonName definition.adoption.text), ("concurrency", .number 1),
    ("maximumResultsPerStep", .number 1), ("instruction", .string definition.instruction),
    ("instructionDigest", .string definition.instructionDigest),
    ("delegation", definition.delegation.json), ("sources", definition.sources.json),
    ("baselines", .array (definition.baselines.map ProjectTextPlanHeadBaseline.json)),
    ("createdAt", .string definition.createdAt),
    ("contentDigest", .string definition.contentDigest)]

/-- What a step is for: its stage and its episode. -/
structure ProjectTextPlanSlot where
  kind : ProjectTextPlanStage
  episodeId : Option JsString
deriving DecidableEq

/-- What a step is for. -/
def ProjectTextPlanStepBody.slot (step : ProjectTextPlanStepBody) : ProjectTextPlanSlot :=
  ⟨step.kind, step.episodeId⟩

/-- The slots of a revision, in their order. -/
def revisionSlots (definition : ProjectTextPlanRevision) : List ProjectTextPlanSlot :=
  (if definition.start = .brief then [⟨.brief, none⟩] else []) ++
    (if definition.start ≠ .script ∧ definition.targetStage ≠ .brief then [⟨.outline, none⟩]
      else []) ++
    if definition.targetStage = .script then
      definition.episodeIds.map fun episodeId => ⟨.script, some episodeId⟩
    else []

/-- The slots of a revision, of which there are some but not too many. -/
def projectTextPlanStepKinds (definition : ProjectTextPlanRevision) :
    Checked (List ProjectTextPlanSlot) := do
  let steps := revisionSlots definition
  rejectIf (steps.length = 0 ∨ 18 < steps.length) (planFailure "project_text_plan_invalid")
  return steps

/-- The admission of a run, as far as a plan reads it. -/
structure ProjectTextPlanRunAdmission where
  stepId : JsString
  stepRevision : Int
  runId : JsString
  stageAdmissionDigest : JsString
  taskIdempotencyKey : JsString
  sources : ProjectStageSources
  baseline : Option ProjectTextPlanHeadBaseline
  contentDigest : JsString
deriving DecidableEq

/-- A new step for a slot. -/
def newStep (definition : ProjectTextPlanRevision) (slot : ProjectTextPlanSlot) (stepId : JsString)
    (ordinal attempt : Int) (time : JsString) : ProjectTextPlanStepBody where
  schemaVersion := projectTextPlanStepSchema
  planId := definition.planId
  planRevision := definition.planRevision
  stepId := stepId
  ordinal := ordinal
  kind := slot.kind
  episodeId := slot.episodeId
  attempt := attempt
  revision := 1
  state := .ready
  sources := none
  baseline := none
  input := none
  run := none
  result := none
  selection := none
  terminal := none
  createdAt := time
  updatedAt := time

/-- The attempt of a new step for a slot: one more than the one that was run. -/
def nextAttempt (previousSteps : List ProjectTextPlanStep) (slot : ProjectTextPlanSlot) : Int :=
  match previousSteps.find? fun step => step.slot = slot with
  | none => 1
  | some prior => prior.attempt + if prior.run = none then 0 else 1

/-- The slots of which the previous steps have finished none. -/
def unfinishedSlots (slots : List ProjectTextPlanSlot) (previousSteps : List ProjectTextPlanStep) :
    List ProjectTextPlanSlot :=
  slots.filter fun slot =>
    !previousSteps.any fun step => step.slot = slot && step.state = .succeeded

/-- The slots of a first revision, one for each name. -/
def firstSlots (definition : ProjectTextPlanRevision) (stepIds : List JsString) :
    Checked (List ProjectTextPlanSlot) := do
  let slots ← projectTextPlanStepKinds definition
  rejectIf (stepIds.length ≠ slots.length ∨ ¬ stepIds.Nodup)
    (planFailure "project_text_plan_steps_invalid")
  return slots

/-- The slots of a later revision that remain, one for each name. -/
def remainingSlots (definition : ProjectTextPlanRevision)
    (previousSteps : List ProjectTextPlanStep) (stepIds : List JsString) :
    Checked (List ProjectTextPlanSlot) := do
  let slots ← projectTextPlanStepKinds definition
  let remaining := unfinishedSlots slots previousSteps
  rejectIf (remaining.length = 0 ∨ stepIds.length ≠ remaining.length ∨ ¬ stepIds.Nodup ∨
      stepIds.any (fun stepId => previousSteps.any fun step => step.stepId = stepId) = true)
    (planFailure "project_text_plan_remaining_steps_invalid")
  return remaining

section Digest

variable (sha256 : JsString → JsString)

/-- Make a step for each slot, from an ordinal on. -/
def createSteps (definition : ProjectTextPlanRevision) (attempt : ProjectTextPlanSlot → Int)
    (time : JsString) : Int → List ProjectTextPlanSlot → List JsString →
      Checked (List ProjectTextPlanStep)
  | ordinal, slot :: slots, stepId :: stepIds => do
    let step ← createProjectTextPlanStep sha256
      (newStep definition slot stepId ordinal (attempt slot) time)
    let rest ← createSteps definition attempt time (ordinal + 1) slots stepIds
    return step :: rest
  | _, _, _ => return []

/-- The first steps of a plan. -/
def createProjectTextPlanSteps (definition : ProjectTextPlanRevision) (stepIds : List JsString)
    (time : JsString) : Checked (List ProjectTextPlanStep) := do
  let slots ← firstSlots definition stepIds
  createSteps sha256 definition (fun _ => 1) time 1 slots stepIds

/-- The steps of a later revision, for what the previous steps have not finished. -/
def createProjectTextPlanRemainingSteps (definition : ProjectTextPlanRevision)
    (previousSteps : List ProjectTextPlanStep) (stepIds : List JsString) (time : JsString) :
    Checked (List ProjectTextPlanStep) := do
  let slots ← remainingSlots definition previousSteps stepIds
  createSteps sha256 definition (nextAttempt previousSteps) time 1 slots stepIds

/-- Change a plan, and check the change. -/
def updatePlan (plan : ProjectTextPlan) (patch : ProjectTextPlanBody → ProjectTextPlanBody)
    (time : JsString) : Checked ProjectTextPlan := do
  let next ← createProjectTextPlan sha256
    { patch plan.toProjectTextPlanBody with
      schemaVersion := projectTextPlanSchema
      revision := plan.revision + 1
      updatedAt := time }
  assertProjectTextPlanChange plan next
  return next

/-- Change a step, and check the change. -/
def updateStep (step : ProjectTextPlanStep)
    (patch : ProjectTextPlanStepBody → ProjectTextPlanStepBody) (time : JsString) :
    Checked ProjectTextPlanStep := do
  let next ← createProjectTextPlanStep sha256
    { patch step.toProjectTextPlanStepBody with
      schemaVersion := projectTextPlanStepSchema
      revision := step.revision + 1
      updatedAt := time }
  assertProjectTextPlanStepChange step next
  return next

/-- Two values have the same canonical text. -/
def sameJson (left right : JsonValue) (failure : Failure) : Checked Unit := do
  let first ← extensionCanonicalJson left
  let second ← extensionCanonicalJson right
  rejectIf (first ≠ second) failure

/-- A revision is one of the plan. -/
def assertIdentity (plan : ProjectTextPlan) (definition : ProjectTextPlanRevision) :
    Checked Unit := do
  rejectIf (plan.projectId ≠ definition.projectId ∨ plan.threadId ≠ definition.threadId ∨
      plan.bindingId ≠ definition.bindingId ∨ plan.workspaceId ≠ definition.workspaceId)
    (planFailure "project_text_plan_identity_changed")
  rejectIf (plan.profileId ≠ definition.installation.profileId)
    (planFailure "project_text_plan_identity_changed")
  sameJson plan.owner.json definition.actor.json (planFailure "project_text_plan_identity_changed")

/-- A plan with its steps. -/
structure ProjectTextPlanChange where
  plan : ProjectTextPlan
  steps : List ProjectTextPlanStep
deriving DecidableEq

/-- A plan with one of its steps. -/
structure ProjectTextPlanCheckpoint where
  plan : ProjectTextPlan
  step : ProjectTextPlanStep
deriving DecidableEq

/-- What a control is given. -/
structure ProjectTextPlanControlInput where
  previous : Option ProjectTextPlan
  previousRevision : Option ProjectTextPlanRevision
  previousSteps : List ProjectTextPlanStep
  definition : ProjectTextPlanRevision
  stepIds : List JsString
  time : JsString
  authorizationUnavailable : Bool

/-- The state of a plan that gets new steps. -/
def freshState (authorizationUnavailable : Bool) : ProjectTextPlanState :=
  if authorizationUnavailable then .paused else .ready

/-- Why a plan that gets new steps is paused. -/
def freshReason (authorizationUnavailable : Bool) : Option ProjectTextPlanPauseReason :=
  if authorizationUnavailable then some .authorizationUnavailable else none

/-- What has to hold before a plan is started. -/
def startGuard (input : ProjectTextPlanControlInput) : Checked Unit := do
  creativeProjectTimestamp input.time
  rejectIf (input.previous ≠ none ∨ input.previousRevision ≠ none ∨ input.previousSteps ≠ [] ∨
      input.definition.planRevision ≠ 1 ∨ input.definition.delegation.actionId ≠ .start)
    (planFailure "project_text_plan_transition_invalid")

/-- Start a plan. -/
def startProjectTextPlan (input : ProjectTextPlanControlInput) : Checked ProjectTextPlanChange := do
  startGuard input
  let steps ← createProjectTextPlanSteps sha256 input.definition input.stepIds input.time
  let plan ← createProjectTextPlan sha256 {
    schemaVersion := projectTextPlanSchema
    planId := input.definition.planId
    owner := input.definition.actor
    profileId := input.definition.installation.profileId
    projectId := input.definition.projectId
    threadId := input.definition.threadId
    bindingId := input.definition.bindingId
    workspaceId := input.definition.workspaceId
    revision := 1
    currentPlanRevision := 1
    state := freshState input.authorizationUnavailable
    activeStepId := steps.head?.map fun step => step.stepId
    pauseReason := freshReason input.authorizationUnavailable
    wakeRevision := 1
    createdAt := input.time
    updatedAt := input.time }
  return ⟨plan, steps⟩

/-- The plan and the revision that a later control is about. -/
def previousGuard (input : ProjectTextPlanControlInput) :
    Checked (ProjectTextPlan × ProjectTextPlanRevision) := do
  creativeProjectTimestamp input.time
  match input.previous, input.previousRevision with
  | some plan, some previousRevision => do
    rejectIf (plan.state = .revoked ∨ plan.planId ≠ input.definition.planId)
      (planFailure "project_text_plan_transition_invalid")
    assertIdentity plan input.definition
    return (plan, previousRevision)
  | _, _ => .error (planFailure "project_text_plan_transition_invalid")

/-- Pause or revoke a plan. -/
def stopProjectTextPlan (state : ProjectTextPlanState)
    (pauseReason : Option ProjectTextPlanPauseReason) (input : ProjectTextPlanControlInput) :
    Checked ProjectTextPlanChange := do
  let (old, previousRevision) ← previousGuard input
  sameJson input.definition.json previousRevision.json
    (planFailure "project_text_plan_transition_invalid")
  rejectIf (old.state = .completed) (planFailure "project_text_plan_transition_invalid")
  let plan ← updatePlan sha256 old
    (fun body => { body with state := state, pauseReason := pauseReason }) input.time
  return ⟨plan, input.previousSteps⟩

/-- The active step of a plan among its steps. -/
def activeStep (plan : ProjectTextPlan) (steps : List ProjectTextPlanStep) :
    Option ProjectTextPlanStep :=
  steps.find? fun step => some step.stepId = plan.activeStepId

/-- What has to hold before the remaining steps are made anew. -/
def remainingGuard (action : ProjectTextPlanAction) (old : ProjectTextPlan)
    (previousRevision : ProjectTextPlanRevision) (input : ProjectTextPlanControlInput) :
    Checked Unit := do
  rejectIf (old.state ≠ .paused ∧ old.state ≠ .waitingSelection)
    (planFailure "project_text_plan_transition_invalid")
  rejectIf (∃ active ∈ activeStep old input.previousSteps,
      active.run ≠ none ∧ active.terminal = none)
    (planFailure "project_text_plan_run_still_active")
  rejectIf (input.definition.planRevision ≠ old.currentPlanRevision + 1 ∨
      input.definition.delegation.actionId ≠ action)
    (planFailure "project_text_plan_transition_invalid")
  let unfinished := input.previousSteps.filter fun step => step.state ≠ .succeeded
  rejectIf (∀ step ∈ unfinished.head?, input.definition.start.order < step.kind.order)
    (planFailure "project_text_plan_remaining_scope_invalid")
  rejectIf (action = .resume ∧
      (input.definition.adoption ≠ previousRevision.adoption ∨
        input.definition.targetStage ≠ previousRevision.targetStage ∨
        (∃ episodeId ∈ input.definition.episodeIds, episodeId ∉ previousRevision.episodeIds) ∨
        (previousRevision.episodeMode = .independentScripts ∧
          input.definition.episodeMode ≠ .independentScripts) ∨
        input.definition.instruction ≠ previousRevision.instruction))
    (planFailure "project_text_plan_resume_scope_changed")

/-- Resume a plan or revise what remains of it. -/
def remakeProjectTextPlan (action : ProjectTextPlanAction) (input : ProjectTextPlanControlInput) :
    Checked ProjectTextPlanChange := do
  let (old, previousRevision) ← previousGuard input
  remainingGuard action old previousRevision input
  let steps ← createProjectTextPlanRemainingSteps sha256 input.definition input.previousSteps
    input.stepIds input.time
  let plan ← updatePlan sha256 old
    (fun body => { body with
      state := freshState input.authorizationUnavailable
      activeStepId := steps.head?.map fun step => step.stepId
      pauseReason := freshReason input.authorizationUnavailable
      wakeRevision := old.wakeRevision + 1
      currentPlanRevision := input.definition.planRevision }) input.time
  return ⟨plan, steps⟩

/-- A step whose result was selected. -/
def selectionConfirmed (step : ProjectTextPlanStep) : Prop :=
  step.runCompleted ∧ step.kind ≠ .brief ∧
    ∃ result ∈ step.result, ∃ selection ∈ step.selection, selects selection result

instance (step : ProjectTextPlanStep) : Decidable (selectionConfirmed step) := by
  unfold selectionConfirmed
  infer_instance

/-- The next step that is ready behind an ordinal. -/
def nextReady (steps : List ProjectTextPlanStep) (ordinal : Int) : Option ProjectTextPlanStep :=
  steps.find? fun step => ordinal < step.ordinal && step.state = .ready

/-- The next step of a revision that is ready behind a step. -/
def nextReadyOf (steps : List ProjectTextPlanStep) (step : ProjectTextPlanStep) :
    Option ProjectTextPlanStep :=
  steps.find? fun other =>
    other.planRevision = step.planRevision && step.ordinal < other.ordinal && other.state = .ready

/-- A plan goes on to its next step, or is completed. -/
def advanceBody (next : Option ProjectTextPlanStep) (body : ProjectTextPlanBody) :
    ProjectTextPlanBody :=
  { body with
    state := if next = none then .completed else .ready
    activeStepId := next.map fun step => step.stepId
    wakeRevision := body.wakeRevision + if next = none then 0 else 1 }

/-- The step that a plan continues from. -/
def continueGuard (old : ProjectTextPlan) (previousRevision : ProjectTextPlanRevision)
    (input : ProjectTextPlanControlInput) : Checked ProjectTextPlanStep := do
  sameJson input.definition.json previousRevision.json
    (planFailure "project_text_plan_transition_invalid")
  rejectIf (old.state ≠ .waitingSelection ∧ old.state ≠ .paused)
    (planFailure "project_text_plan_transition_invalid")
  match activeStep old input.previousSteps with
  | none => .error (planFailure "project_text_plan_selection_required")
  | some step => do
    rejectIf (¬ selectionConfirmed step) (planFailure "project_text_plan_selection_required")
    return step

/-- Put a step in the place of the one of its name. -/
def replaceStep (steps : List ProjectTextPlanStep) (changed : ProjectTextPlanStep) :
    List ProjectTextPlanStep :=
  steps.map fun step => if step.stepId = changed.stepId then changed else step

/-- Continue a plan behind a selected result. -/
def continueProjectTextPlan (input : ProjectTextPlanControlInput) :
    Checked ProjectTextPlanChange := do
  let (old, previousRevision) ← previousGuard input
  let step ← continueGuard old previousRevision input
  let changed ← updateStep sha256 step (fun body => { body with state := .succeeded }) input.time
  let steps := replaceStep input.previousSteps changed
  let plan ← updatePlan sha256 old
    (fun body => { advanceBody (nextReady steps step.ordinal) body with pauseReason := none })
    input.time
  return ⟨plan, steps⟩

/-- The controls of a plan. -/
inductive ProjectTextPlanControl where
  | start
  | pause
  | revoke
  | resume
  | reviseRemaining
  | continue
deriving DecidableEq

/-- Apply a control to a plan. -/
def applyProjectTextPlanControl (kind : ProjectTextPlanControl)
    (input : ProjectTextPlanControlInput) : Checked ProjectTextPlanChange :=
  match kind with
  | .start => startProjectTextPlan sha256 input
  | .pause => stopProjectTextPlan sha256 .paused (some .userPaused) input
  | .revoke => stopProjectTextPlan sha256 .revoked none input
  | .resume => remakeProjectTextPlan sha256 .resume input
  | .reviseRemaining => remakeProjectTextPlan sha256 .reviseRemaining input
  | .continue => continueProjectTextPlan sha256 input

/-- What has to hold before a run is admitted. -/
def admissionGuard (plan : ProjectTextPlan) (step : ProjectTextPlanStep)
    (admission : ProjectTextPlanRunAdmission) : Checked Unit :=
  rejectIf (plan.state ≠ .ready ∨ plan.activeStepId ≠ some step.stepId ∨ step.state ≠ .ready ∨
      step.run ≠ none ∨ plan.currentPlanRevision ≠ step.planRevision ∨
      admission.stepId ≠ step.stepId ∨ admission.stepRevision ≠ step.revision)
    (planFailure "project_text_plan_step_unavailable")

/-- Record that a run was admitted. -/
def checkpointProjectTextPlanAdmission (plan : ProjectTextPlan) (step : ProjectTextPlanStep)
    (admission : ProjectTextPlanRunAdmission) (content : JsString) (expectedThreadRevision : Int)
    (time : JsString) : Checked ProjectTextPlanCheckpoint := do
  admissionGuard plan step admission
  let changed ← updateStep sha256 step
    (fun body => { body with
      state := .admitted
      sources := some admission.sources
      baseline := admission.baseline
      input := some ⟨content, admission.taskIdempotencyKey, expectedThreadRevision⟩
      run := some ⟨admission.runId, admission.stageAdmissionDigest, admission.contentDigest⟩ }) time
  let next ← updatePlan sha256 plan (fun body => { body with state := .running }) time
  return ⟨next, changed⟩

/-- What has to hold before a result is recorded. -/
def resultGuard (plan : ProjectTextPlan) (step : ProjectTextPlanStep)
    (result : ProjectTextPlanResultReference) : Checked Unit := do
  rejectIf (plan.state = .revoked ∨
      step.run.map ProjectTextPlanStepRun.runId ≠ some result.runId ∨ step.kind ≠ result.kind)
    (planFailure "project_text_plan_result_not_authorized")
  whenPresent step.result fun recorded =>
    sameJson recorded.json result.json (planFailure "project_text_plan_result_limit")

/-- Record the result of a run. -/
def checkpointProjectTextPlanResult (plan : ProjectTextPlan) (step : ProjectTextPlanStep)
    (result : ProjectTextPlanResultReference) (time : JsString) :
    Checked ProjectTextPlanCheckpoint := do
  resultGuard plan step result
  if step.result ≠ none then return ⟨plan, step⟩
  else do
    let changed ← updateStep sha256 step (fun body => { body with result := some result }) time
    return ⟨plan, changed⟩

/-- What has to hold before a terminal event is recorded. -/
def terminalGuard (plan : ProjectTextPlan) (step : ProjectTextPlanStep)
    (terminal : ProjectTextPlanTerminal) : Checked Unit := do
  rejectIf (step.run = none ∨ plan.activeStepId ≠ some step.stepId)
    (planFailure "project_text_plan_run_scope_invalid")
  whenPresent step.terminal fun recorded =>
    sameJson recorded.json terminal.json (planFailure "project_text_plan_terminal_changed")

/-- Why a plan is paused by a terminal event. -/
def terminalReason (status : ProjectTextPlanRunStatus) : ProjectTextPlanPauseReason :=
  match status with
  | .failed => .runFailed
  | .canceled => .runCanceled
  | .completed => .resultMissing

/-- What a terminal event makes of a plan and of the state of its step. -/
def terminalChange (plan : ProjectTextPlan) (step : ProjectTextPlanStep)
    (terminal : ProjectTextPlanTerminal) (steps : List ProjectTextPlanStep) :
    (ProjectTextPlanBody → ProjectTextPlanBody) × ProjectTextPlanStepState :=
  if plan.state ≠ .revoked ∧ plan.state ≠ .paused then
    if terminal.status ≠ .completed ∨ step.result = none then
      (fun body => { body with
        state := .paused, pauseReason := some (terminalReason terminal.status) }, .failed)
    else if step.kind = .brief then (advanceBody (nextReadyOf steps step), .succeeded)
    else (fun body => { body with state := .waitingSelection }, .waitingSelection)
  else if terminal.status = .completed ∧ step.result ≠ none then
    (fun body =>
      if plan.state = .paused ∧ step.kind = .brief ∧ nextReadyOf steps step = none then
        { body with state := .completed, pauseReason := none, activeStepId := none }
      else body,
      if step.kind = .brief then .succeeded else .waitingSelection)
  else (id, step.state)

/-- Record the terminal event of a run. -/
def checkpointProjectTextPlanTerminal (plan : ProjectTextPlan) (step : ProjectTextPlanStep)
    (terminal : ProjectTextPlanTerminal) (steps : List ProjectTextPlanStep) (time : JsString) :
    Checked ProjectTextPlanCheckpoint := do
  terminalGuard plan step terminal
  if step.terminal ≠ none then return ⟨plan, step⟩
  else do
    let (patch, state) := terminalChange plan step terminal steps
    let next ← updatePlan sha256 plan patch time
    let changed ← updateStep sha256 step
      (fun body => { body with terminal := some terminal, state := state }) time
    return ⟨next, changed⟩

/-- What has to hold before a selection is recorded. -/
def selectionGuard (plan : ProjectTextPlan) (step : ProjectTextPlanStep)
    (selection : ProjectTextPlanSelectionReference) : Checked Unit := do
  rejectIf (plan.state = .revoked ∨
      ∀ result ∈ step.result, result.kind = .brief ∨ ¬ selects selection result)
    (planFailure "project_text_plan_selection_scope_invalid")
  whenPresent step.selection fun recorded =>
    sameJson recorded.json selection.json (planFailure "project_text_plan_selection_changed")

/-- Record the selection of a result. -/
def checkpointProjectTextPlanSelection (plan : ProjectTextPlan) (step : ProjectTextPlanStep)
    (selection : ProjectTextPlanSelectionReference) (time : JsString) :
    Checked ProjectTextPlanCheckpoint := do
  selectionGuard plan step selection
  if step.selection ≠ none then return ⟨plan, step⟩
  else do
    let changed ← updateStep sha256 step
      (fun body => { body with selection := some selection }) time
    return ⟨plan, changed⟩

/-- What has to hold before a selection is made without the user. -/
def advanceGuard (plan : ProjectTextPlan) (step : ProjectTextPlanStep)
    (selection : ProjectTextPlanSelectionReference) : Checked Unit := do
  rejectIf (selection.mode ≠ .whenUnchanged ∨ plan.state ≠ .waitingSelection ∨
      step.state ≠ .waitingSelection ∨ ¬ step.runCompleted)
    (planFailure "project_text_plan_auto_selection_unavailable")
  selectionGuard plan step selection

/-- Select a result without the user, and go on. -/
def advanceProjectTextPlanSelection (plan : ProjectTextPlan) (step : ProjectTextPlanStep)
    (selection : ProjectTextPlanSelectionReference) (steps : List ProjectTextPlanStep)
    (time : JsString) : Checked ProjectTextPlanCheckpoint := do
  advanceGuard plan step selection
  let checkpoint ← checkpointProjectTextPlanSelection sha256 plan step selection time
  let changed ← updateStep sha256 step
    (fun body => { body with selection := checkpoint.step.selection, state := .succeeded }) time
  let next ← updatePlan sha256 plan (advanceBody (nextReadyOf steps step)) time
  return ⟨next, changed⟩

/-- What has to hold before the system pauses a plan. -/
def systemPauseGuard (plan : ProjectTextPlan) (step : ProjectTextPlanStep) : Checked Unit :=
  rejectIf (plan.state = .revoked ∨ plan.state = .completed ∨
      plan.activeStepId ≠ some step.stepId ∨ step.planId ≠ plan.planId ∨
      step.planRevision ≠ plan.currentPlanRevision)
    (planFailure "project_text_plan_pause_unavailable")

/-- Pause a plan because a remaining step cannot proceed. -/
def checkpointProjectTextPlanSystemPause (plan : ProjectTextPlan) (step : ProjectTextPlanStep)
    (reason : ProjectTextPlanPauseReason) (time : JsString) :
    Checked ProjectTextPlanCheckpoint := do
  systemPauseGuard plan step
  if plan.state = .paused ∧ plan.pauseReason = some reason then return ⟨plan, step⟩
  else do
    let next ← updatePlan sha256 plan
      (fun body => { body with state := .paused, pauseReason := some reason }) time
    return ⟨next, step⟩

end Digest

end Crewon.Domain
