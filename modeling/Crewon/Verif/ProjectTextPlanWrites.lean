import Crewon.Verif.ProjectTextPlanOperations

/-!
# What an operation on a text plan writes

An operation that is accepted leaves exactly the rows that are computed here from those that it
finds, without a guard and without a check. The runs on fixed operations are followed through it.
-/

namespace Crewon.Verif.ProjectTextPlan

open Crewon.Js Crewon.Checked Crewon.Lib Crewon.Domain Crewon.Store

/-- What is created is the digested body. -/
theorem digestedPlan_of_created {sha256 : JsString → JsString} {body : ProjectTextPlanBody}
    {plan : ProjectTextPlan} (created : createProjectTextPlan sha256 body = .ok plan) :
    plan = digestedPlan sha256 body := by
  simp only [createProjectTextPlan, extensionCanonicalJson, copyExtensionJson, bind_eq_ok,
    exists_unit, pure_eq_ok] at created
  obtain ⟨_, ⟨_, ⟨_, _, _, rfl⟩, rfl⟩, _, rfl⟩ := created
  rfl

/-- A step that is created is the digested body. -/
theorem digestedStep_of_created {sha256 : JsString → JsString} {body : ProjectTextPlanStepBody}
    {step : ProjectTextPlanStep} (created : createProjectTextPlanStep sha256 body = .ok step) :
    step = digestedStep sha256 body := by
  simp only [createProjectTextPlanStep, extensionCanonicalJson, copyExtensionJson, bind_eq_ok,
    exists_unit, pure_eq_ok] at created
  obtain ⟨_, ⟨_, ⟨_, _, _, rfl⟩, rfl⟩, _, rfl⟩ := created
  rfl

section Written

variable (sha256 : JsString → JsString)

/-- A plan behind an update. -/
def planBehind (plan : ProjectTextPlan) (patch : ProjectTextPlanBody → ProjectTextPlanBody)
    (time : JsString) : ProjectTextPlan :=
  digestedPlan sha256 (updatedPlan plan patch time)

/-- A step behind an update. -/
def stepBehind (step : ProjectTextPlanStep)
    (patch : ProjectTextPlanStepBody → ProjectTextPlanStepBody) (time : JsString) :
    ProjectTextPlanStep :=
  digestedStep sha256 (updatedStep step patch time)

/-- The steps that are made for slots. -/
def newSteps (definition : ProjectTextPlanRevision) (attempt : ProjectTextPlanSlot → Int)
    (time : JsString) : Int → List ProjectTextPlanSlot → List JsString → List ProjectTextPlanStep
  | ordinal, slot :: slots, stepId :: stepIds =>
    digestedStep sha256 (newStep definition slot stepId ordinal (attempt slot) time) ::
      newSteps definition attempt time (ordinal + 1) slots stepIds
  | _, _, _ => []

/-- The steps of a control in their places. -/
def putSteps (current : List ProjectTextPlanStep) :
    List ProjectTextPlanStep → List ProjectTextPlanStep → List ProjectTextPlanStep
  | [], rows => rows
  | step :: rest, rows =>
    if current.any (fun old => old.stepId = step.stepId) = true then
      putSteps current rest (replaceStep rows step)
    else putSteps current rest (rows ++ [step])

/-- The plan that a start makes. -/
def startedBody (input : ProjectTextPlanControlInput) (steps : List ProjectTextPlanStep) :
    ProjectTextPlanBody where
  schemaVersion := projectTextPlanSchema
  planId := input.definition.planId
  owner := input.definition.actor
  profileId := input.definition.installation.profileId
  projectId := input.definition.projectId
  threadId := input.definition.threadId
  bindingId := input.definition.bindingId
  workspaceId := input.definition.workspaceId
  revision := 1
  currentPlanRevision := 1
  state := freshState input.authorizationUnavailable
  activeStepId := steps.head?.map fun step => step.stepId
  pauseReason := freshReason input.authorizationUnavailable
  wakeRevision := 1
  createdAt := input.time
  updatedAt := input.time

/-- What a start makes. -/
def startedChange (input : ProjectTextPlanControlInput) : ProjectTextPlanChange :=
  let steps := newSteps sha256 input.definition (fun _ => 1) input.time 1
    (revisionSlots input.definition) input.stepIds
  ⟨digestedPlan sha256 (startedBody input steps), steps⟩

/-- What a stop makes of a plan. -/
def stoppedChange (state : ProjectTextPlanState) (reason : Option ProjectTextPlanPauseReason)
    (input : ProjectTextPlanControlInput) (old : ProjectTextPlan) : ProjectTextPlanChange :=
  ⟨planBehind sha256 old (fun body => { body with state := state, pauseReason := reason })
    input.time, input.previousSteps⟩

/-- What is made of a plan whose remaining steps are made anew. -/
def remadeChange (input : ProjectTextPlanControlInput) (old : ProjectTextPlan) :
    ProjectTextPlanChange :=
  let steps := newSteps sha256 input.definition (nextAttempt input.previousSteps) input.time 1
    (unfinishedSlots (revisionSlots input.definition) input.previousSteps) input.stepIds
  ⟨planBehind sha256 old (fun body => { body with
    state := freshState input.authorizationUnavailable
    activeStepId := steps.head?.map fun step => step.stepId
    pauseReason := freshReason input.authorizationUnavailable
    wakeRevision := old.wakeRevision + 1
    currentPlanRevision := input.definition.planRevision }) input.time, steps⟩

/-- What is made of a plan that continues behind a step. -/
def continuedChange (input : ProjectTextPlanControlInput) (old : ProjectTextPlan)
    (step : ProjectTextPlanStep) : ProjectTextPlanChange :=
  let changed := stepBehind sha256 step (fun body => { body with state := .succeeded }) input.time
  let steps := replaceStep input.previousSteps changed
  ⟨planBehind sha256 old
    (fun body => { advanceBody (nextReady steps step.ordinal) body with pauseReason := none })
    input.time, steps⟩

/-- What a control makes of a plan. -/
def controlChange (kind : ProjectTextPlanControl) (input : ProjectTextPlanControlInput) :
    Option ProjectTextPlanChange :=
  match kind with
  | .start => some (startedChange sha256 input)
  | .pause => input.previous.map (stoppedChange sha256 .paused (some .userPaused) input)
  | .revoke => input.previous.map (stoppedChange sha256 .revoked none input)
  | .resume => input.previous.map (remadeChange sha256 input)
  | .reviseRemaining => input.previous.map (remadeChange sha256 input)
  | .continue => input.previous.bind fun old =>
    (activeStep old input.previousSteps).map (continuedChange sha256 input old)

/-- The rows behind a control. -/
def controlWritten (kind : ProjectTextPlanControl) (request : ProjectTextPlanControlRequest)
    (rows : ProjectTextPlanRows) : ProjectTextPlanRows :=
  match controlChange sha256 kind (rows.controlInput request) with
  | none => rows
  | some change => ⟨some change.plan, rows.writeRevision request.definition,
    putSteps rows.currentSteps change.steps rows.steps⟩

/-- The rows behind a checkpoint. -/
def checkpointWritten (stepId : JsString)
    (checkpoint : ProjectTextPlan → ProjectTextPlanStep → ProjectTextPlanCheckpoint)
    (rows : ProjectTextPlanRows) : ProjectTextPlanRows :=
  match rows.locate stepId with
  | .error _ => rows
  | .ok located => { rows with
    plan := some (checkpoint located.1 located.2).plan
    steps := replaceStep rows.steps (checkpoint located.1 located.2).step }

/-- What is made of a plan whose step is admitted. -/
def admissionWritten (admission : ProjectTextPlanRunAdmission) (content : JsString)
    (expectedThreadRevision : Int) (time : JsString) (plan : ProjectTextPlan)
    (step : ProjectTextPlanStep) : ProjectTextPlanCheckpoint :=
  ⟨planBehind sha256 plan (fun body => { body with state := .running }) time,
    stepBehind sha256 step (admittedBody admission content expectedThreadRevision) time⟩

/-- What is made of a step that gets a result. -/
def resultWritten (result : ProjectTextPlanResultReference) (time : JsString)
    (plan : ProjectTextPlan) (step : ProjectTextPlanStep) : ProjectTextPlanCheckpoint :=
  if step.result ≠ none then ⟨plan, step⟩
  else ⟨plan, stepBehind sha256 step (fun body => { body with result := some result }) time⟩

/-- What is made of a plan whose step gets a terminal event. -/
def terminalWritten (terminal : ProjectTextPlanTerminal) (steps : List ProjectTextPlanStep)
    (time : JsString) (plan : ProjectTextPlan) (step : ProjectTextPlanStep) :
    ProjectTextPlanCheckpoint :=
  if step.terminal ≠ none then ⟨plan, step⟩
  else ⟨planBehind sha256 plan (terminalChange plan step terminal steps).1 time,
    stepBehind sha256 step (fun body => { body with
      terminal := some terminal, state := (terminalChange plan step terminal steps).2 }) time⟩

/-- What is made of a step that gets a selection. -/
def selectionWritten (selection : ProjectTextPlanSelectionReference) (time : JsString)
    (plan : ProjectTextPlan) (step : ProjectTextPlanStep) : ProjectTextPlanCheckpoint :=
  if step.selection ≠ none then ⟨plan, step⟩
  else ⟨plan, stepBehind sha256 step (fun body => { body with selection := some selection }) time⟩

/-- What is made of a plan that goes on behind a selection. -/
def advanceWritten (selection : ProjectTextPlanSelectionReference)
    (steps : List ProjectTextPlanStep) (time : JsString) (plan : ProjectTextPlan)
    (step : ProjectTextPlanStep) : ProjectTextPlanCheckpoint :=
  ⟨planBehind sha256 plan (advanceBody (nextReadyOf steps step)) time,
    stepBehind sha256 step (fun body => { body with
      selection := (selectionWritten sha256 selection time plan step).step.selection
      state := .succeeded }) time⟩

/-- What is made of a plan that the system pauses. -/
def pauseWritten (reason : ProjectTextPlanPauseReason) (time : JsString) (plan : ProjectTextPlan)
    (step : ProjectTextPlanStep) : ProjectTextPlanCheckpoint :=
  if plan.state = .paused ∧ plan.pauseReason = some reason then ⟨plan, step⟩
  else ⟨planBehind sha256 plan
    (fun body => { body with state := .paused, pauseReason := some reason }) time, step⟩

/-- The rows behind an operation. -/
def written (operation : ProjectTextPlanOperation) (rows : ProjectTextPlanRows) :
    ProjectTextPlanRows :=
  match operation with
  | .control kind request => controlWritten sha256 kind request rows
  | .admission stepId admission content expectedThreadRevision time =>
    checkpointWritten stepId
      (admissionWritten sha256 admission content expectedThreadRevision time) rows
  | .result stepId result time => checkpointWritten stepId (resultWritten sha256 result time) rows
  | .terminal stepId terminal time =>
    checkpointWritten stepId (terminalWritten sha256 terminal rows.currentSteps time) rows
  | .selection stepId selection time =>
    checkpointWritten stepId (selectionWritten sha256 selection time) rows
  | .advance stepId selection time =>
    checkpointWritten stepId (fun plan step =>
      advanceWritten sha256 selection (rows.stepsOf step.planRevision) time plan step) rows
  | .systemPause stepId reason time =>
    checkpointWritten stepId (pauseWritten sha256 reason time) rows

end Written

variable {sha256 : JsString → JsString}

/-- What an update of a plan makes is the plan behind it. -/
theorem planBehind_of_updatePlan {plan next : ProjectTextPlan}
    {patch : ProjectTextPlanBody → ProjectTextPlanBody} {time : JsString}
    (updated : updatePlan sha256 plan patch time = .ok next) :
    next = planBehind sha256 plan patch time := by
  simp only [updatePlan, bind_eq_ok, exists_unit, pure_eq_ok] at updated
  obtain ⟨made, created, _, rfl⟩ := updated
  exact digestedPlan_of_created created

/-- What an update of a step makes is the step behind it. -/
theorem stepBehind_of_updateStep {step next : ProjectTextPlanStep}
    {patch : ProjectTextPlanStepBody → ProjectTextPlanStepBody} {time : JsString}
    (updated : updateStep sha256 step patch time = .ok next) :
    next = stepBehind sha256 step patch time := by
  simp only [updateStep, bind_eq_ok, exists_unit, pure_eq_ok] at updated
  obtain ⟨made, created, _, rfl⟩ := updated
  exact digestedStep_of_created created

/-- Steps that are created are those made for the slots. -/
theorem newSteps_of_createSteps {definition : ProjectTextPlanRevision}
    {attempt : ProjectTextPlanSlot → Int} {time : JsString} {ordinal : Int}
    {slots : List ProjectTextPlanSlot} {stepIds : List JsString} {steps : List ProjectTextPlanStep}
    (created : createSteps sha256 definition attempt time ordinal slots stepIds = .ok steps) :
    steps = newSteps sha256 definition attempt time ordinal slots stepIds := by
  induction slots generalizing ordinal stepIds steps with
  | nil =>
    simp only [createSteps, pure_eq_ok] at created
    rw [newSteps]
    · exact created.symm
    · simp
  | cons slot slots hypothesis =>
    cases stepIds with
    | nil =>
      simp only [createSteps, pure_eq_ok] at created
      rw [newSteps]
      · exact created.symm
      · simp
    | cons stepId stepIds =>
      simp only [createSteps, bind_eq_ok, pure_eq_ok] at created
      obtain ⟨step, first, rest, later, rfl⟩ := created
      rw [newSteps, digestedStep_of_created first, hypothesis later]

/-- Steps that are written are put in their places. -/
theorem putSteps_of_writeSteps {current changed rows after : List ProjectTextPlanStep}
    (wrote : writeSteps current changed rows = .ok after) :
    after = putSteps current changed rows := by
  induction changed generalizing rows with
  | nil => exact (pure_eq_ok.mp wrote).symm
  | cons step changed hypothesis =>
    rw [putSteps]
    rw [writeSteps] at wrote
    split_ifs at wrote ⊢ with known
    · exact hypothesis wrote
    · simp only [bind_eq_ok, exists_unit] at wrote
      exact hypothesis wrote.2

/-- What is made of a plan by a control that is accepted. -/
theorem controlChange_of_apply {kind : ProjectTextPlanControl}
    {input : ProjectTextPlanControlInput} {change : ProjectTextPlanChange}
    (applied : applyProjectTextPlanControl sha256 kind input = .ok change) :
    controlChange sha256 kind input = some change := by
  have stopped {state reason}
      (stopped : stopProjectTextPlan sha256 state reason input = .ok change) :
      input.previous.map (stoppedChange sha256 state reason input) = some change := by
    simp only [stopProjectTextPlan, bind_eq_ok, exists_unit, pure_eq_ok] at stopped
    obtain ⟨found, guarded, _, _, plan, updated, rfl⟩ := stopped
    rw [(previousGuard_eq_ok.mp guarded).2.1, planBehind_of_updatePlan updated]
    rfl
  have remade {action} (remade : remakeProjectTextPlan sha256 action input = .ok change) :
      input.previous.map (remadeChange sha256 input) = some change := by
    simp only [remakeProjectTextPlan, createProjectTextPlanRemainingSteps, bind_eq_ok, exists_unit,
      pure_eq_ok] at remade
    obtain ⟨found, guarded, _, steps, ⟨slots, remaining, created⟩, plan, updated, rfl⟩ := remade
    obtain ⟨_, _, rfl, _⟩ := remainingSlots_eq_ok.mp remaining
    rw [(previousGuard_eq_ok.mp guarded).2.1, planBehind_of_updatePlan updated,
      newSteps_of_createSteps created]
    rfl
  cases kind with
  | start =>
    simp only [applyProjectTextPlanControl, startProjectTextPlan, createProjectTextPlanSteps,
      bind_eq_ok, exists_unit, pure_eq_ok] at applied
    obtain ⟨_, steps, ⟨slots, first, created⟩, plan, made, rfl⟩ := applied
    obtain ⟨rfl, _⟩ := firstSlots_eq_ok.mp first
    rw [digestedPlan_of_created made, newSteps_of_createSteps created]
    rfl
  | pause => exact stopped applied
  | revoke => exact stopped applied
  | resume => exact remade applied
  | reviseRemaining => exact remade applied
  | «continue» =>
    simp only [applyProjectTextPlanControl, continueProjectTextPlan, bind_eq_ok, pure_eq_ok]
      at applied
    obtain ⟨found, guarded, step, allowed, changed, stepped, plan, updated, rfl⟩ := applied
    rw [controlChange, (previousGuard_eq_ok.mp guarded).2.1, Option.bind_some,
      (continueGuard_eq_ok allowed).2.1, planBehind_of_updatePlan updated,
      stepBehind_of_updateStep stepped]
    rfl

/-- The rows behind a control that is accepted. -/
theorem controlWritten_of_commit {kind : ProjectTextPlanControl}
    {request : ProjectTextPlanControlRequest} {rows after : ProjectTextPlanRows}
    (ran : (commitControl sha256 kind request).run rows = (.ok (), after)) :
    after = controlWritten sha256 kind request rows := by
  obtain ⟨change, applied, steps, wrote, rfl⟩ := commitControl_eq_ok.mp ran
  rw [controlWritten, controlChange_of_apply applied, putSteps_of_writeSteps wrote]

/-- The rows behind a checkpoint that is accepted. -/
theorem checkpointWritten_of_commit {stepId : JsString}
    {checkpoint : ProjectTextPlanRows → ProjectTextPlan → ProjectTextPlanStep →
      Checked ProjectTextPlanCheckpoint}
    {pure : ProjectTextPlan → ProjectTextPlanStep → ProjectTextPlanCheckpoint}
    {rows after : ProjectTextPlanRows}
    (computed : ∀ plan step next, checkpoint rows plan step = .ok next → next = pure plan step)
    (ran : (commitCheckpoint stepId checkpoint).run rows = (.ok (), after)) :
    after = checkpointWritten stepId pure rows := by
  obtain ⟨located, found, next, made, rfl⟩ := commitCheckpoint_eq_ok.mp ran
  rw [checkpointWritten, found, computed _ _ _ made]

/-- What is made of a plan by a selection that is accepted. -/
theorem selectionWritten_of_checkpoint {plan : ProjectTextPlan} {step : ProjectTextPlanStep}
    {selection : ProjectTextPlanSelectionReference} {time : JsString}
    {checkpoint : ProjectTextPlanCheckpoint}
    (made : checkpointProjectTextPlanSelection sha256 plan step selection time = .ok checkpoint) :
    checkpoint = selectionWritten sha256 selection time plan step := by
  simp only [checkpointProjectTextPlanSelection, bind_eq_ok, exists_unit] at made
  obtain ⟨_, made⟩ := made
  rw [selectionWritten]
  split_ifs at made ⊢ with present
  · exact (pure_eq_ok.mp made).symm
  · simp only [bind_eq_ok, pure_eq_ok] at made
    obtain ⟨changed, stepped, rfl⟩ := made
    rw [stepBehind_of_updateStep stepped]

/-- An operation that is accepted leaves exactly the rows behind it. -/
theorem written_of_performPlan {operation : ProjectTextPlanOperation}
    {rows after : ProjectTextPlanRows}
    (ran : (performPlan sha256 operation).run rows = (.ok (), after)) :
    after = written sha256 operation rows := by
  cases operation with
  | control kind request => exact controlWritten_of_commit ran
  | admission stepId admission content expectedThreadRevision time =>
    rw [performPlan] at ran
    refine checkpointWritten_of_commit ?_ ran
    intro plan step next made
    simp only [checkpointProjectTextPlanAdmission, bind_eq_ok, exists_unit, pure_eq_ok] at made
    obtain ⟨_, changed, stepped, behind, updated, rfl⟩ := made
    rw [planBehind_of_updatePlan updated, stepBehind_of_updateStep stepped]
    rfl
  | result stepId result time =>
    rw [performPlan] at ran
    refine checkpointWritten_of_commit ?_ ran
    intro plan step next made
    simp only [checkpointProjectTextPlanResult, bind_eq_ok, exists_unit] at made
    obtain ⟨_, made⟩ := made
    rw [resultWritten]
    split_ifs at made ⊢ with present
    · exact (pure_eq_ok.mp made).symm
    · simp only [bind_eq_ok, pure_eq_ok] at made
      obtain ⟨changed, stepped, rfl⟩ := made
      rw [stepBehind_of_updateStep stepped]
  | terminal stepId terminal time =>
    rw [performPlan] at ran
    refine checkpointWritten_of_commit ?_ ran
    intro plan step next made
    rw [terminalWritten]
    rcases (checkpointProjectTextPlanTerminal_eq_ok made).2 with
      ⟨present, rfl⟩ | ⟨absent, updated, stepped⟩
    · rw [if_pos present]
    · rw [if_neg (not_not.mpr absent), ← planBehind_of_updatePlan updated,
        ← stepBehind_of_updateStep stepped]
  | selection stepId selection time =>
    rw [performPlan] at ran
    refine checkpointWritten_of_commit ?_ ran
    intro plan step next made
    exact selectionWritten_of_checkpoint made
  | advance stepId selection time =>
    rw [performPlan] at ran
    rw [written]
    refine checkpointWritten_of_commit ?_ ran
    intro plan step next made
    simp only [advanceProjectTextPlanSelection, bind_eq_ok, exists_unit, pure_eq_ok] at made
    obtain ⟨_, _, checkpoint, selected, changed, stepped, behind, updated, rfl⟩ := made
    rw [planBehind_of_updatePlan updated, stepBehind_of_updateStep stepped,
      selectionWritten_of_checkpoint selected]
    rfl
  | systemPause stepId reason time =>
    rw [performPlan] at ran
    refine checkpointWritten_of_commit ?_ ran
    intro plan step next made
    simp only [checkpointProjectTextPlanSystemPause, bind_eq_ok, exists_unit] at made
    obtain ⟨_, made⟩ := made
    rw [pauseWritten]
    split_ifs at made ⊢ with repeated
    · exact (pure_eq_ok.mp made).symm
    · simp only [bind_eq_ok, pure_eq_ok] at made
      obtain ⟨behind, updated, rfl⟩ := made
      rw [planBehind_of_updatePlan updated]

end Crewon.Verif.ProjectTextPlan
