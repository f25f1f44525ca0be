import Crewon.Domain.ProjectTextPlanMutations
import Crewon.Lib.Program

/-!
# The rows of a text plan

The store keeps the plan, its revisions and the steps of all revisions. A control is given the steps
of the current revision, a checkpoint the step that it names, and what they return is written in one
transaction.
-/

namespace Crewon.Store

open Crewon.Js Crewon.Checked Crewon.Lib Crewon.Domain

/-- A rejection of the rows of a plan. -/
def planStoreFail (code : String) : Failure := ⟨.plain, code⟩

/-- The rows of a plan. The steps are in the order in which they were inserted, which within a
revision is the order of their ordinals. -/
structure ProjectTextPlanRows where
  plan : Option ProjectTextPlan
  revisions : List ProjectTextPlanRevision
  steps : List ProjectTextPlanStep
deriving DecidableEq

namespace ProjectTextPlanRows

/-- No plan yet. -/
def empty : ProjectTextPlanRows := ⟨none, [], []⟩

/-- The steps of a revision. -/
def stepsOf (rows : ProjectTextPlanRows) (planRevision : Int) : List ProjectTextPlanStep :=
  rows.steps.filter fun step => step.planRevision = planRevision

/-- The revision of a plan that is current. -/
def currentRevision (rows : ProjectTextPlanRows) : Option ProjectTextPlanRevision :=
  rows.plan.bind fun plan =>
    rows.revisions.find? fun definition => definition.planRevision = plan.currentPlanRevision

/-- The steps of the current revision. -/
def currentSteps (rows : ProjectTextPlanRows) : List ProjectTextPlanStep :=
  match rows.plan with
  | none => []
  | some plan => rows.stepsOf plan.currentPlanRevision

/-- The plan and the step of a name. -/
def locate (rows : ProjectTextPlanRows) (stepId : JsString) :
    Checked (ProjectTextPlan × ProjectTextPlanStep) :=
  match rows.plan, rows.steps.find? fun step => step.stepId = stepId with
  | some plan, some step => .ok (plan, step)
  | _, _ => .error (planStoreFail "project_text_plan_not_found")

end ProjectTextPlanRows

/-- What is asked of a plan by a control. -/
structure ProjectTextPlanControlRequest where
  definition : ProjectTextPlanRevision
  stepIds : List JsString
  time : JsString
  authorizationUnavailable : Bool
deriving DecidableEq

/-- What a control is given of the rows. -/
def ProjectTextPlanRows.controlInput (rows : ProjectTextPlanRows)
    (request : ProjectTextPlanControlRequest) : ProjectTextPlanControlInput where
  previous := rows.plan
  previousRevision := rows.currentRevision
  previousSteps := rows.currentSteps
  definition := request.definition
  stepIds := request.stepIds
  time := request.time
  authorizationUnavailable := request.authorizationUnavailable

/-- Write the steps of a control: a step of the current revision is updated, any other one inserted
under a name of its own. -/
def writeSteps (current : List ProjectTextPlanStep) :
    List ProjectTextPlanStep → List ProjectTextPlanStep → Checked (List ProjectTextPlanStep)
  | [], rows => return rows
  | step :: rest, rows =>
    if current.any (fun old => old.stepId = step.stepId) = true then
      writeSteps current rest (replaceStep rows step)
    else do
      rejectIf (rows.any (fun old => old.stepId = step.stepId) = true)
        (planStoreFail "project_text_plan_steps_constraint")
      writeSteps current rest (rows ++ [step])

/-- The revisions behind a control. -/
def ProjectTextPlanRows.writeRevision (rows : ProjectTextPlanRows)
    (definition : ProjectTextPlanRevision) : List ProjectTextPlanRevision :=
  if rows.plan.map (fun plan => plan.currentPlanRevision) = some definition.planRevision then
    rows.revisions
  else rows.revisions ++ [definition]

/-- What an automatic selection was granted for: the active step of the current revision. -/
def selectionAuthority (plan : ProjectTextPlan) (step : ProjectTextPlanStep) : Checked Unit :=
  rejectIf (step.planRevision ≠ plan.currentPlanRevision ∨ plan.state ≠ .waitingSelection ∨
      plan.activeStepId ≠ some step.stepId ∨ step.state ≠ .waitingSelection ∨ ¬ step.runCompleted)
    ⟨.applicationAuthorization, "project_text_plan_authority_invalid"⟩

/-- What happens to a plan. -/
inductive ProjectTextPlanOperation where
  | control (kind : ProjectTextPlanControl) (request : ProjectTextPlanControlRequest)
  | admission (stepId : JsString) (admission : ProjectTextPlanRunAdmission) (content : JsString)
    (expectedThreadRevision : Int) (time : JsString)
  | result (stepId : JsString) (result : ProjectTextPlanResultReference) (time : JsString)
  | terminal (stepId : JsString) (terminal : ProjectTextPlanTerminal) (time : JsString)
  | selection (stepId : JsString) (selection : ProjectTextPlanSelectionReference) (time : JsString)
  | advance (stepId : JsString) (selection : ProjectTextPlanSelectionReference) (time : JsString)
  | systemPause (stepId : JsString) (reason : ProjectTextPlanPauseReason) (time : JsString)
deriving DecidableEq

section Digest

variable (sha256 : JsString → JsString)

/-- Commit a control. -/
def commitControl (kind : ProjectTextPlanControl) (request : ProjectTextPlanControlRequest) :
    Program Failure ProjectTextPlanRows Unit := do
  let rows ← Program.read id
  let change ← Program.check (applyProjectTextPlanControl sha256 kind (rows.controlInput request))
  let steps ← Program.check (writeSteps rows.currentSteps change.steps rows.steps)
  Program.update fun rows => ⟨some change.plan, rows.writeRevision request.definition, steps⟩

/-- Commit what a checkpoint makes of a plan and the step of a name. -/
def commitCheckpoint (stepId : JsString)
    (checkpoint : ProjectTextPlanRows → ProjectTextPlan → ProjectTextPlanStep →
      Checked ProjectTextPlanCheckpoint) : Program Failure ProjectTextPlanRows Unit := do
  let rows ← Program.read id
  let located ← Program.check (rows.locate stepId)
  let next ← Program.check (checkpoint rows located.1 located.2)
  Program.update fun rows =>
    { rows with plan := some next.plan, steps := replaceStep rows.steps next.step }

/-- Commit an operation. -/
def performPlan : ProjectTextPlanOperation → Program Failure ProjectTextPlanRows Unit
  | .control kind request => commitControl sha256 kind request
  | .admission stepId admission content expectedThreadRevision time =>
    commitCheckpoint stepId fun _ plan step =>
      checkpointProjectTextPlanAdmission sha256 plan step admission content
        expectedThreadRevision time
  | .result stepId result time =>
    commitCheckpoint stepId fun _ plan step =>
      checkpointProjectTextPlanResult sha256 plan step result time
  | .terminal stepId terminal time =>
    commitCheckpoint stepId fun rows plan step =>
      checkpointProjectTextPlanTerminal sha256 plan step terminal rows.currentSteps time
  | .selection stepId selection time =>
    commitCheckpoint stepId fun _ plan step =>
      checkpointProjectTextPlanSelection sha256 plan step selection time
  | .advance stepId selection time =>
    commitCheckpoint stepId fun rows plan step => do
      selectionAuthority plan step
      advanceProjectTextPlanSelection sha256 plan step selection (rows.stepsOf step.planRevision)
        time
  | .systemPause stepId reason time =>
    commitCheckpoint stepId fun _ plan step =>
      checkpointProjectTextPlanSystemPause sha256 plan step reason time

end Digest

end Crewon.Store
