import Crewon.Domain.CreativeProject

/-!
# Text plans of projects

A plan writes a brief, an outline and scripts one step after the other. Each step is admitted as a
run, gets a result and a terminal event, and is selected before the next step is ready. A revision of
the plan fixes what the remaining steps are. The records, their parsers and the rules of change are
here.
-/

namespace Crewon.Domain

open Crewon.Js Crewon.Checked

/-- The rejection of a record of a plan. -/
def planFailure (code : String) : Failure := creativeProjectError code

/-- What a step writes. -/
inductive ProjectTextPlanStage where
  | brief
  | outline
  | script
deriving DecidableEq

/-- Who selects a result. -/
inductive ProjectTextPlanAdoption where
  | manual
  | whenUnchanged
deriving DecidableEq

/-- Where a plan is. -/
inductive ProjectTextPlanState where
  | ready
  | running
  | waitingSelection
  | paused
  | completed
  | revoked
deriving DecidableEq

/-- Why a plan is paused. -/
inductive ProjectTextPlanPauseReason where
  | sourceChanged
  | selectionChanged
  | locked
  | bindingChanged
  | installationChanged
  | authorizationUnavailable
  | runFailed
  | runCanceled
  | resultMissing
  | resultInvalid
  | userPaused
deriving DecidableEq

/-- Where the episodes of a plan come from. -/
inductive ProjectTextPlanEpisodeMode where
  | none
  | newOutline
  | selectedOutline
  | independentScripts
deriving DecidableEq

/-- Where a step is. -/
inductive ProjectTextPlanStepState where
  | ready
  | admitted
  | waitingSelection
  | succeeded
  | paused
  | failed
  | revoked
deriving DecidableEq

/-- How a run ended. -/
inductive ProjectTextPlanRunStatus where
  | completed
  | failed
  | canceled
deriving DecidableEq

/-- What an artifact of a project is. -/
inductive ProjectTextArtifactKind where
  | outline
  | script
deriving DecidableEq

/-- The name of a stage. -/
def ProjectTextPlanStage.text : ProjectTextPlanStage → String
  | .brief => "brief"
  | .outline => "outline"
  | .script => "script"

/-- The place of a stage in the order of stages. -/
def ProjectTextPlanStage.order : ProjectTextPlanStage → Nat
  | .brief => 0
  | .outline => 1
  | .script => 2

/-- The name of an adoption. -/
def ProjectTextPlanAdoption.text : ProjectTextPlanAdoption → String
  | .manual => "manual"
  | .whenUnchanged => "whenUnchanged"

/-- The name of a state of a plan. -/
def ProjectTextPlanState.text : ProjectTextPlanState → String
  | .ready => "ready"
  | .running => "running"
  | .waitingSelection => "waitingSelection"
  | .paused => "paused"
  | .completed => "completed"
  | .revoked => "revoked"

/-- The name of a reason. -/
def ProjectTextPlanPauseReason.text : ProjectTextPlanPauseReason → String
  | .sourceChanged => "source_changed"
  | .selectionChanged => "selection_changed"
  | .locked => "locked"
  | .bindingChanged => "binding_changed"
  | .installationChanged => "installation_changed"
  | .authorizationUnavailable => "authorization_unavailable"
  | .runFailed => "run_failed"
  | .runCanceled => "run_canceled"
  | .resultMissing => "result_missing"
  | .resultInvalid => "result_invalid"
  | .userPaused => "user_paused"

/-- The name of an episode mode. -/
def ProjectTextPlanEpisodeMode.text : ProjectTextPlanEpisodeMode → String
  | .none => "none"
  | .newOutline => "newOutline"
  | .selectedOutline => "selectedOutline"
  | .independentScripts => "independentScripts"

/-- The name of a state of a step. -/
def ProjectTextPlanStepState.text : ProjectTextPlanStepState → String
  | .ready => "ready"
  | .admitted => "admitted"
  | .waitingSelection => "waitingSelection"
  | .succeeded => "succeeded"
  | .paused => "paused"
  | .failed => "failed"
  | .revoked => "revoked"

/-- The name of a status. -/
def ProjectTextPlanRunStatus.text : ProjectTextPlanRunStatus → String
  | .completed => "completed"
  | .failed => "failed"
  | .canceled => "canceled"

/-- The name of a kind of artifact. -/
def ProjectTextArtifactKind.text : ProjectTextArtifactKind → String
  | .outline => "outline"
  | .script => "script"

/-- The stage that writes an artifact. -/
def ProjectTextArtifactKind.stage : ProjectTextArtifactKind → ProjectTextPlanStage
  | .outline => .outline
  | .script => .script

/-- A name as JSON. -/
def jsonName (text : String) : JsonValue := .string (js text)

/-- The brief that a stage reads. -/
structure ProjectBriefSource where
  briefRevision : Int
  contentDigest : JsString
deriving DecidableEq

/-- The outline that a stage reads. -/
structure ProjectOutlineSource where
  artifactId : JsString
  contentRevision : Int
  contentDigest : JsString
deriving DecidableEq

/-- What a stage reads. -/
structure ProjectStageSources where
  brief : Option ProjectBriefSource
  outline : Option ProjectOutlineSource
deriving DecidableEq

/-- The head of an artifact before a step. -/
structure ProjectTextPlanHeadBaseline where
  kind : ProjectTextArtifactKind
  episodeId : Option JsString
  artifactId : Option JsString
  artifactRevision : Int
  selectedContentRevision : Option Int
  locked : Bool
deriving DecidableEq

/-- The input of a run. -/
structure ProjectTextPlanStepInput where
  content : JsString
  idempotencyKey : JsString
  expectedThreadRevision : Int
deriving DecidableEq

/-- The run of a step. -/
structure ProjectTextPlanStepRun where
  runId : JsString
  stageAdmissionDigest : JsString
  planAdmissionDigest : JsString
deriving DecidableEq

/-- The result of a step. -/
structure ProjectTextPlanResultReference where
  kind : ProjectTextPlanStage
  idempotencyKey : JsString
  requestDigest : JsString
  runId : JsString
  toolReceiptId : JsString
  toolInputDigest : JsString
  briefRevision : Option Int
  artifactId : Option JsString
  artifactRevision : Option Int
  contentRevision : Option Int
  contentDigest : JsString
deriving DecidableEq

/-- The selection of a result. -/
structure ProjectTextPlanSelectionReference where
  mode : ProjectTextPlanAdoption
  idempotencyKey : JsString
  requestDigest : JsString
  artifactId : JsString
  artifactRevision : Int
  contentRevision : Int
  contentDigest : JsString
deriving DecidableEq

/-- The terminal event of a run. -/
structure ProjectTextPlanTerminal where
  eventId : JsString
  throughSequence : Int
  runRevision : Int
  status : ProjectTextPlanRunStatus
deriving DecidableEq

/-- What the digest of a step covers. -/
structure ProjectTextPlanStepBody where
  schemaVersion : JsString
  planId : JsString
  planRevision : Int
  stepId : JsString
  ordinal : Int
  kind : ProjectTextPlanStage
  episodeId : Option JsString
  attempt : Int
  revision : Int
  state : ProjectTextPlanStepState
  sources : Option ProjectStageSources
  baseline : Option ProjectTextPlanHeadBaseline
  input : Option ProjectTextPlanStepInput
  run : Option ProjectTextPlanStepRun
  result : Option ProjectTextPlanResultReference
  selection : Option ProjectTextPlanSelectionReference
  terminal : Option ProjectTextPlanTerminal
  createdAt : JsString
  updatedAt : JsString
deriving DecidableEq

/-- A step. -/
structure ProjectTextPlanStep extends ProjectTextPlanStepBody where
  contentDigest : JsString
deriving DecidableEq

/-- What the digest of a plan covers. -/
structure ProjectTextPlanBody where
  schemaVersion : JsString
  planId : JsString
  owner : CreativeProjectActor
  profileId : JsString
  projectId : JsString
  threadId : JsString
  bindingId : JsString
  workspaceId : Option JsString
  revision : Int
  currentPlanRevision : Int
  state : ProjectTextPlanState
  activeStepId : Option JsString
  pauseReason : Option ProjectTextPlanPauseReason
  wakeRevision : Int
  createdAt : JsString
  updatedAt : JsString
deriving DecidableEq

/-- A plan. -/
structure ProjectTextPlan extends ProjectTextPlanBody where
  contentDigest : JsString
deriving DecidableEq

/-- The sources of a stage as JSON. -/
def ProjectStageSources.json (sources : ProjectStageSources) : JsonValue :=
  .object [
    ("brief", .ofOption (fun brief : ProjectBriefSource => .object [
      ("briefRevision", .number brief.briefRevision),
      ("contentDigest", .string brief.contentDigest)]) sources.brief),
    ("outline", .ofOption (fun outline : ProjectOutlineSource => .object [
      ("artifactId", .string outline.artifactId),
      ("contentRevision", .number outline.contentRevision),
      ("contentDigest", .string outline.contentDigest)]) sources.outline)]

/-- A baseline as JSON. -/
def ProjectTextPlanHeadBaseline.json (baseline : ProjectTextPlanHeadBaseline) : JsonValue :=
  .object [("kind", jsonName baseline.kind.text),
    ("episodeId", .ofOption .string baseline.episodeId),
    ("artifactId", .ofOption .string baseline.artifactId),
    ("artifactRevision", .number baseline.artifactRevision),
    ("selectedContentRevision", .ofOption .number baseline.selectedContentRevision),
    ("locked", .bool baseline.locked)]

/-- An input as JSON. -/
def ProjectTextPlanStepInput.json (input : ProjectTextPlanStepInput) : JsonValue :=
  .object [("content", .string input.content), ("idempotencyKey", .string input.idempotencyKey),
    ("expectedThreadRevision", .number input.expectedThreadRevision)]

/-- A run as JSON. -/
def ProjectTextPlanStepRun.json (run : ProjectTextPlanStepRun) : JsonValue :=
  .object [("runId", .string run.runId),
    ("stageAdmissionDigest", .string run.stageAdmissionDigest),
    ("planAdmissionDigest", .string run.planAdmissionDigest)]

/-- A result as JSON. -/
def ProjectTextPlanResultReference.json (result : ProjectTextPlanResultReference) : JsonValue :=
  .object [("kind", jsonName result.kind.text), ("idempotencyKey", .string result.idempotencyKey),
    ("requestDigest", .string result.requestDigest), ("runId", .string result.runId),
    ("toolReceiptId", .string result.toolReceiptId),
    ("toolInputDigest", .string result.toolInputDigest),
    ("briefRevision", .ofOption .number result.briefRevision),
    ("artifactId", .ofOption .string result.artifactId),
    ("artifactRevision", .ofOption .number result.artifactRevision),
    ("contentRevision", .ofOption .number result.contentRevision),
    ("contentDigest", .string result.contentDigest)]

/-- A selection as JSON. -/
def ProjectTextPlanSelectionReference.json (selection : ProjectTextPlanSelectionReference) :
    JsonValue :=
  .object [("mode", jsonName selection.mode.text),
    ("idempotencyKey", .string selection.idempotencyKey),
    ("requestDigest", .string selection.requestDigest),
    ("artifactId", .string selection.artifactId),
    ("artifactRevision", .number selection.artifactRevision),
    ("contentRevision", .number selection.contentRevision),
    ("contentDigest", .string selection.contentDigest)]

/-- A terminal event as JSON. -/
def ProjectTextPlanTerminal.json (terminal : ProjectTextPlanTerminal) : JsonValue :=
  .object [("eventId", .string terminal.eventId),
    ("throughSequence", .number terminal.throughSequence),
    ("runRevision", .number terminal.runRevision), ("status", jsonName terminal.status.text)]

/-- The fields of a step as JSON. -/
def ProjectTextPlanStepBody.fields (step : ProjectTextPlanStepBody) : List (String × JsonValue) :=
  [("schemaVersion", .string step.schemaVersion), ("planId", .string step.planId),
    ("planRevision", .number step.planRevision), ("stepId", .string step.stepId),
    ("ordinal", .number step.ordinal), ("kind", jsonName step.kind.text),
    ("episodeId", .ofOption .string step.episodeId), ("attempt", .number step.attempt),
    ("revision", .number step.revision), ("state", jsonName step.state.text),
    ("sources", .ofOption ProjectStageSources.json step.sources),
    ("baseline", .ofOption ProjectTextPlanHeadBaseline.json step.baseline),
    ("input", .ofOption ProjectTextPlanStepInput.json step.input),
    ("run", .ofOption ProjectTextPlanStepRun.json step.run),
    ("result", .ofOption ProjectTextPlanResultReference.json step.result),
    ("selection", .ofOption ProjectTextPlanSelectionReference.json step.selection),
    ("terminal", .ofOption ProjectTextPlanTerminal.json step.terminal),
    ("createdAt", .string step.createdAt), ("updatedAt", .string step.updatedAt)]

/-- The fields of a plan as JSON. -/
def ProjectTextPlanBody.fields (plan : ProjectTextPlanBody) : List (String × JsonValue) :=
  [("schemaVersion", .string plan.schemaVersion), ("planId", .string plan.planId),
    ("owner", plan.owner.json), ("profileId", .string plan.profileId),
    ("projectId", .string plan.projectId), ("threadId", .string plan.threadId),
    ("bindingId", .string plan.bindingId), ("workspaceId", .ofOption .string plan.workspaceId),
    ("revision", .number plan.revision), ("currentPlanRevision", .number plan.currentPlanRevision),
    ("state", jsonName plan.state.text), ("activeStepId", .ofOption .string plan.activeStepId),
    ("pauseReason", .ofOption (fun reason : ProjectTextPlanPauseReason => jsonName reason.text)
      plan.pauseReason),
    ("wakeRevision", .number plan.wakeRevision), ("createdAt", .string plan.createdAt),
    ("updatedAt", .string plan.updatedAt)]

/-- The JSON text of a value in the order in which its fields were written. -/
def jsonText (value : JsonValue) : JsString := ⟨value.write⟩

/-- The checks of an integer between bounds. -/
def planInteger (input minimum maximum : Int) : Checked Unit :=
  rejectIf (isSafeInteger input = false ∨ input < minimum ∨ maximum < input)
    (planFailure "project_text_plan_invalid")

/-- The checks of the times of a record. -/
def planTimes (createdAt updatedAt : JsString) : Checked Unit := do
  creativeProjectTimestamp createdAt
  creativeProjectTimestamp updatedAt
  rejectIf (isEarlier updatedAt createdAt = true) (planFailure "project_text_plan_invalid")

/-- The checks of sources. -/
def planSources (input : ProjectStageSources) : Checked Unit := do
  creativeProjectRecord input.json
  whenPresent input.brief fun brief => do
    creativeProjectRecord (.object [("briefRevision", .number brief.briefRevision),
      ("contentDigest", .string brief.contentDigest)])
    creativeProjectRevision brief.briefRevision 1
    creativeProjectDigest brief.contentDigest
  whenPresent input.outline fun outline => do
    creativeProjectRecord (.object [("artifactId", .string outline.artifactId),
      ("contentRevision", .number outline.contentRevision),
      ("contentDigest", .string outline.contentDigest)])
    projectTextOpaqueId outline.artifactId
    creativeProjectRevision outline.contentRevision 1
    creativeProjectDigest outline.contentDigest
  rejectIf (input.outline ≠ none ∧ input.brief = none) (planFailure "project_text_plan_invalid")

/-- The checks of a baseline. -/
def parseProjectTextPlanBaseline (input : ProjectTextPlanHeadBaseline) : Checked Unit := do
  creativeProjectRecord input.json
  whenPresent input.episodeId projectTextOpaqueId
  whenPresent input.artifactId projectTextOpaqueId
  creativeProjectRevision input.artifactRevision 0
  whenPresent input.selectedContentRevision fun revision => creativeProjectRevision revision 1
  rejectIf ((input.kind = .outline ↔ input.episodeId ≠ none) ∨
      (input.artifactId = none ∧
        (input.artifactRevision ≠ 0 ∨ input.selectedContentRevision ≠ none ∨
          input.locked = true)) ∨
      (input.artifactId ≠ none ∧ input.artifactRevision = 0))
    (planFailure "project_text_plan_invalid")

/-- The checks of an input. -/
def parseProjectTextPlanStepInput (input : ProjectTextPlanStepInput) : Checked Unit := do
  creativeProjectRecord input.json
  rejectIf (input.content.isBlank = true ∨ 9999 < input.content.byteLength ∨
      input.content.units.any JsString.isTextControl = true ∨
      input.content.hasLoneSurrogate = true)
    (planFailure "project_text_plan_invalid")
  projectTextOpaqueId input.idempotencyKey
  creativeProjectRevision input.expectedThreadRevision 1

/-- The checks of a run. -/
def parseProjectTextPlanStepRun (input : ProjectTextPlanStepRun) : Checked Unit := do
  creativeProjectRecord input.json
  projectTextOpaqueId input.runId
  creativeProjectDigest input.stageAdmissionDigest
  creativeProjectDigest input.planAdmissionDigest

/-- The checks of a result. -/
def parseProjectTextPlanResultReference (input : ProjectTextPlanResultReference) :
    Checked Unit := do
  creativeProjectRecord input.json
  whenPresent input.briefRevision fun revision => creativeProjectRevision revision 1
  whenPresent input.artifactId projectTextOpaqueId
  whenPresent input.artifactRevision fun revision => creativeProjectRevision revision 1
  whenPresent input.contentRevision fun revision => creativeProjectRevision revision 1
  rejectIf (if input.kind = .brief then
      input.briefRevision = none ∨ input.artifactId ≠ none ∨ input.artifactRevision ≠ none ∨
        input.contentRevision ≠ none
    else
      input.briefRevision ≠ none ∨ input.artifactId = none ∨ input.artifactRevision = none ∨
        input.contentRevision = none)
    (planFailure "project_text_plan_invalid")
  projectTextOpaqueId input.idempotencyKey
  creativeProjectDigest input.requestDigest
  projectTextOpaqueId input.runId
  projectTextOpaqueId input.toolReceiptId
  creativeProjectDigest input.toolInputDigest
  creativeProjectDigest input.contentDigest

/-- The checks of a selection. -/
def parseProjectTextPlanSelectionReference (input : ProjectTextPlanSelectionReference) :
    Checked Unit := do
  creativeProjectRecord input.json
  projectTextOpaqueId input.idempotencyKey
  creativeProjectDigest input.requestDigest
  projectTextOpaqueId input.artifactId
  creativeProjectRevision input.artifactRevision 1
  creativeProjectRevision input.contentRevision 1
  creativeProjectDigest input.contentDigest

/-- The checks of a terminal event. -/
def parseProjectTextPlanTerminal (input : ProjectTextPlanTerminal) : Checked Unit := do
  creativeProjectRecord input.json
  projectTextOpaqueId input.eventId
  creativeProjectRevision input.throughSequence 1
  creativeProjectRevision input.runRevision 1

/-- A selection is one of the result. -/
def selects (selection : ProjectTextPlanSelectionReference)
    (result : ProjectTextPlanResultReference) : Prop :=
  some selection.artifactId = result.artifactId ∧
    some selection.contentRevision = result.contentRevision ∧
      selection.contentDigest = result.contentDigest

instance (selection : ProjectTextPlanSelectionReference) (result : ProjectTextPlanResultReference) :
    Decidable (selects selection result) := by
  unfold selects
  infer_instance

/-- The terminal event of a step says that its run completed. -/
def ProjectTextPlanStepBody.runCompleted (step : ProjectTextPlanStepBody) : Prop :=
  step.terminal.map ProjectTextPlanTerminal.status = some .completed

instance (step : ProjectTextPlanStepBody) : Decidable step.runCompleted := by
  unfold ProjectTextPlanStepBody.runCompleted
  infer_instance

/-- The parts of a step do not fit together. -/
def ProjectTextPlanStepBody.misshapen (step : ProjectTextPlanStepBody) : Prop :=
  (step.kind = .script ↔ step.episodeId = none) ∨
  (step.run = none ↔ step.input ≠ none) ∨
  (step.run ≠ none ∧ step.sources = none) ∨
  (∃ result ∈ step.result, result.kind ≠ step.kind ∨
    some result.runId ≠ step.run.map ProjectTextPlanStepRun.runId) ∨
  (∃ selection ∈ step.selection, ∀ result ∈ step.result,
    result.kind = .brief ∨ ¬ selects selection result) ∨
  (step.terminal ≠ none ∧ step.run = none) ∨
  (step.state = .admitted ∧ step.run = none) ∨
  (step.state = .waitingSelection ∧ (step.result = none ∨ ¬ step.runCompleted)) ∨
  (step.state = .succeeded ∧
    (step.result = none ∨ ¬ step.runCompleted ∨ (step.kind ≠ .brief ∧ step.selection = none))) ∨
  (∃ baseline ∈ step.baseline, baseline.kind.stage ≠ step.kind ∨
    baseline.episodeId ≠ step.episodeId)

instance (step : ProjectTextPlanStepBody) : Decidable step.misshapen := by
  unfold ProjectTextPlanStepBody.misshapen
  infer_instance

/-- The parts of a plan do not fit together. -/
def ProjectTextPlanBody.misshapen (plan : ProjectTextPlanBody) : Prop :=
  (plan.state = .paused ↔ plan.pauseReason = none) ∨
  ((plan.state = .running ∨ plan.state = .waitingSelection) ∧ plan.activeStepId = none) ∨
  (plan.state = .completed ∧ plan.activeStepId ≠ none)

instance (plan : ProjectTextPlanBody) : Decidable plan.misshapen := by
  unfold ProjectTextPlanBody.misshapen
  infer_instance

/-- The version of plans. -/
def projectTextPlanSchema : JsString := js "crewon.project-text-plan.v1"

/-- The version of steps. -/
def projectTextPlanStepSchema : JsString := js "crewon.project-text-plan-step.v1"

section Digest

variable (sha256 : JsString → JsString)

/-- A digest is that of the record. -/
def planChecked (body : JsonValue) (digest : JsString) : Checked Unit := do
  creativeProjectDigest digest
  let text ← extensionCanonicalJson body
  rejectIf (sha256 text ≠ digest) (planFailure "project_text_plan_digest_mismatch")

/-- Check a plan. -/
def parseProjectTextPlan (input : ProjectTextPlan) : Checked Unit := do
  creativeProjectRecord (.object (input.fields ++ [("contentDigest", .string input.contentDigest)]))
  rejectIf (input.schemaVersion ≠ projectTextPlanSchema) (planFailure "project_text_plan_invalid")
  whenPresent input.activeStepId projectTextOpaqueId
  rejectIf input.misshapen (planFailure "project_text_plan_invalid")
  projectTextOpaqueId input.planId
  validateCreativeProjectActor input.owner
  projectTextOpaqueId input.profileId
  projectTextOpaqueId input.projectId
  projectTextOpaqueId input.threadId
  projectTextOpaqueId input.bindingId
  whenPresent input.workspaceId projectTextOpaqueId
  creativeProjectRevision input.revision 1
  creativeProjectRevision input.currentPlanRevision 1
  creativeProjectRevision input.wakeRevision 0
  planTimes input.createdAt input.updatedAt
  planChecked sha256 (.object input.fields) input.contentDigest

/-- Make a plan of its body. -/
def createProjectTextPlan (body : ProjectTextPlanBody) : Checked ProjectTextPlan := do
  let text ← extensionCanonicalJson (.object body.fields)
  let plan : ProjectTextPlan := { body with contentDigest := sha256 text }
  parseProjectTextPlan sha256 plan
  return plan

/-- Check a step. -/
def parseProjectTextPlanStep (input : ProjectTextPlanStep) : Checked Unit := do
  creativeProjectRecord (.object (input.fields ++ [("contentDigest", .string input.contentDigest)]))
  rejectIf (input.schemaVersion ≠ projectTextPlanStepSchema)
    (planFailure "project_text_plan_invalid")
  whenPresent input.episodeId projectTextOpaqueId
  whenPresent input.sources planSources
  whenPresent input.baseline parseProjectTextPlanBaseline
  whenPresent input.input parseProjectTextPlanStepInput
  whenPresent input.run parseProjectTextPlanStepRun
  whenPresent input.result parseProjectTextPlanResultReference
  whenPresent input.selection parseProjectTextPlanSelectionReference
  whenPresent input.terminal parseProjectTextPlanTerminal
  rejectIf input.misshapen (planFailure "project_text_plan_invalid")
  projectTextOpaqueId input.planId
  creativeProjectRevision input.planRevision 1
  projectTextOpaqueId input.stepId
  planInteger input.ordinal 1 18
  creativeProjectRevision input.attempt 1
  creativeProjectRevision input.revision 1
  planTimes input.createdAt input.updatedAt
  planChecked sha256 (.object input.fields) input.contentDigest

/-- Make a step of its body. -/
def createProjectTextPlanStep (body : ProjectTextPlanStepBody) : Checked ProjectTextPlanStep := do
  let text ← extensionCanonicalJson (.object body.fields)
  let step : ProjectTextPlanStep := { body with contentDigest := sha256 text }
  parseProjectTextPlanStep sha256 step
  return step

end Digest

/-- The rules of change of a plan. -/
def assertProjectTextPlanChange (previous next : ProjectTextPlan) : Checked Unit := do
  rejectIf (next.revision ≠ previous.revision + 1 ∨
      next.currentPlanRevision < previous.currentPlanRevision ∨
      previous.currentPlanRevision + 1 < next.currentPlanRevision ∨
      next.wakeRevision < previous.wakeRevision ∨
      isEarlier next.updatedAt previous.updatedAt = true ∨ previous.state = .revoked)
    (planFailure "project_text_plan_transition_invalid")
  rejectIf (next.planId ≠ previous.planId ∨ next.profileId ≠ previous.profileId ∨
      next.projectId ≠ previous.projectId ∨ next.threadId ≠ previous.threadId ∨
      next.bindingId ≠ previous.bindingId ∨ next.workspaceId ≠ previous.workspaceId ∨
      next.createdAt ≠ previous.createdAt)
    (planFailure "project_text_plan_identity_changed")
  rejectIf (jsonText next.owner.json ≠ jsonText previous.owner.json)
    (planFailure "project_text_plan_identity_changed")

/-- A part of a step that is there stays as it is. -/
def assertEvidence {α : Type} (write : α → JsonValue) (previous next : Option α) : Checked Unit :=
  rejectIf (previous ≠ none ∧
      jsonText (.ofOption write previous) ≠ jsonText (.ofOption write next))
    (planFailure "project_text_plan_step_evidence_changed")

/-- The rules of change of a step. -/
def assertProjectTextPlanStepChange (previous next : ProjectTextPlanStep) : Checked Unit := do
  rejectIf (next.revision ≠ previous.revision + 1 ∨ next.attempt ≠ previous.attempt ∨
      isEarlier next.updatedAt previous.updatedAt = true)
    (planFailure "project_text_plan_step_transition_invalid")
  rejectIf (next.planId ≠ previous.planId ∨ next.planRevision ≠ previous.planRevision ∨
      next.stepId ≠ previous.stepId ∨ next.ordinal ≠ previous.ordinal ∨
      next.kind ≠ previous.kind ∨ next.episodeId ≠ previous.episodeId ∨
      next.createdAt ≠ previous.createdAt)
    (planFailure "project_text_plan_step_identity_changed")
  assertEvidence ProjectTextPlanStepInput.json previous.input next.input
  assertEvidence ProjectStageSources.json previous.sources next.sources
  assertEvidence ProjectTextPlanHeadBaseline.json previous.baseline next.baseline
  assertEvidence ProjectTextPlanStepRun.json previous.run next.run
  assertEvidence ProjectTextPlanResultReference.json previous.result next.result
  assertEvidence ProjectTextPlanSelectionReference.json previous.selection next.selection
  assertEvidence ProjectTextPlanTerminal.json previous.terminal next.terminal

end Crewon.Domain
