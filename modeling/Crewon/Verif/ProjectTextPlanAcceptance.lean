import Crewon.Verif.ProjectTextPlanOperations

/-!
# What the validators of a text plan accept

Whenever the guards of an operation admit the plan and the step that it finds, the records that it
computes pass the parsers and the rules of change, unless it changes the record of a plan that is
revoked or at its last revision, or starts a plan of a profile that is named by a dot segment.
-/

namespace Crewon.Verif.ProjectTextPlan

open Crewon.Js Crewon.Checked Crewon.Lib Crewon.Domain Crewon.Store

/-- The parts of a step fit together. -/
structure WellShaped (step : ProjectTextPlanStepBody) : Prop where
  episode : step.kind = .script ↔ step.episodeId ≠ none
  input : step.run = none ↔ step.input = none
  sources : step.run ≠ none → step.sources ≠ none
  result : ∀ result ∈ step.result, result.kind = step.kind ∧
    some result.runId = step.run.map ProjectTextPlanStepRun.runId
  selection : ∀ selection ∈ step.selection, ∃ result ∈ step.result,
    result.kind ≠ .brief ∧ selects selection result
  terminal : step.terminal ≠ none → step.run ≠ none
  admitted : step.state = .admitted → step.run ≠ none
  waiting : step.state = .waitingSelection → step.result ≠ none ∧ step.runCompleted
  succeeded : step.state = .succeeded →
    step.result ≠ none ∧ step.runCompleted ∧ (step.kind ≠ .brief → step.selection ≠ none)
  baseline : ∀ baseline ∈ step.baseline, baseline.kind.stage = step.kind ∧
    baseline.episodeId = step.episodeId

/-- The parts of a step fit together unless it is misshapen. -/
theorem wellShaped_iff {step : ProjectTextPlanStepBody} : WellShaped step ↔ ¬ step.misshapen := by
  unfold ProjectTextPlanStepBody.misshapen
  constructor
  · intro shaped misshapen
    rcases misshapen with episode | input | ⟨ran, sourceless⟩ | ⟨result, present, other⟩ |
      ⟨selection, present, unselected⟩ | ⟨ended, unrun⟩ | ⟨admitted, unrun⟩ |
      ⟨waiting, missing⟩ | ⟨succeeded, missing⟩ | ⟨baseline, present, other⟩
    · exact iff_not_self (episode.symm.trans shaped.episode)
    · exact iff_not_self (shaped.input.symm.trans input)
    · exact shaped.sources ran sourceless
    · obtain ⟨kind, ran⟩ := shaped.result result present
      exact other.elim (absurd kind) (absurd ran)
    · obtain ⟨result, found, written, chosen⟩ := shaped.selection selection present
      exact (unselected result found).elim written (absurd chosen)
    · exact shaped.terminal ended unrun
    · exact shaped.admitted admitted unrun
    · obtain ⟨present, completed⟩ := shaped.waiting waiting
      exact missing.elim present (absurd completed)
    · obtain ⟨present, completed, selected⟩ := shaped.succeeded succeeded
      rcases missing with absent | incomplete | ⟨written, unselected⟩
      · exact present absent
      · exact incomplete completed
      · exact selected written unselected
    · obtain ⟨kind, episode⟩ := shaped.baseline baseline present
      exact other.elim (absurd kind) (absurd episode)
  · intro shaped
    simp only [not_or] at shaped
    obtain ⟨episode, input, sources, result, selection, terminal, admitted, waiting, succeeded,
      baseline⟩ := shaped
    refine ⟨(not_iff_comm.mp (not_iff.mp episode)).symm, not_iff_not.mp (not_iff.mp input),
      fun ran missing => sources ⟨ran, missing⟩, ?_, ?_,
      fun ended unrun => terminal ⟨ended, unrun⟩, fun state unrun => admitted ⟨state, unrun⟩,
      ?_, ?_, ?_⟩
    · intro found present
      have fits := not_or.mp fun other => result ⟨found, present, other⟩
      exact ⟨not_not.mp fits.1, not_not.mp fits.2⟩
    · intro found present
      by_contra unselected
      refine selection ⟨found, present, ?_⟩
      intro result held
      by_contra fits
      obtain ⟨written, chosen⟩ := not_or.mp fits
      exact unselected ⟨result, held, written, not_not.mp chosen⟩
    · intro state
      have fits := not_or.mp fun missing => waiting ⟨state, missing⟩
      exact ⟨fits.1, not_not.mp fits.2⟩
    · intro state
      have fits := not_or.mp fun missing => succeeded ⟨state, missing⟩
      obtain ⟨completed, selected⟩ := not_or.mp fits.2
      exact ⟨fits.1, not_not.mp completed, fun written missing => selected ⟨written, missing⟩⟩
    · intro found present
      have fits := not_or.mp fun other => baseline ⟨found, present, other⟩
      exact ⟨not_not.mp fits.1, not_not.mp fits.2⟩

/-- The parts of a step are valid. -/
structure ValidParts (step : ProjectTextPlanStepBody) : Prop where
  sources : ∀ sources ∈ step.sources, planSources sources = .ok ()
  baseline : ∀ baseline ∈ step.baseline, parseProjectTextPlanBaseline baseline = .ok ()
  input : ∀ input ∈ step.input, parseProjectTextPlanStepInput input = .ok ()
  run : ∀ run ∈ step.run, parseProjectTextPlanStepRun run = .ok ()
  result : ∀ result ∈ step.result, parseProjectTextPlanResultReference result = .ok ()
  selection : ∀ selection ∈ step.selection,
    parseProjectTextPlanSelectionReference selection = .ok ()
  terminal : ∀ terminal ∈ step.terminal, parseProjectTextPlanTerminal terminal = .ok ()

/-- The parts of a valid step are valid. -/
theorem ValidStep.parts {step : ProjectTextPlanStepBody} (valid : ValidStep step) :
    ValidParts step :=
  ⟨valid.sources, valid.baseline, valid.input, valid.run, valid.result, valid.selection,
    valid.terminal⟩

/-- A revision that is one behind another one is checked like it, below the last one. -/
theorem creativeProjectRevision_next {revision minimum : Int}
    (checked : creativeProjectRevision revision minimum = .ok ())
    (below : revision < maxSafeInteger) :
    creativeProjectRevision (revision + 1) minimum = .ok () := by
  obtain ⟨safe, low⟩ := creativeProjectRevision_eq_ok.mp checked
  obtain ⟨bottom, _⟩ := isSafeInteger_iff.mp safe
  exact creativeProjectRevision_eq_ok.mpr
    ⟨isSafeInteger_iff.mpr ⟨by omega, by omega⟩, by omega⟩

/-- A time is a timestamp that is not earlier than another one. -/
def Timely (time since : JsString) : Prop :=
  creativeProjectTimestamp time = .ok () ∧ isEarlier time since = false

/-- The times of a record stay in order when it is updated in time. -/
theorem planTimes_updated {createdAt updatedAt time : JsString}
    (times : planTimes createdAt updatedAt = .ok ()) (timely : Timely time updatedAt) :
    planTimes createdAt time = .ok () := by
  obtain ⟨created, updated, ordered⟩ := planTimes_eq_ok.mp times
  obtain ⟨checked, later⟩ := timely
  refine planTimes_eq_ok.mpr ⟨created, checked, ?_⟩
  obtain ⟨middle, parsed, _⟩ :=
    Option.bind_eq_some_iff.mp (creativeProjectTimestamp_eq_ok.mp updated).2
  unfold isEarlier at ordered later ⊢
  rw [parsed] at ordered later
  cases first : dateParse time with
  | none => rfl
  | some instant =>
    cases second : dateParse createdAt with
    | none => rfl
    | some origin =>
      simp only [first, second, decide_eq_false_iff_not, not_lt] at ordered later ⊢
      omega

variable {sha256 : JsString → JsString}

/-- What a patch of a step leaves of it. -/
def KeepsStep (patch : ProjectTextPlanStepBody → ProjectTextPlanStepBody)
    (body : ProjectTextPlanStepBody) : Prop :=
  (patch body).planId = body.planId ∧ (patch body).planRevision = body.planRevision ∧
    (patch body).stepId = body.stepId ∧ (patch body).ordinal = body.ordinal ∧
      (patch body).kind = body.kind ∧ (patch body).episodeId = body.episodeId ∧
        (patch body).attempt = body.attempt ∧ (patch body).createdAt = body.createdAt

/-- A patch with valid parts that fit together is accepted as a change of a sound step. -/
theorem updateStep_accepted {plan : ProjectTextPlanBody} {step : ProjectTextPlanStep}
    {patch : ProjectTextPlanStepBody → ProjectTextPlanStepBody} {time : JsString}
    (hash : ∀ text, isDigest (sha256 text) = true)
    (sound : SoundStep plan step.toProjectTextPlanStepBody) (timely : Timely time step.updatedAt)
    (keeps : KeepsStep patch step.toProjectTextPlanStepBody)
    (kept : EvidenceKept step.toProjectTextPlanStepBody (patch step.toProjectTextPlanStepBody))
    (parts : ValidParts (patch step.toProjectTextPlanStepBody))
    (shaped : WellShaped (patch step.toProjectTextPlanStepBody)) :
    ∃ next, updateStep sha256 step patch time = .ok next := by
  obtain ⟨planId, planRevision, stepId, ordinal, kind, episodeId, attempt, createdAt⟩ := keeps
  have valid := sound.valid
  have below : step.revision < maxSafeInteger := by
    have low := sound.revision
    have few := progressOf_le step.toProjectTextPlanStepBody
    have large : (6 : Int) < maxSafeInteger := by decide
    omega
  have shape : ¬ (patch step.toProjectTextPlanStepBody).misshapen := wellShaped_iff.mp shaped
  refine ⟨_, updateStep_of_valid hash ⟨rfl, ?_, parts.sources, parts.baseline, parts.input,
    parts.run, parts.result, parts.selection, parts.terminal, shape, ?_, ?_, ?_, ?_, ?_, ?_, ?_⟩
    ⟨rfl, attempt, timely.2, planId, planRevision, stepId, ordinal, kind, episodeId, createdAt⟩
    ⟨kept.input, kept.sources, kept.baseline, kept.run, kept.result, kept.selection,
      kept.terminal⟩⟩
  · show ∀ present ∈ (patch step.toProjectTextPlanStepBody).episodeId, _
    rw [episodeId]
    exact valid.episodeId
  · show projectTextOpaqueId (patch step.toProjectTextPlanStepBody).planId = _
    rw [planId]
    exact valid.planId
  · show creativeProjectRevision (patch step.toProjectTextPlanStepBody).planRevision 1 = _
    rw [planRevision]
    exact valid.planRevision
  · show projectTextOpaqueId (patch step.toProjectTextPlanStepBody).stepId = _
    rw [stepId]
    exact valid.stepId
  · show planInteger (patch step.toProjectTextPlanStepBody).ordinal 1 18 = _
    rw [ordinal]
    exact valid.ordinal
  · show creativeProjectRevision (patch step.toProjectTextPlanStepBody).attempt 1 = _
    rw [attempt]
    exact valid.attempt
  · exact creativeProjectRevision_next valid.revision below
  · show planTimes (patch step.toProjectTextPlanStepBody).createdAt time = _
    rw [createdAt]
    exact planTimes_updated valid.times timely

/-- A patch is accepted as a change of a plan that is not revoked and below its last revision. -/
theorem updatePlan_accepted {plan : ProjectTextPlan}
    {patch : ProjectTextPlanBody → ProjectTextPlanBody} {time : JsString}
    (hash : ∀ text, isDigest (sha256 text) = true)
    (valid : ValidPlan plan.toProjectTextPlanBody) (low : plan.wakeRevision ≤ plan.revision)
    (alive : plan.state ≠ .revoked) (below : plan.revision < maxSafeInteger)
    (timely : Timely time plan.updatedAt) (keeps : KeepsPlan patch plan.toProjectTextPlanBody)
    (current : plan.currentPlanRevision ≤
        (patch plan.toProjectTextPlanBody).currentPlanRevision ∧
      (patch plan.toProjectTextPlanBody).currentPlanRevision ≤ plan.currentPlanRevision + 1)
    (turned : creativeProjectRevision
      (patch plan.toProjectTextPlanBody).currentPlanRevision 1 = .ok ())
    (active : ∀ stepId ∈ (patch plan.toProjectTextPlanBody).activeStepId,
      projectTextOpaqueId stepId = .ok ())
    (shape : ¬ (patch plan.toProjectTextPlanBody).misshapen) :
    ∃ next, updatePlan sha256 plan patch time = .ok next := by
  obtain ⟨planId, profileId, projectId, threadId, bindingId, workspaceId, createdAt⟩ :=
    keeps.identity
  have wake : creativeProjectRevision (patch plan.toProjectTextPlanBody).wakeRevision 0 =
      .ok () := by
    obtain ⟨safe, positive⟩ := creativeProjectRevision_eq_ok.mp valid.wakeRevision
    obtain ⟨bottom, _⟩ := isSafeInteger_iff.mp safe
    obtain ⟨above, near⟩ := keeps.wake
    exact creativeProjectRevision_eq_ok.mpr
      ⟨isSafeInteger_iff.mpr ⟨by omega, by omega⟩, by omega⟩
  refine ⟨_, updatePlan_of_valid hash ⟨rfl, active, shape, ?_, ?_, ?_, ?_, ?_, ?_, ?_, ?_, turned,
    wake, ?_⟩ ⟨rfl, current, keeps.wake.1, timely.2, alive, planId, profileId, projectId, threadId,
      bindingId, workspaceId, createdAt⟩ keeps.owner⟩
  · show projectTextOpaqueId (patch plan.toProjectTextPlanBody).planId = _
    rw [planId]
    exact valid.planId
  · show validateCreativeProjectActor (patch plan.toProjectTextPlanBody).owner = _
    rw [keeps.owner]
    exact valid.owner
  · show projectTextOpaqueId (patch plan.toProjectTextPlanBody).profileId = _
    rw [profileId]
    exact valid.profileId
  · show projectTextOpaqueId (patch plan.toProjectTextPlanBody).projectId = _
    rw [projectId]
    exact valid.projectId
  · show projectTextOpaqueId (patch plan.toProjectTextPlanBody).threadId = _
    rw [threadId]
    exact valid.threadId
  · show projectTextOpaqueId (patch plan.toProjectTextPlanBody).bindingId = _
    rw [bindingId]
    exact valid.bindingId
  · show ∀ present ∈ (patch plan.toProjectTextPlanBody).workspaceId, _
    rw [workspaceId]
    exact valid.workspaceId
  · exact creativeProjectRevision_next valid.revision below
  · show planTimes (patch plan.toProjectTextPlanBody).createdAt time = _
    rw [createdAt]
    exact planTimes_updated valid.times timely

/-- The parts of a plan fit together. -/
structure PlanShaped (plan : ProjectTextPlanBody) : Prop where
  paused : plan.state = .paused ↔ plan.pauseReason ≠ none
  active : plan.state = .running ∨ plan.state = .waitingSelection → plan.activeStepId ≠ none
  completed : plan.state = .completed → plan.activeStepId = none

/-- The parts of a plan fit together unless it is misshapen. -/
theorem planShaped_iff {plan : ProjectTextPlanBody} : PlanShaped plan ↔ ¬ plan.misshapen := by
  unfold ProjectTextPlanBody.misshapen
  constructor
  · rintro shaped (paused | ⟨state, inactive⟩ | ⟨state, active⟩)
    · exact iff_not_self (paused.symm.trans shaped.paused)
    · exact shaped.active state inactive
    · exact active (shaped.completed state)
  · intro shaped
    simp only [not_or] at shaped
    obtain ⟨paused, active, completed⟩ := shaped
    refine ⟨(not_iff_comm.mp (not_iff.mp paused)).symm, fun state inactive =>
      active ⟨state, inactive⟩, fun state => ?_⟩
    by_contra present
    exact completed ⟨state, present⟩

/-- A plan that is not paused has no reason to be. -/
theorem PlanShaped.reasonless {plan : ProjectTextPlanBody} (shaped : PlanShaped plan)
    (running : plan.state ≠ .paused) : plan.pauseReason = none := by
  by_contra present
  exact running (shaped.paused.mpr present)

/-- A plan that goes on without a reason to pause is in shape. -/
theorem planShaped_advanceBody {body : ProjectTextPlanBody} (next : Option ProjectTextPlanStep)
    (reasonless : body.pauseReason = none) : PlanShaped (advanceBody next body) := by
  cases next with
  | none => exact ⟨by simp [advanceBody, reasonless], by simp [advanceBody], by simp [advanceBody]⟩
  | some step =>
    exact ⟨by simp [advanceBody, reasonless], by simp [advanceBody], by simp [advanceBody]⟩

/-- What the parser of a revision ensures of the fields that the transitions read. -/
structure ParsedDefinition (definition : ProjectTextPlanRevision) : Prop where
  planId : projectTextOpaqueId definition.planId = .ok ()
  planRevision : creativeProjectRevision definition.planRevision 1 = .ok ()
  actor : validateCreativeProjectActor definition.actor = .ok ()
  profileId : creativeProjectOpaqueId definition.installation.profileId = .ok ()
  projectId : projectTextOpaqueId definition.projectId = .ok ()
  threadId : projectTextOpaqueId definition.threadId = .ok ()
  bindingId : projectTextOpaqueId definition.bindingId = .ok ()
  workspaceId : ∀ workspaceId ∈ definition.workspaceId, projectTextOpaqueId workspaceId = .ok ()
  episodeIds : ∀ episodeId ∈ definition.episodeIds, projectTextOpaqueId episodeId = .ok ()

/-- What the parser of an admission ensures, and what its caller checks of the step. -/
structure ParsedAdmission (step : ProjectTextPlanStepBody)
    (admission : ProjectTextPlanRunAdmission) (content : JsString)
    (expectedThreadRevision : Int) : Prop where
  sources : planSources admission.sources = .ok ()
  run : ValidRun ⟨admission.runId, admission.stageAdmissionDigest, admission.contentDigest⟩
  baseline : ∀ baseline ∈ admission.baseline, parseProjectTextPlanBaseline baseline = .ok ()
  slot : ∀ baseline ∈ admission.baseline, baseline.kind.stage = step.kind ∧
    baseline.episodeId = step.episodeId
  input : ValidInput ⟨content, admission.taskIdempotencyKey, expectedThreadRevision⟩

/-- A time is a timestamp and not earlier than those of the rows. -/
structure InTime (rows : ProjectTextPlanRows) (time : JsString) : Prop where
  checked : creativeProjectTimestamp time = .ok ()
  plan : ∀ plan ∈ rows.plan, isEarlier time plan.updatedAt = false
  steps : ∀ step ∈ rows.steps, isEarlier time step.updatedAt = false

/-- The inputs of an operation are as their parsers leave them, and it comes in time. -/
def Admissible (rows : ProjectTextPlanRows) : ProjectTextPlanOperation → Prop
  | .control _ request => ParsedDefinition request.definition ∧
      (∀ stepId ∈ request.stepIds, projectTextOpaqueId stepId = .ok ()) ∧
        InTime rows request.time
  | .admission stepId admission content expectedThreadRevision time =>
    (∀ step ∈ rows.steps, step.stepId = stepId →
      ParsedAdmission step.toProjectTextPlanStepBody admission content expectedThreadRevision) ∧
        InTime rows time
  | .result _ result time => parseProjectTextPlanResultReference result = .ok () ∧ InTime rows time
  | .terminal _ terminal time => parseProjectTextPlanTerminal terminal = .ok () ∧ InTime rows time
  | .selection _ selection time =>
    parseProjectTextPlanSelectionReference selection = .ok () ∧ InTime rows time
  | .advance _ selection time =>
    parseProjectTextPlanSelectionReference selection = .ok () ∧ InTime rows time
  | .systemPause _ _ time => InTime rows time

/-- The guards of a control that makes new steps: its own, and the free names of the store. -/
def remakeGuard (action : ProjectTextPlanAction) (rows : ProjectTextPlanRows)
    (request : ProjectTextPlanControlRequest) : Checked Unit := do
  let found ← previousGuard (rows.controlInput request)
  remainingGuard action found.1 found.2 (rows.controlInput request)
  let _ ← remainingSlots request.definition rows.currentSteps request.stepIds
  rejectIf (∃ stepId ∈ request.stepIds, stepId ∈ stepNames rows.steps)
    (planStoreFail "project_text_plan_steps_constraint")

/-- The guards of a control. -/
def controlGuard (rows : ProjectTextPlanRows) (request : ProjectTextPlanControlRequest) :
    ProjectTextPlanControl → Checked Unit
  | .start => do
    startGuard (rows.controlInput request)
    let _ ← firstSlots request.definition request.stepIds
    return ()
  | .pause | .revoke => do
    let found ← previousGuard (rows.controlInput request)
    sameJson request.definition.json found.2.json
      (planFailure "project_text_plan_transition_invalid")
    rejectIf (found.1.state = .completed) (planFailure "project_text_plan_transition_invalid")
  | .resume => remakeGuard .resume rows request
  | .reviseRemaining => remakeGuard .reviseRemaining rows request
  | .continue => do
    let found ← previousGuard (rows.controlInput request)
    let _ ← continueGuard found.1 found.2 (rows.controlInput request)
    return ()

/-- The guards of an operation on the plan and the step that it finds. -/
def operationGuard (rows : ProjectTextPlanRows) : ProjectTextPlanOperation → Checked Unit
  | .control kind request => controlGuard rows request kind
  | .admission stepId admission _ _ _ => do
    let located ← rows.locate stepId
    admissionGuard located.1 located.2 admission
  | .result stepId result _ => do
    let located ← rows.locate stepId
    resultGuard located.1 located.2 result
  | .terminal stepId terminal _ => do
    let located ← rows.locate stepId
    terminalGuard located.1 located.2 terminal
  | .selection stepId selection _ => do
    let located ← rows.locate stepId
    selectionGuard located.1 located.2 selection
  | .advance stepId selection _ => do
    let located ← rows.locate stepId
    selectionAuthority located.1 located.2
    advanceGuard located.1 located.2 selection
  | .systemPause stepId _ _ => do
    let located ← rows.locate stepId
    systemPauseGuard located.1 located.2

/-- The operation changes the record of the plan that it finds. -/
def ChangesPlan (rows : ProjectTextPlanRows) : ProjectTextPlanOperation → Prop
  | .control kind _ => kind ≠ .start
  | .admission _ _ _ _ _ => True
  | .result _ _ _ => False
  | .terminal stepId _ _ => ∃ located, rows.locate stepId = .ok located ∧ located.2.terminal = none
  | .selection _ _ _ => False
  | .advance _ _ _ => True
  | .systemPause _ reason _ =>
    ∀ plan ∈ rows.plan, ¬ (plan.state = .paused ∧ plan.pauseReason = some reason)

/-- Nothing that the guards leave open hinders the operation: it changes no plan that is revoked or
at its last revision, and starts none of a profile that is named by a dot segment. -/
structure Unhindered (rows : ProjectTextPlanRows) (operation : ProjectTextPlanOperation) :
    Prop where
  changeable : ChangesPlan rows operation → ∀ plan ∈ rows.plan,
    plan.state ≠ .revoked ∧ plan.revision < maxSafeInteger
  profile : ∀ request, operation = .control .start request →
    request.definition.installation.profileId ≠ js "." ∧
      request.definition.installation.profileId ≠ js ".."

/-- The slots of a revision are for valid episodes. -/
theorem revisionSlots_valid {definition : ProjectTextPlanRevision}
    (parsed : ParsedDefinition definition) :
    ∀ slot ∈ revisionSlots definition, (slot.kind = .script ↔ slot.episodeId ≠ none) ∧
      ∀ episodeId ∈ slot.episodeId, projectTextOpaqueId episodeId = .ok () := by
  intro slot member
  rcases List.mem_append.mp member with fixed | script
  · have unbound : slot.kind ≠ .script ∧ slot.episodeId = none := by
      rcases List.mem_append.mp fixed with brief | outline
      · split_ifs at brief
        · rw [List.mem_singleton.mp brief]
          exact ⟨by decide, rfl⟩
        · simp at brief
      · split_ifs at outline
        · rw [List.mem_singleton.mp outline]
          exact ⟨by decide, rfl⟩
        · simp at outline
    rw [unbound.2]
    exact ⟨by simp [unbound.1], by simp⟩
  · split_ifs at script
    · obtain ⟨episodeId, listed, rfl⟩ := List.mem_map.mp script
      refine ⟨by simp, ?_⟩
      intro present held
      obtain rfl := Option.mem_some.mp held
      exact parsed.episodeIds _ listed
    · simp at script

/-- The first revision is one. -/
theorem first_revision : creativeProjectRevision 1 1 = .ok () := by decide

/-- A new step for a valid slot is valid. -/
theorem validStep_new {definition : ProjectTextPlanRevision} {slot : ProjectTextPlanSlot}
    {stepId time : JsString} {ordinal attempt : Int} (parsed : ParsedDefinition definition)
    (episode : slot.kind = .script ↔ slot.episodeId ≠ none)
    (episodes : ∀ episodeId ∈ slot.episodeId, projectTextOpaqueId episodeId = .ok ())
    (named : projectTextOpaqueId stepId = .ok ())
    (checked : creativeProjectTimestamp time = .ok ())
    (attempts : creativeProjectRevision attempt 1 = .ok ()) (first : 1 ≤ ordinal)
    (last : ordinal ≤ 18) : ValidStep (newStep definition slot stepId ordinal attempt time) := by
  have shaped : WellShaped (newStep definition slot stepId ordinal attempt time) :=
    ⟨episode, by simp [newStep], by simp [newStep], by simp [newStep], by simp [newStep],
      by simp [newStep], by simp [newStep], by simp [newStep], by simp [newStep],
      by simp [newStep]⟩
  have small : (18 : Int) ≤ maxSafeInteger := by decide
  have bounded : planInteger ordinal 1 18 = .ok () := by
    have safe : isSafeInteger ordinal = true := isSafeInteger_iff.mpr ⟨by omega, by omega⟩
    simp only [planInteger, rejectIf_eq_ok, safe]
    simp
    omega
  have same : isEarlier time time = false := by
    unfold isEarlier
    cases dateParse time <;> simp
  exact ⟨rfl, episodes, by simp [newStep], by simp [newStep], by simp [newStep], by simp [newStep],
    by simp [newStep], by simp [newStep], by simp [newStep], wellShaped_iff.mp shaped,
    parsed.planId, parsed.planRevision, named, bounded, attempts, first_revision,
    planTimes_eq_ok.mpr ⟨checked, checked, same⟩⟩

/-- Steps are made for valid slots. -/
theorem createSteps_accepted {definition : ProjectTextPlanRevision}
    {attempt : ProjectTextPlanSlot → Int} {time : JsString} {slots : List ProjectTextPlanSlot}
    {stepIds : List JsString} {ordinal : Int} (hash : ∀ text, isDigest (sha256 text) = true)
    (parsed : ParsedDefinition definition)
    (valid : ∀ slot ∈ slots, (slot.kind = .script ↔ slot.episodeId ≠ none) ∧
      ∀ episodeId ∈ slot.episodeId, projectTextOpaqueId episodeId = .ok ())
    (attempts : ∀ slot, creativeProjectRevision (attempt slot) 1 = .ok ())
    (named : ∀ stepId ∈ stepIds, projectTextOpaqueId stepId = .ok ())
    (checked : creativeProjectTimestamp time = .ok ()) (first : 1 ≤ ordinal)
    (last : ordinal + slots.length ≤ 19) :
    ∃ steps, createSteps sha256 definition attempt time ordinal slots stepIds = .ok steps := by
  induction slots generalizing ordinal stepIds with
  | nil =>
    refine ⟨[], ?_⟩
    rw [createSteps]
    · rfl
    · simp
  | cons slot slots hypothesis =>
    cases stepIds with
    | nil =>
      refine ⟨[], ?_⟩
      rw [createSteps]
      · rfl
      · simp
    | cons stepId stepIds =>
      rw [List.length_cons] at last
      obtain ⟨episode, episodes⟩ := valid slot List.mem_cons_self
      have made := createProjectTextPlanStep_of_valid hash
        (validStep_new parsed episode episodes (named stepId List.mem_cons_self) checked
          (attempts slot) first (by omega))
      obtain ⟨rest, behind⟩ := @hypothesis stepIds (ordinal + 1)
        (fun other member => valid other (List.mem_cons_of_mem _ member))
        (fun other member => named other (List.mem_cons_of_mem _ member)) (by omega) (by omega)
      refine ⟨digestedStep sha256
        (newStep definition slot stepId ordinal (attempt slot) time) :: rest, ?_⟩
      simp only [createSteps, made, ok_bind, behind]
      rfl

section Accepted

variable {rows : ProjectTextPlanRows} {plan : ProjectTextPlan}
  {past current : List ProjectTextPlanStep}

/-- A pause or a revocation is accepted. -/
theorem stop_accepted {request : ProjectTextPlanControlRequest} {state : ProjectTextPlanState}
    {pauseReason : Option ProjectTextPlanPauseReason} {old : ProjectTextPlan}
    {revision : ProjectTextPlanRevision} (hash : ∀ text, isDigest (sha256 text) = true)
    (found : rows.plan = some plan) (split : rows.steps = past ++ current)
    (coherent : Coherent plan.toProjectTextPlanBody past current)
    (intime : InTime rows request.time) (below : plan.revision < maxSafeInteger)
    (guarded : previousGuard (rows.controlInput request) = .ok (old, revision))
    (same : sameJson request.definition.json revision.json
      (planFailure "project_text_plan_transition_invalid") = .ok ())
    (live : old.state ≠ .completed) (reason : state = .paused ↔ pauseReason ≠ none)
    (stopping : state = .paused ∨ state = .revoked) :
    ∃ change, stopProjectTextPlan sha256 state pauseReason (rows.controlInput request) =
      .ok change ∧ ∃ steps, writeSteps rows.currentSteps change.steps rows.steps = .ok steps := by
  obtain ⟨_, previous, _, alive, _, _⟩ := previousGuard_eq_ok.mp guarded
  have equal : plan = old := Option.some.inj (found.symm.trans previous)
  subst equal
  have shaped : PlanShaped { plan.toProjectTextPlanBody with
      state := state, pauseReason := pauseReason } := by
    refine ⟨reason, ?_, ?_⟩
    · rcases stopping with rfl | rfl <;> simp
    · rcases stopping with rfl | rfl <;> simp
  obtain ⟨next, updated⟩ := @updatePlan_accepted sha256 plan
    (fun body => { body with state := state, pauseReason := pauseReason }) request.time hash
    coherent.valid coherent.wake alive below
    ⟨intime.checked, intime.plan plan found⟩
    ⟨⟨rfl, rfl, rfl, rfl, rfl, rfl, rfl⟩, rfl, by simp⟩ (by simp)
    coherent.valid.currentPlanRevision coherent.valid.active (planShaped_iff.mp shaped)
  have unfinished : rejectIf (plan.state = .completed)
      (planFailure "project_text_plan_transition_invalid") = .ok () := rejectIf_eq_ok.mpr live
  refine ⟨⟨next, rows.currentSteps⟩, ?_, ?_⟩
  · simp only [stopProjectTextPlan, guarded, ok_bind]
    show (sameJson request.definition.json revision.json _ >>= fun _ => _) = _
    rw [same, ok_bind, unfinished, ok_bind]
    show (updatePlan sha256 plan _ request.time >>= fun _ => _) = _
    rw [updated]
    rfl
  · rw [coherent.currentSteps found split, split]
    exact ⟨_, writeSteps_self coherent.names⟩

/-- The attempts at the slots of a later revision are counted. -/
theorem nextAttempt_valid {definition : ProjectTextPlanRevision}
    (coherent : Coherent plan.toProjectTextPlanBody past current)
    (parsed : ParsedDefinition definition)
    (turned : definition.planRevision = plan.currentPlanRevision + 1)
    (slot : ProjectTextPlanSlot) :
    creativeProjectRevision (nextAttempt current slot) 1 = .ok () := by
  obtain ⟨safe, _⟩ := creativeProjectRevision_eq_ok.mp parsed.planRevision
  obtain ⟨_, top⟩ := isSafeInteger_iff.mp safe
  have positive := (creativeProjectRevision_eq_ok.mp coherent.valid.currentPlanRevision).2
  have attempts : ∀ step ∈ current, step.attempt ≤ plan.currentPlanRevision := by
    intro step member
    have low := (coherent.sound step (List.mem_append_right past member)).attempt
    have recent := coherent.recent step member
    omega
  have high : nextAttempt current slot ≤ plan.currentPlanRevision + 1 :=
    nextAttempt_le (by omega) attempts
  have low : 1 ≤ nextAttempt current slot := by
    unfold nextAttempt
    split
    · omega
    · next prior found =>
      have member := List.mem_append_right past (List.mem_of_find?_eq_some found)
      have counted := (coherent.sound prior member).valid.attempt
      have first := (creativeProjectRevision_eq_ok.mp counted).2
      split_ifs <;> omega
  exact creativeProjectRevision_eq_ok.mpr ⟨isSafeInteger_iff.mpr ⟨by omega, by omega⟩, low⟩

/-- A plan with new steps is in shape. -/
theorem planShaped_fresh (body : ProjectTextPlanBody) (activeStepId : Option JsString)
    (unavailable : Bool) : PlanShaped { body with
      state := freshState unavailable, activeStepId := activeStepId
      pauseReason := freshReason unavailable } := by
  cases unavailable
  · exact ⟨by simp [freshState, freshReason], by simp [freshState], by simp [freshState]⟩
  · exact ⟨by simp [freshState, freshReason], by simp [freshState], by simp [freshState]⟩

/-- The first of new steps has a valid name. -/
theorem named_head {steps : List ProjectTextPlanStep} {stepIds : List JsString}
    (names : stepNames steps = stepIds)
    (valid : ∀ stepId ∈ stepIds, projectTextOpaqueId stepId = .ok ()) :
    ∀ stepId ∈ steps.head?.map (fun step => step.stepId), projectTextOpaqueId stepId = .ok () := by
  intro stepId held
  obtain ⟨step, first, rfl⟩ := Option.map_eq_some_iff.mp held
  exact valid _ (names ▸ mem_stepNames (List.mem_of_head? first))

/-- New steps under free names are written. -/
theorem writeSteps_free {fresh rows : List ProjectTextPlanStep}
    (absent : ∀ step ∈ fresh, step.stepId ∉ stepNames current)
    (free : ∀ step ∈ fresh, step.stepId ∉ stepNames rows) (distinct : (stepNames fresh).Nodup) :
    ∃ after, writeSteps current fresh rows = .ok after := by
  induction fresh generalizing rows with
  | nil => exact ⟨rows, rfl⟩
  | cons step fresh hypothesis =>
    have unknown : ¬ (current.any fun old => old.stepId = step.stepId) = true := by
      intro known
      obtain ⟨old, found, same⟩ := List.any_eq_true.mp known
      exact absent step List.mem_cons_self (of_decide_eq_true same ▸ mem_stepNames found)
    have unnamed : ¬ (rows.any fun old => old.stepId = step.stepId) = true := by
      intro known
      obtain ⟨old, found, same⟩ := List.any_eq_true.mp known
      exact free step List.mem_cons_self (of_decide_eq_true same ▸ mem_stepNames found)
    rw [stepNames_cons, List.nodup_cons] at distinct
    have later : ∀ other ∈ fresh, other.stepId ∉ stepNames (rows ++ [step]) := by
      intro other member named
      rw [stepNames_append, stepNames_cons, stepNames_nil, List.mem_append,
        List.mem_singleton] at named
      rcases named with old | same
      · exact free other (List.mem_cons_of_mem _ member) old
      · exact distinct.1 (same ▸ mem_stepNames member)
    obtain ⟨after, written⟩ := hypothesis
      (fun other member => absent other (List.mem_cons_of_mem _ member)) later distinct.2
    refine ⟨after, ?_⟩
    have passes : rejectIf (rows.any (fun old => old.stepId = step.stepId) = true)
        (planStoreFail "project_text_plan_steps_constraint") = .ok () :=
      rejectIf_eq_ok.mpr unnamed
    rw [writeSteps, if_neg unknown, passes, ok_bind]
    exact written

/-- What a control that makes new steps makes of the body of a plan. -/
def remadeBody (input : ProjectTextPlanControlInput) (wakeRevision : Int)
    (steps : List ProjectTextPlanStep) (body : ProjectTextPlanBody) : ProjectTextPlanBody :=
  { body with
    state := freshState input.authorizationUnavailable
    activeStepId := steps.head?.map fun step => step.stepId
    pauseReason := freshReason input.authorizationUnavailable
    wakeRevision := wakeRevision + 1
    currentPlanRevision := input.definition.planRevision }

/-- A resumption or a revision is accepted. -/
theorem remake_accepted {action : ProjectTextPlanAction} {request : ProjectTextPlanControlRequest}
    (hash : ∀ text, isDigest (sha256 text) = true) (found : rows.plan = some plan)
    (split : rows.steps = past ++ current)
    (coherent : Coherent plan.toProjectTextPlanBody past current)
    (parsed : ParsedDefinition request.definition)
    (named : ∀ stepId ∈ request.stepIds, projectTextOpaqueId stepId = .ok ())
    (intime : InTime rows request.time) (below : plan.revision < maxSafeInteger)
    (guarded : remakeGuard action rows request = .ok ()) :
    ∃ change, remakeProjectTextPlan sha256 action (rows.controlInput request) = .ok change ∧
      ∃ steps, writeSteps rows.currentSteps change.steps rows.steps = .ok steps := by
  have shown : rows.currentSteps = current := coherent.currentSteps found split
  simp only [remakeGuard, bind_eq_ok, exists_unit, rejectIf_eq_ok] at guarded
  obtain ⟨⟨old, revision⟩, previous, allowed, slots, remaining, free⟩ := guarded
  obtain ⟨_, present, _, alive, _, _⟩ := previousGuard_eq_ok.mp previous
  have equal : plan = old := Option.some.inj (found.symm.trans present)
  subst equal
  obtain ⟨state, _, turned⟩ := remainingGuard_eq_ok allowed
  change request.definition.planRevision = plan.currentPlanRevision + 1 at turned
  obtain ⟨_, few, chosen, _, paired, distinct, absent⟩ := remainingSlots_eq_ok.mp remaining
  rw [shown] at chosen absent
  have valid : ∀ slot ∈ slots, (slot.kind = .script ↔ slot.episodeId ≠ none) ∧
      ∀ episodeId ∈ slot.episodeId, projectTextOpaqueId episodeId = .ok () := by
    intro slot member
    rw [chosen] at member
    exact revisionSlots_valid parsed slot (List.mem_filter.mp member).1
  have short : slots.length ≤ 18 := by
    rw [chosen]
    exact (List.length_filter_le _ _).trans few
  obtain ⟨fresh, created⟩ := @createSteps_accepted sha256 request.definition (nextAttempt current)
    request.time slots request.stepIds 1 hash parsed valid
    (nextAttempt_valid coherent parsed turned) named intime.checked le_rfl (by omega)
  obtain ⟨_, names, _⟩ := fresh_of_createSteps created paired
  have turn : plan.currentPlanRevision ≤ request.definition.planRevision ∧
      request.definition.planRevision ≤ plan.currentPlanRevision + 1 := by omega
  have shaped := planShaped_fresh { plan.toProjectTextPlanBody with
    wakeRevision := plan.wakeRevision + 1
    currentPlanRevision := request.definition.planRevision }
    (fresh.head?.map fun step => step.stepId) request.authorizationUnavailable
  obtain ⟨next, updated⟩ := @updatePlan_accepted sha256 plan
    (remadeBody (rows.controlInput request) plan.wakeRevision fresh) request.time hash
    coherent.valid coherent.wake alive below ⟨intime.checked, intime.plan plan found⟩
    ⟨⟨rfl, rfl, rfl, rfl, rfl, rfl, rfl⟩, rfl, by simp [remadeBody]⟩ turn parsed.planRevision
    (named_head names named) (planShaped_iff.mp shaped)
  refine ⟨⟨next, fresh⟩, ?_, ?_⟩
  · have steps : createProjectTextPlanRemainingSteps sha256 request.definition rows.currentSteps
        request.stepIds request.time = .ok fresh := by
      rw [createProjectTextPlanRemainingSteps, remaining, ok_bind, shown]
      exact created
    simp only [remakeProjectTextPlan, previous, ok_bind, allowed]
    show (createProjectTextPlanRemainingSteps sha256 request.definition rows.currentSteps
      request.stepIds request.time >>= fun _ => _) = _
    rw [steps, ok_bind]
    show (updatePlan sha256 plan (remadeBody (rows.controlInput request) plan.wakeRevision fresh)
      request.time >>= fun _ => _) = _
    rw [updated]
    rfl
  · refine writeSteps_free ?_ ?_ (names ▸ distinct)
    · intro step member
      rw [shown]
      exact absent _ (names ▸ mem_stepNames member)
    · intro step member taken
      exact free ⟨step.stepId, names ▸ mem_stepNames member, taken⟩

/-- An identifier that is no dot segment is one of a text. -/
theorem textId_of_opaqueId {input : JsString} (checked : creativeProjectOpaqueId input = .ok ())
    (named : input ≠ js "." ∧ input ≠ js "..") : projectTextOpaqueId input = .ok () := by
  simp only [projectTextOpaqueId, checked, ok_bind, rejectIf_eq_ok, not_or]
  exact named

/-- A time is not earlier than itself. -/
theorem isEarlier_self (time : JsString) : isEarlier time time = false := by
  unfold isEarlier
  cases dateParse time <;> simp

/-- A start is accepted. -/
theorem start_accepted {request : ProjectTextPlanControlRequest}
    (hash : ∀ text, isDigest (sha256 text) = true) (absent : rows.plan = none)
    (empty : rows.steps = []) (parsed : ParsedDefinition request.definition)
    (named : ∀ stepId ∈ request.stepIds, projectTextOpaqueId stepId = .ok ())
    (checked : creativeProjectTimestamp request.time = .ok ())
    (profile : request.definition.installation.profileId ≠ js "." ∧
      request.definition.installation.profileId ≠ js "..")
    (guarded : controlGuard rows request .start = .ok ()) :
    ∃ change, startProjectTextPlan sha256 (rows.controlInput request) = .ok change ∧
      ∃ steps, writeSteps rows.currentSteps change.steps rows.steps = .ok steps := by
  simp only [controlGuard, bind_eq_ok, exists_unit, pure_eq_ok, and_true] at guarded
  obtain ⟨allowed, slots, first⟩ := guarded
  obtain ⟨chosen, _, few, paired, distinct⟩ := firstSlots_eq_ok.mp first
  have valid : ∀ slot ∈ slots, (slot.kind = .script ↔ slot.episodeId ≠ none) ∧
      ∀ episodeId ∈ slot.episodeId, projectTextOpaqueId episodeId = .ok () := by
    rw [chosen]
    exact revisionSlots_valid parsed
  obtain ⟨fresh, created⟩ := @createSteps_accepted sha256 request.definition (fun _ => 1)
    request.time slots request.stepIds 1 hash parsed valid (fun _ => first_revision) named
    checked le_rfl (by omega)
  obtain ⟨_, names, _⟩ := fresh_of_createSteps created paired
  let body : ProjectTextPlanBody := {
    schemaVersion := projectTextPlanSchema
    planId := request.definition.planId
    owner := request.definition.actor
    profileId := request.definition.installation.profileId
    projectId := request.definition.projectId
    threadId := request.definition.threadId
    bindingId := request.definition.bindingId
    workspaceId := request.definition.workspaceId
    revision := 1
    currentPlanRevision := 1
    state := freshState request.authorizationUnavailable
    activeStepId := fresh.head?.map fun step => step.stepId
    pauseReason := freshReason request.authorizationUnavailable
    wakeRevision := 1
    createdAt := request.time
    updatedAt := request.time }
  have made := @createProjectTextPlan_of_valid sha256 body hash
    ⟨rfl, named_head names named, planShaped_iff.mp (planShaped_fresh body _ _), parsed.planId,
      parsed.actor, textId_of_opaqueId parsed.profileId profile, parsed.projectId,
      parsed.threadId, parsed.bindingId, parsed.workspaceId, first_revision, first_revision,
      (by decide : creativeProjectRevision 1 0 = .ok ()),
      planTimes_eq_ok.mpr ⟨checked, checked, isEarlier_self _⟩⟩
  have steps : createProjectTextPlanSteps sha256 request.definition request.stepIds
      request.time = .ok fresh := by
    rw [createProjectTextPlanSteps, first, ok_bind]
    exact created
  refine ⟨⟨digestedPlan sha256 body, fresh⟩, ?_, ?_⟩
  · rw [startProjectTextPlan, allowed, ok_bind]
    show (createProjectTextPlanSteps sha256 request.definition request.stepIds request.time >>=
      fun _ => _) = _
    rw [steps, ok_bind]
    show (createProjectTextPlan sha256 body >>= fun _ => _) = _
    rw [made]
    rfl
  · have none : rows.currentSteps = [] := by rw [ProjectTextPlanRows.currentSteps, absent]
    rw [none, empty]
    exact writeSteps_free (by simp) (by simp) (names ▸ distinct)

/-- The first of the steps behind the active one has a valid name. -/
theorem head_named {body : ProjectTextPlanBody} {before after : List ProjectTextPlanStep}
    {active : ProjectTextPlanStep} (coherent : Coherent body past (before ++ active :: after)) :
    ∀ stepId ∈ after.head?.map (fun step => step.stepId), projectTextOpaqueId stepId = .ok () := by
  intro stepId held
  obtain ⟨step, first, rfl⟩ := Option.map_eq_some_iff.mp held
  have member := List.mem_of_head? first
  exact (coherent.sound step (by simp [member])).valid.stepId

/-- A plan goes on: the update of its body is accepted. -/
theorem advance_accepted {before after : List ProjectTextPlanStep} {active : ProjectTextPlanStep}
    {patch : ProjectTextPlanBody → ProjectTextPlanBody} {time : JsString}
    (hash : ∀ text, isDigest (sha256 text) = true)
    (coherent : Coherent plan.toProjectTextPlanBody past (before ++ active :: after))
    (alive : plan.state ≠ .revoked) (below : plan.revision < maxSafeInteger)
    (timely : Timely time plan.updatedAt)
    (patched : ∃ body, body.pauseReason = none ∧
      patch plan.toProjectTextPlanBody = advanceBody after.head? body ∧
        body.currentPlanRevision = plan.currentPlanRevision)
    (keeps : KeepsPlan patch plan.toProjectTextPlanBody) :
    ∃ next, updatePlan sha256 plan patch time = .ok next := by
  obtain ⟨body, reasonless, same, current⟩ := patched
  have turned : (patch plan.toProjectTextPlanBody).currentPlanRevision =
      plan.currentPlanRevision := by
    rw [same]
    exact current
  refine updatePlan_accepted hash coherent.valid coherent.wake alive below timely keeps
    (by omega) ?_ ?_ ?_
  · rw [turned]
    exact coherent.valid.currentPlanRevision
  · rw [same]
    exact head_named coherent
  · rw [same]
    exact planShaped_iff.mp (planShaped_advanceBody _ reasonless)

/-- A step whose result was selected may succeed. -/
theorem wellShaped_succeeded {step : ProjectTextPlanStepBody} (valid : ValidStep step)
    (completed : step.runCompleted) (present : step.result ≠ none)
    (selection : Option ProjectTextPlanSelectionReference)
    (selected : ∀ chosen ∈ selection, ∃ result ∈ step.result,
      result.kind ≠ .brief ∧ selects chosen result)
    (some : step.kind ≠ .brief → selection ≠ none) :
    WellShaped { step with selection := selection, state := .succeeded } := by
  obtain ⟨episode, input, sources, result, _, terminal, _, _, _, baseline⟩ :=
    wellShaped_iff.mpr valid.shape
  exact ⟨episode, input, sources, result, selected, terminal, by simp, by simp,
    fun _ => ⟨present, completed, some⟩, baseline⟩

/-- A continuation is accepted. -/
theorem continue_accepted {request : ProjectTextPlanControlRequest}
    (hash : ∀ text, isDigest (sha256 text) = true) (found : rows.plan = some plan)
    (split : rows.steps = past ++ current)
    (coherent : Coherent plan.toProjectTextPlanBody past current)
    (intime : InTime rows request.time) (below : plan.revision < maxSafeInteger)
    (guarded : controlGuard rows request .continue = .ok ()) :
    ∃ change, continueProjectTextPlan sha256 (rows.controlInput request) = .ok change ∧
      ∃ steps, writeSteps rows.currentSteps change.steps rows.steps = .ok steps := by
  have shown : rows.currentSteps = current := coherent.currentSteps found split
  simp only [controlGuard, bind_eq_ok, pure_eq_ok, and_true] at guarded
  obtain ⟨⟨old, revision⟩, previous, step, allowed⟩ := guarded
  obtain ⟨_, present, _, alive, _, _⟩ := previousGuard_eq_ok.mp previous
  have equal : plan = old := Option.some.inj (found.symm.trans present)
  subst equal
  obtain ⟨state, chosen, completed, written, result, produced, selection, recorded, _⟩ :=
    continueGuard_eq_ok allowed
  change activeStep plan rows.currentSteps = some step at chosen
  rw [shown] at chosen
  have live : plan.state ≠ .completed := by
    rcases state with waiting | paused
    · intro completed
      cases waiting.symm.trans completed
    · intro completed
      cases paused.symm.trans completed
  obtain ⟨before, active, after, rfl, standing⟩ := coherent.exists_active live
  have names := coherent.names
  have inner : (stepNames (before ++ active :: after)).Nodup := by
    rw [stepNames_append] at names
    exact (List.nodup_append.mp names).2.1
  rw [activeStep_standing inner standing] at chosen
  obtain rfl := Option.some.inj chosen
  have sound := coherent.sound active (by simp)
  have present : active.result ≠ none := by
    rw [Option.mem_def.mp produced]
    exact Option.some_ne_none result
  have chosen : active.selection ≠ none := by
    rw [Option.mem_def.mp recorded]
    exact Option.some_ne_none selection
  have shaped := wellShaped_succeeded sound.valid completed present active.selection
    (wellShaped_iff.mpr sound.valid.shape).selection (fun _ => chosen)
  have parts := sound.valid.parts
  obtain ⟨changed, stepped⟩ := @updateStep_accepted sha256 plan.toProjectTextPlanBody active
    (fun body => { body with state := .succeeded }) request.time hash sound
    ⟨intime.checked, intime.steps active (by simp [split])⟩
    ⟨rfl, rfl, rfl, rfl, rfl, rfl, rfl, rfl⟩ (by constructor <;> intro _ <;> rfl)
    ⟨parts.sources, parts.baseline, parts.input, parts.run, parts.result, parts.selection,
      parts.terminal⟩ shaped
  obtain ⟨_, _, moving⟩ := updateStep_eq_ok stepped
  obtain ⟨_, _, stepId, ordinal, _⟩ := moving.identity
  have placed : replaceStep (before ++ active :: after) changed = before ++ changed :: after :=
    replaceStep_at inner stepId
  have behind := nextReady_standing coherent.ordered standing ordinal
  obtain ⟨next, updated⟩ := @advance_accepted sha256 plan past before after active
    (fun body => { advanceBody (nextReady (before ++ changed :: after) active.ordinal) body with
      pauseReason := none }) request.time hash coherent alive below
    ⟨intime.checked, intime.plan plan found⟩
    ⟨{ plan.toProjectTextPlanBody with pauseReason := none }, rfl, by rw [behind]; rfl, rfl⟩
    ⟨⟨rfl, rfl, rfl, rfl, rfl, rfl, rfl⟩, rfl, advanceBody_wake _ _⟩
  refine ⟨⟨next, before ++ changed :: after⟩, ?_, ?_⟩
  · simp only [continueProjectTextPlan, previous, ok_bind, allowed]
    show (updateStep sha256 active _ request.time >>= fun _ => _) = _
    rw [stepped, ok_bind]
    show (updatePlan sha256 plan (fun body => { advanceBody (nextReady
      (replaceStep rows.currentSteps changed) active.ordinal) body with pauseReason := none })
        request.time >>= fun _ => pure (ProjectTextPlanChange.mk _ _)) = _
    rw [shown, placed, updated, ok_bind]
    show Except.ok (ProjectTextPlanChange.mk next (replaceStep rows.currentSteps changed)) = _
    rw [shown, placed]
  · rw [shown, split]
    exact ⟨_, writeSteps_moved names stepId⟩

/-- A step without a run has no result and no selection. -/
theorem ValidStep.resultless {step : ProjectTextPlanStepBody} (valid : ValidStep step)
    (absent : step.run = none) : step.result = none ∧ step.selection = none := by
  have shaped := wellShaped_iff.mpr valid.shape
  have resultless : step.result = none := by
    cases present : step.result with
    | none => rfl
    | some result =>
      have ran := (shaped.result result present).2
      rw [absent] at ran
      cases ran
  refine ⟨resultless, ?_⟩
  cases present : step.selection with
  | none => rfl
  | some selection =>
    obtain ⟨result, found, _⟩ := shaped.selection selection present
    rw [resultless] at found
    cases found

variable {step : ProjectTextPlanStep} {time : JsString}

/-- An admission is accepted. -/
theorem admission_accepted {admission : ProjectTextPlanRunAdmission} {content : JsString}
    {expectedThreadRevision : Int} (hash : ∀ text, isDigest (sha256 text) = true)
    (coherent : Coherent plan.toProjectTextPlanBody past current) (member : step ∈ past ++ current)
    (parsed : ParsedAdmission step.toProjectTextPlanStepBody admission content
      expectedThreadRevision)
    (planTime : Timely time plan.updatedAt) (stepTime : Timely time step.updatedAt)
    (below : plan.revision < maxSafeInteger)
    (guarded : admissionGuard plan step admission = .ok ()) :
    ∃ checkpoint, checkpointProjectTextPlanAdmission sha256 plan step admission content
      expectedThreadRevision time = .ok checkpoint := by
  obtain ⟨ready, named, _, absent, _, _, _⟩ := admissionGuard_eq_ok.mp guarded
  have sound := coherent.sound step member
  obtain ⟨resultless, unselected⟩ := sound.valid.resultless absent
  obtain ⟨_, unended⟩ := sound.valid.unrun absent
  have shaped := wellShaped_iff.mpr sound.valid.shape
  have parts := sound.valid.parts
  have admitted : WellShaped (admittedBody admission content expectedThreadRevision
      step.toProjectTextPlanStepBody) := by
    refine ⟨shaped.episode, by simp [admittedBody], by simp [admittedBody], ?_, ?_, ?_,
      by simp [admittedBody], by simp [admittedBody], by simp [admittedBody], parsed.slot⟩
    · simp [admittedBody, resultless]
    · simp [admittedBody, unselected]
    · simp [admittedBody]
  obtain ⟨changed, stepped⟩ := @updateStep_accepted sha256 plan.toProjectTextPlanBody step
    (admittedBody admission content expectedThreadRevision) time hash sound stepTime
    ⟨rfl, rfl, rfl, rfl, rfl, rfl, rfl, rfl⟩
    (evidenceKept_admitted sound absent admission content expectedThreadRevision)
    ⟨by simpa [admittedBody] using parsed.sources, parsed.baseline,
      by simpa [admittedBody] using parseProjectTextPlanStepInput_eq_ok.mpr parsed.input,
      by simpa [admittedBody] using parseProjectTextPlanStepRun_eq_ok.mpr parsed.run,
      parts.result, parts.selection, parts.terminal⟩ admitted
  have running : PlanShaped { plan.toProjectTextPlanBody with state := .running } := by
    have reasonless := (planShaped_iff.mpr coherent.valid.shape).reasonless (by simp [ready])
    exact ⟨by simp [reasonless], by simp [named], by simp⟩
  obtain ⟨next, updated⟩ := @updatePlan_accepted sha256 plan
    (fun body => { body with state := .running }) time hash coherent.valid coherent.wake
    (by simp [ready]) below planTime ⟨⟨rfl, rfl, rfl, rfl, rfl, rfl, rfl⟩, rfl, by simp⟩ (by simp)
    coherent.valid.currentPlanRevision coherent.valid.active (planShaped_iff.mp running)
  refine ⟨⟨next, changed⟩, ?_⟩
  rw [checkpointProjectTextPlanAdmission, guarded, ok_bind]
  show (updateStep sha256 step (admittedBody admission content expectedThreadRevision) time >>=
    fun _ => _) = _
  rw [stepped, ok_bind, updated]
  rfl

/-- A result is accepted. -/
theorem result_accepted {result : ProjectTextPlanResultReference}
    (hash : ∀ text, isDigest (sha256 text) = true)
    (coherent : Coherent plan.toProjectTextPlanBody past current) (member : step ∈ past ++ current)
    (parsed : parseProjectTextPlanResultReference result = .ok ())
    (stepTime : Timely time step.updatedAt)
    (guarded : resultGuard plan step result = .ok ()) :
    ∃ checkpoint, checkpointProjectTextPlanResult sha256 plan step result time =
      .ok checkpoint := by
  obtain ⟨_, ran, kind⟩ := resultGuard_live guarded
  have sound := coherent.sound step member
  have shaped := wellShaped_iff.mpr sound.valid.shape
  have parts := sound.valid.parts
  rw [checkpointProjectTextPlanResult, guarded, ok_bind]
  by_cases present : step.result ≠ none
  · rw [if_pos present]
    exact ⟨_, rfl⟩
  · rw [if_neg present]
    have absent : step.result = none := not_not.mp present
    have recorded : WellShaped { step.toProjectTextPlanStepBody with result := some result } := by
      refine ⟨shaped.episode, shaped.input, shaped.sources, ?_, ?_, shaped.terminal,
        shaped.admitted, fun waiting => ⟨by simp, (shaped.waiting waiting).2⟩,
        fun succeeded => ⟨by simp, (shaped.succeeded succeeded).2⟩, shaped.baseline⟩
      · intro found held
        obtain rfl := Option.mem_some.mp held
        exact ⟨kind.symm, ran.symm⟩
      · intro selection held
        obtain ⟨old, found, _⟩ := shaped.selection selection held
        rw [absent] at found
        cases found
    obtain ⟨changed, stepped⟩ := @updateStep_accepted sha256 plan.toProjectTextPlanBody step
      (fun body => { body with result := some result }) time hash sound stepTime
      ⟨rfl, rfl, rfl, rfl, rfl, rfl, rfl, rfl⟩
      ⟨fun _ => rfl, fun _ => rfl, fun _ => rfl, fun _ => rfl, fun some => absurd absent some,
        fun _ => rfl, fun _ => rfl⟩
      ⟨parts.sources, parts.baseline, parts.input, parts.run, by simpa using parsed,
        parts.selection, parts.terminal⟩ recorded
    exact ⟨⟨plan, changed⟩, by rw [stepped]; rfl⟩

/-- A selection is accepted. -/
theorem selection_accepted {selection : ProjectTextPlanSelectionReference}
    (hash : ∀ text, isDigest (sha256 text) = true)
    (coherent : Coherent plan.toProjectTextPlanBody past current) (member : step ∈ past ++ current)
    (parsed : parseProjectTextPlanSelectionReference selection = .ok ())
    (stepTime : Timely time step.updatedAt)
    (guarded : selectionGuard plan step selection = .ok ()) :
    ∃ checkpoint, checkpointProjectTextPlanSelection sha256 plan step selection time =
      .ok checkpoint := by
  obtain ⟨_, chosen⟩ := selectionGuard_live guarded
  have sound := coherent.sound step member
  have shaped := wellShaped_iff.mpr sound.valid.shape
  have parts := sound.valid.parts
  rw [checkpointProjectTextPlanSelection, guarded, ok_bind]
  by_cases present : step.selection ≠ none
  · rw [if_pos present]
    exact ⟨_, rfl⟩
  · rw [if_neg present]
    have absent : step.selection = none := not_not.mp present
    have recorded : WellShaped
        { step.toProjectTextPlanStepBody with selection := some selection } := by
      refine ⟨shaped.episode, shaped.input, shaped.sources, shaped.result, ?_, shaped.terminal,
        shaped.admitted, shaped.waiting, fun succeeded => ?_, shaped.baseline⟩
      · intro found held
        obtain rfl := Option.mem_some.mp held
        exact chosen
      · obtain ⟨produced, completed, _⟩ := shaped.succeeded succeeded
        exact ⟨produced, completed, by simp⟩
    obtain ⟨changed, stepped⟩ := @updateStep_accepted sha256 plan.toProjectTextPlanBody step
      (fun body => { body with selection := some selection }) time hash sound stepTime
      ⟨rfl, rfl, rfl, rfl, rfl, rfl, rfl, rfl⟩
      ⟨fun _ => rfl, fun _ => rfl, fun _ => rfl, fun _ => rfl, fun _ => rfl,
        fun some => absurd absent some, fun _ => rfl⟩
      ⟨parts.sources, parts.baseline, parts.input, parts.run, parts.result, by simpa using parsed,
        parts.terminal⟩ recorded
    exact ⟨⟨plan, changed⟩, by rw [stepped]; rfl⟩

/-- What a terminal event makes of the state of a step. -/
theorem terminalChange_state (plan : ProjectTextPlan) (step : ProjectTextPlanStep)
    (terminal : ProjectTextPlanTerminal) (steps : List ProjectTextPlanStep) :
    let state := (terminalChange plan step terminal steps).2
    state = step.state ∨ state = .failed ∨
      (terminal.status = .completed ∧ step.result ≠ none) ∧
        (state = .waitingSelection ∨ step.kind = .brief ∧ state = .succeeded) := by
  intro state
  by_cases running : plan.state ≠ .revoked ∧ plan.state ≠ .paused
  · by_cases failed : terminal.status ≠ .completed ∨ step.result = none
    · have made : state = .failed := by simp only [state, terminalChange, if_pos running,
        if_pos failed]
      exact .inr (.inl made)
    · obtain ⟨completed, present⟩ := not_or.mp failed
      by_cases brief : step.kind = .brief
      · have made : state = .succeeded := by simp only [state, terminalChange, if_pos running,
          if_neg failed, if_pos brief]
        exact .inr (.inr ⟨⟨not_not.mp completed, present⟩, .inr ⟨brief, made⟩⟩)
      · have made : state = .waitingSelection := by simp only [state, terminalChange,
          if_pos running, if_neg failed, if_neg brief]
        exact .inr (.inr ⟨⟨not_not.mp completed, present⟩, .inl made⟩)
  · by_cases completed : terminal.status = .completed ∧ step.result ≠ none
    · have made : state = if step.kind = .brief then .succeeded else .waitingSelection := by
        simp only [state, terminalChange, if_neg running, if_pos completed]
      by_cases brief : step.kind = .brief
      · rw [if_pos brief] at made
        exact .inr (.inr ⟨completed, .inr ⟨brief, made⟩⟩)
      · rw [if_neg brief] at made
        exact .inr (.inr ⟨completed, .inl made⟩)
    · have made : state = step.state := by simp only [state, terminalChange, if_neg running,
        if_neg completed]
      exact .inl made

/-- A step with its terminal event is in shape. -/
theorem wellShaped_terminal {steps : List ProjectTextPlanStep} (valid :
    ValidStep step.toProjectTextPlanStepBody) (ran : step.run ≠ none)
    (unended : step.terminal = none) (terminal : ProjectTextPlanTerminal) :
    WellShaped { step.toProjectTextPlanStepBody with
      terminal := some terminal, state := (terminalChange plan step terminal steps).2 } := by
  have shaped := wellShaped_iff.mpr valid.shape
  have open_state : step.state ≠ .succeeded ∧ step.state ≠ .waitingSelection := by
    refine ⟨valid.unfinished unended, ?_⟩
    intro waiting
    have completed := (valid.waiting waiting).2
    rw [ProjectTextPlanStepBody.runCompleted, unended] at completed
    cases completed
  have made := terminalChange_state plan step terminal steps
  refine ⟨shaped.episode, shaped.input, shaped.sources, shaped.result, shaped.selection,
    fun _ => ran, fun _ => ran, ?_, ?_, shaped.baseline⟩
  · intro waiting
    change (terminalChange plan step terminal steps).2 = .waitingSelection at waiting
    rcases made with same | failed | ⟨⟨completed, present⟩, _⟩
    · exact absurd (same.symm.trans waiting) open_state.2
    · rw [waiting] at failed
      cases failed
    · exact ⟨present, congrArg some completed⟩
  · intro succeeded
    change (terminalChange plan step terminal steps).2 = .succeeded at succeeded
    rcases made with same | failed | ⟨⟨completed, present⟩, waiting | ⟨brief, _⟩⟩
    · exact absurd (same.symm.trans succeeded) open_state.1
    · rw [succeeded] at failed
      cases failed
    · rw [succeeded] at waiting
      cases waiting
    · exact ⟨present, congrArg some completed, fun written => absurd brief written⟩

/-- A plan with a terminal event of its active step is in shape, with a valid active step. -/
theorem planShaped_terminal {before after : List ProjectTextPlanStep}
    (coherent : Coherent plan.toProjectTextPlanBody past (before ++ step :: after))
    (standing : Standing plan.state plan.activeStepId before step after)
    (terminal : ProjectTextPlanTerminal) :
    let body := (terminalChange plan step terminal (before ++ step :: after)).1
      plan.toProjectTextPlanBody
    PlanShaped body ∧ ∀ stepId ∈ body.activeStepId, projectTextOpaqueId stepId = .ok () := by
  have shaped := planShaped_iff.mpr coherent.valid.shape
  have named := standing.named
  have behind := nextReadyOf_standing coherent standing
  by_cases running : plan.state ≠ .revoked ∧ plan.state ≠ .paused
  · have reasonless := shaped.reasonless running.2
    by_cases failed : terminal.status ≠ .completed ∨ step.result = none
    · simp only [terminalChange, if_pos running, if_pos failed]
      exact ⟨⟨by simp, by simp, by simp⟩, coherent.valid.active⟩
    · by_cases brief : step.kind = .brief
      · simp only [terminalChange, if_pos running, if_neg failed, if_pos brief, behind]
        exact ⟨planShaped_advanceBody _ reasonless, head_named coherent⟩
      · simp only [terminalChange, if_pos running, if_neg failed, if_neg brief]
        exact ⟨⟨by simp [reasonless], by simp [named], by simp⟩, coherent.valid.active⟩
  · by_cases completed : terminal.status = .completed ∧ step.result ≠ none
    · by_cases last : plan.state = .paused ∧ step.kind = .brief ∧
          nextReadyOf (before ++ step :: after) step = none
      · simp only [terminalChange, if_neg running, if_pos completed, if_pos last]
        exact ⟨⟨by simp, by simp, by simp⟩, by simp⟩
      · simp only [terminalChange, if_neg running, if_pos completed, if_neg last]
        exact ⟨shaped, coherent.valid.active⟩
    · simp only [terminalChange, if_neg running, if_neg completed]
      exact ⟨shaped, coherent.valid.active⟩

/-- A terminal event is accepted, unless it is the first one and the plan is revoked. -/
theorem terminal_accepted {terminal : ProjectTextPlanTerminal}
    (hash : ∀ text, isDigest (sha256 text) = true) (found : rows.plan = some plan)
    (split : rows.steps = past ++ current)
    (coherent : Coherent plan.toProjectTextPlanBody past current) (member : step ∈ past ++ current)
    (parsed : parseProjectTextPlanTerminal terminal = .ok ())
    (planTime : Timely time plan.updatedAt) (stepTime : Timely time step.updatedAt)
    (changeable : step.terminal = none → plan.state ≠ .revoked ∧ plan.revision < maxSafeInteger)
    (guarded : terminalGuard plan step terminal = .ok ()) :
    ∃ checkpoint, checkpointProjectTextPlanTerminal sha256 plan step terminal rows.currentSteps
      time = .ok checkpoint := by
  obtain ⟨ran, named⟩ := terminalGuard_active guarded
  have sound := coherent.sound step member
  have parts := sound.valid.parts
  rw [checkpointProjectTextPlanTerminal, guarded, ok_bind, coherent.currentSteps found split]
  by_cases present : step.terminal ≠ none
  · rw [if_pos present]
    exact ⟨_, rfl⟩
  · rw [if_neg present]
    have absent : step.terminal = none := not_not.mp present
    obtain ⟨alive, below⟩ := changeable absent
    obtain ⟨before, after, rfl, standing⟩ := coherent.active member named
    obtain ⟨keeps, same⟩ := keepsPlan_terminalChange plan step terminal
      (before ++ step :: after) plan.toProjectTextPlanBody
    obtain ⟨shaped, active⟩ := planShaped_terminal coherent standing terminal
    obtain ⟨next, updated⟩ := @updatePlan_accepted sha256 plan
      (terminalChange plan step terminal (before ++ step :: after)).1 time hash coherent.valid
      coherent.wake alive below planTime keeps (by omega)
      (by rw [same]; exact coherent.valid.currentPlanRevision) active (planShaped_iff.mp shaped)
    obtain ⟨changed, stepped⟩ := @updateStep_accepted sha256 plan.toProjectTextPlanBody step
      (fun body => { body with
        terminal := some terminal
        state := (terminalChange plan step terminal (before ++ step :: after)).2 })
      time hash sound stepTime ⟨rfl, rfl, rfl, rfl, rfl, rfl, rfl, rfl⟩
      ⟨fun _ => rfl, fun _ => rfl, fun _ => rfl, fun _ => rfl, fun _ => rfl, fun _ => rfl,
        fun some => absurd absent some⟩
      ⟨parts.sources, parts.baseline, parts.input, parts.run, parts.result, parts.selection,
        by simpa using parsed⟩ (wellShaped_terminal sound.valid ran absent terminal)
    refine ⟨⟨next, changed⟩, ?_⟩
    cases made : terminalChange plan step terminal (before ++ step :: after) with
    | mk patch state =>
      rw [made] at updated stepped
      simp only [updated, stepped, ok_bind]
      rfl

/-- An automatic selection is accepted. -/
theorem advance_step_accepted {selection : ProjectTextPlanSelectionReference}
    (hash : ∀ text, isDigest (sha256 text) = true) (found : rows.plan = some plan)
    (split : rows.steps = past ++ current)
    (coherent : Coherent plan.toProjectTextPlanBody past current) (member : step ∈ past ++ current)
    (parsed : parseProjectTextPlanSelectionReference selection = .ok ())
    (planTime : Timely time plan.updatedAt) (stepTime : Timely time step.updatedAt)
    (below : plan.revision < maxSafeInteger) (authority : selectionAuthority plan step = .ok ())
    (guarded : advanceGuard plan step selection = .ok ()) :
    ∃ checkpoint, advanceProjectTextPlanSelection sha256 plan step selection
      (rows.stepsOf step.planRevision) time = .ok checkpoint := by
  obtain ⟨revision, waiting, named, _, completed⟩ := selectionAuthority_eq_ok.mp authority
  obtain ⟨_, selecting⟩ := advanceGuard_eq_ok.mp guarded
  obtain ⟨alive, chosen⟩ := selectionGuard_live selecting
  have sound := coherent.sound step member
  have shaped := wellShaped_iff.mpr sound.valid.shape
  have parts := sound.valid.parts
  obtain ⟨checkpoint, recorded⟩ :=
    selection_accepted hash coherent member parsed stepTime selecting
  obtain ⟨_, _, kept⟩ := checkpointProjectTextPlanSelection_eq_ok recorded
  -- behind the checkpoint the step has the selection that it had, or the given one
  have selected : (step.selection ≠ none → checkpoint.step.selection = step.selection) ∧
      checkpoint.step.selection ≠ none ∧
        (∀ selection ∈ checkpoint.step.selection,
          parseProjectTextPlanSelectionReference selection = .ok () ∧
            ∃ result ∈ step.result, result.kind ≠ .brief ∧ selects selection result) := by
    rcases kept with ⟨present, unchanged⟩ | ⟨absent, stepped⟩
    · rw [unchanged]
      exact ⟨fun _ => rfl, present, fun selection held =>
        ⟨parts.selection selection held, shaped.selection selection held⟩⟩
    · obtain ⟨body, _, _⟩ := updateStep_eq_ok stepped
      have made : checkpoint.step.selection = some selection := by
        rw [body]
        rfl
      rw [made]
      refine ⟨fun some => absurd absent some, by simp, ?_⟩
      intro other held
      obtain rfl := Option.mem_some.mp held
      exact ⟨parsed, chosen⟩
  obtain ⟨same, some, each⟩ := selected
  obtain ⟨result, produced, _, _⟩ := chosen
  have present : step.result ≠ none := by
    rw [Option.mem_def.mp produced]
    exact Option.some_ne_none result
  have succeeding := wellShaped_succeeded sound.valid completed present checkpoint.step.selection
    (fun selection held => (each selection held).2) (fun _ => some)
  obtain ⟨changed, stepped⟩ := @updateStep_accepted sha256 plan.toProjectTextPlanBody step
    (fun body => { body with selection := checkpoint.step.selection, state := .succeeded }) time
    hash sound stepTime ⟨rfl, rfl, rfl, rfl, rfl, rfl, rfl, rfl⟩
    ⟨fun _ => rfl, fun _ => rfl, fun _ => rfl, fun _ => rfl, fun _ => rfl, same, fun _ => rfl⟩
    ⟨parts.sources, parts.baseline, parts.input, parts.run, parts.result,
      fun selection held => (each selection held).1, parts.terminal⟩ succeeding
  obtain ⟨before, after, rfl, standing⟩ := coherent.active member named
  have behind := nextReadyOf_standing coherent standing
  have reasonless := (planShaped_iff.mpr coherent.valid.shape).reasonless (by simp [waiting])
  obtain ⟨next, updated⟩ := @advance_accepted sha256 plan past before after step
    (advanceBody (nextReadyOf (before ++ step :: after) step)) time hash coherent alive below
    planTime ⟨plan.toProjectTextPlanBody, reasonless, by rw [behind], rfl⟩
    (keepsPlan_advanceBody _ _)
  refine ⟨⟨next, changed⟩, ?_⟩
  rw [revision, coherent.stepsOf found split, advanceProjectTextPlanSelection, guarded, ok_bind,
    recorded, ok_bind]
  show (updateStep sha256 step _ time >>= fun _ => _) = _
  rw [stepped, ok_bind, updated]
  rfl

/-- A pause by the system is accepted. -/
theorem systemPause_accepted {reason : ProjectTextPlanPauseReason}
    (hash : ∀ text, isDigest (sha256 text) = true)
    (coherent : Coherent plan.toProjectTextPlanBody past current)
    (planTime : Timely time plan.updatedAt)
    (below : ¬ (plan.state = .paused ∧ plan.pauseReason = some reason) →
      plan.revision < maxSafeInteger)
    (guarded : systemPauseGuard plan step = .ok ()) :
    ∃ checkpoint, checkpointProjectTextPlanSystemPause sha256 plan step reason time =
      .ok checkpoint := by
  obtain ⟨alive, _, _, _, _⟩ := systemPauseGuard_eq_ok.mp guarded
  rw [checkpointProjectTextPlanSystemPause, guarded, ok_bind]
  by_cases repeated : plan.state = .paused ∧ plan.pauseReason = some reason
  · rw [if_pos repeated]
    exact ⟨_, rfl⟩
  · rw [if_neg repeated]
    have paused : PlanShaped { plan.toProjectTextPlanBody with
        state := .paused, pauseReason := some reason } := ⟨by simp, by simp, by simp⟩
    obtain ⟨next, updated⟩ := @updatePlan_accepted sha256 plan
      (fun body => { body with state := .paused, pauseReason := some reason }) time hash
      coherent.valid coherent.wake alive (below repeated) planTime
      ⟨⟨rfl, rfl, rfl, rfl, rfl, rfl, rfl⟩, rfl, by simp⟩ (by simp)
      coherent.valid.currentPlanRevision coherent.valid.active (planShaped_iff.mp paused)
    exact ⟨⟨next, step⟩, by rw [updated]; rfl⟩

end Accepted

end Crewon.Verif.ProjectTextPlan
