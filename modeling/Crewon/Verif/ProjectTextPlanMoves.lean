import Crewon.Store.ProjectTextPlan
import Crewon.Verif.ProjectTextPlanRecords
import Mathlib.Data.List.Nodup

/-!
# What operations make of the rows of a text plan

The rows are the steps of earlier revisions, which are over, and the steps of the current revision:
those before the active one succeeded, and those behind it are untouched. Every operation that is
accepted moves one step, moves the plan, or makes new steps of what remains.
-/

namespace Crewon.Verif.ProjectTextPlan

open Crewon.Js Crewon.Checked Crewon.Lib Crewon.Domain Crewon.Store

/-- A step whose run has not ended. -/
def OpenStep (step : ProjectTextPlanStepBody) : Prop := step.run ≠ none ∧ step.terminal = none

/-- How much has happened to a step. -/
def progressOf (step : ProjectTextPlanStepBody) : Nat :=
  (if step.run = none then 0 else 1) + (if step.result = none then 0 else 1) +
    (if step.selection = none then 0 else 1) + (if step.terminal = none then 0 else 1) +
      if step.state = .succeeded then 1 else 0

/-- Not much happens to a step. -/
theorem progressOf_le (step : ProjectTextPlanStepBody) : progressOf step ≤ 5 := by
  unfold progressOf
  split_ifs <;> omega

/-- What holds of every step of a plan. -/
structure SoundStep (plan : ProjectTextPlanBody) (step : ProjectTextPlanStepBody) : Prop where
  valid : ValidStep step
  owned : step.planId = plan.planId
  unrun : step.run = none → step.sources = none ∧ step.baseline = none
  revision : step.revision ≤ 1 + progressOf step
  attempt : step.attempt ≤ step.planRevision

/-- What a checkpoint makes of a step. -/
structure Moved (step next : ProjectTextPlanStepBody) : Prop where
  valid : ValidStep next
  change : StepChange step next
  kept : EvidenceKept step next
  further : progressOf step < progressOf next
  unrun : next.run = none → next.sources = step.sources ∧ next.baseline = step.baseline

/-- The slot of a step stays. -/
theorem StepChange.slot {step next : ProjectTextPlanStepBody} (change : StepChange step next) :
    next.slot = step.slot := by
  obtain ⟨_, _, _, _, kind, episodeId, _⟩ := change.identity
  rw [ProjectTextPlanStepBody.slot, ProjectTextPlanStepBody.slot, kind, episodeId]

/-- The run of a step stays absent or stays. -/
theorem EvidenceKept.unrun {step next : ProjectTextPlanStepBody} (kept : EvidenceKept step next)
    (absent : next.run = none) : step.run = none := by
  by_contra present
  have same := kept.run present
  exact present (same.symm.trans absent)

/-- A moved step is as sound as before. -/
theorem Moved.sound {plan : ProjectTextPlanBody} {step next : ProjectTextPlanStepBody}
    (moved : Moved step next) (sound : SoundStep plan step) : SoundStep plan next := by
  obtain ⟨planId, planRevision, _⟩ := moved.change.identity
  have revision := moved.change.revision
  have attempt := moved.change.attempt
  have further := moved.further
  have low := sound.revision
  refine ⟨moved.valid, planId.trans sound.owned, ?_, by omega, ?_⟩
  · intro absent
    obtain ⟨sources, baseline⟩ := moved.unrun absent
    obtain ⟨noSources, noBaseline⟩ := sound.unrun (moved.kept.unrun absent)
    exact ⟨sources.trans noSources, baseline.trans noBaseline⟩
  · rw [attempt, planRevision]
    exact sound.attempt

variable {sha256 : JsString → JsString}

/-- An update of a step that keeps its evidence and adds to it is a move. -/
theorem moved_of_updateStep {step next : ProjectTextPlanStep}
    {patch : ProjectTextPlanStepBody → ProjectTextPlanStepBody} {time : JsString}
    (updated : updateStep sha256 step patch time = .ok next)
    (kept : EvidenceKept step.toProjectTextPlanStepBody (patch step.toProjectTextPlanStepBody))
    (further : progressOf step.toProjectTextPlanStepBody <
      progressOf (patch step.toProjectTextPlanStepBody))
    (unrun : (patch step.toProjectTextPlanStepBody).run = none →
      (patch step.toProjectTextPlanStepBody).sources = step.sources ∧
        (patch step.toProjectTextPlanStepBody).baseline = step.baseline) :
    Moved step.toProjectTextPlanStepBody next.toProjectTextPlanStepBody := by
  obtain ⟨body, valid, change⟩ := updateStep_eq_ok updated
  have same : EvidenceKept step.toProjectTextPlanStepBody (updatedStep step patch time) :=
    ⟨kept.input, kept.sources, kept.baseline, kept.run, kept.result, kept.selection,
      kept.terminal⟩
  refine ⟨valid, change, ?_, ?_, ?_⟩
  · rw [body]
    exact same
  · rw [body]
    exact further
  · rw [body]
    exact unrun

/-- The names of steps. -/
def stepNames (steps : List ProjectTextPlanStep) : List JsString :=
  steps.map fun step => step.stepId

@[simp] theorem stepNames_nil : stepNames [] = [] := rfl

@[simp] theorem stepNames_cons (step : ProjectTextPlanStep) (steps : List ProjectTextPlanStep) :
    stepNames (step :: steps) = step.stepId :: stepNames steps := rfl

@[simp] theorem stepNames_append (front back : List ProjectTextPlanStep) :
    stepNames (front ++ back) = stepNames front ++ stepNames back := List.map_append

/-- A step is named among its steps. -/
theorem mem_stepNames {steps : List ProjectTextPlanStep} {step : ProjectTextPlanStep}
    (member : step ∈ steps) : step.stepId ∈ stepNames steps :=
  List.mem_map_of_mem member

/-- Replacing a step keeps the names. -/
@[simp] theorem stepNames_replaceStep (steps : List ProjectTextPlanStep)
    (changed : ProjectTextPlanStep) : stepNames (replaceStep steps changed) = stepNames steps := by
  rw [stepNames, replaceStep, List.map_map]
  refine List.map_congr_left ?_
  intro step _
  by_cases same : step.stepId = changed.stepId
  · simp [same]
  · simp [same]

/-- Replacing a step replaces it in both parts. -/
theorem replaceStep_append (front back : List ProjectTextPlanStep) (changed : ProjectTextPlanStep) :
    replaceStep (front ++ back) changed = replaceStep front changed ++ replaceStep back changed :=
  List.map_append

/-- A step that is not there replaces none. -/
theorem replaceStep_of_notMem {steps : List ProjectTextPlanStep} {changed : ProjectTextPlanStep}
    (absent : changed.stepId ∉ stepNames steps) : replaceStep steps changed = steps := by
  have same : ∀ step ∈ steps,
      (if step.stepId = changed.stepId then changed else step) = step := by
    intro step member
    have other : step.stepId ≠ changed.stepId := by
      intro equal
      exact absent (equal ▸ mem_stepNames member)
    exact if_neg other
  rw [replaceStep, List.map_congr_left same, List.map_id']

/-- A step is replaced where it stands. -/
theorem replaceStep_at {before after : List ProjectTextPlanStep}
    {step changed : ProjectTextPlanStep}
    (names : (stepNames (before ++ step :: after)).Nodup) (same : changed.stepId = step.stepId) :
    replaceStep (before ++ step :: after) changed = before ++ changed :: after := by
  rw [stepNames_append, stepNames_cons, List.nodup_middle, List.nodup_cons, List.mem_append,
    not_or] at names
  obtain ⟨⟨front, back⟩, _⟩ := names
  have head : replaceStep (step :: after) changed = changed :: replaceStep after changed := by
    rw [replaceStep, List.map_cons, if_pos same.symm]
    rfl
  rw [replaceStep_append, head, replaceStep_of_notMem (same ▸ front),
    replaceStep_of_notMem (same ▸ back)]

/-- A step that stands where it is put replaces nothing. -/
theorem replaceStep_self {steps : List ProjectTextPlanStep} {step : ProjectTextPlanStep}
    (names : (stepNames steps).Nodup) (member : step ∈ steps) : replaceStep steps step = steps := by
  obtain ⟨before, after, rfl⟩ := List.append_of_mem member
  exact replaceStep_at names rfl

/-- A step behind a replacement is the new one or an old one. -/
theorem mem_replaceStep {steps : List ProjectTextPlanStep} {changed step : ProjectTextPlanStep}
    (member : step ∈ replaceStep steps changed) :
    step = changed ∧ changed.stepId ∈ stepNames steps ∨
      step ∈ steps ∧ step.stepId ≠ changed.stepId := by
  obtain ⟨old, found, made⟩ := List.mem_map.mp member
  by_cases same : old.stepId = changed.stepId
  · rw [if_pos same] at made
    exact Or.inl ⟨made.symm, same ▸ mem_stepNames found⟩
  · rw [if_neg same] at made
    rw [← made]
    exact Or.inr ⟨found, same⟩

/-- Two steps of one name are one step. -/
theorem eq_of_stepId {steps : List ProjectTextPlanStep} {first second : ProjectTextPlanStep}
    (names : (stepNames steps).Nodup) (left : first ∈ steps) (right : second ∈ steps)
    (same : first.stepId = second.stepId) : first = second :=
  List.inj_on_of_nodup_map names left right same

/-- The state of a plan fits its active step. -/
def FitsActive (active : ProjectTextPlanStepBody) : ProjectTextPlanState → Prop
  | .ready => active.state = .ready ∧ active.run = none
  | .running => OpenStep active
  | .waitingSelection => active.state = .waitingSelection
  | .paused | .revoked => True
  | .completed => False

/-- The steps around the active one: those before it succeeded, those behind it are untouched. -/
structure Standing (state : ProjectTextPlanState) (activeStepId : Option JsString)
    (before : List ProjectTextPlanStep) (active : ProjectTextPlanStep)
    (after : List ProjectTextPlanStep) : Prop where
  named : activeStepId = some active.stepId
  finished : ∀ step ∈ before, step.state = .succeeded
  untouched : ∀ step ∈ after, step.state = .ready ∧ step.run = none
  brief : active.state = .succeeded → active.kind = .brief
  fits : FitsActive active.toProjectTextPlanStepBody state

/-- How far the steps of the current revision are. -/
inductive Stands (state : ProjectTextPlanState) (activeStepId : Option JsString) :
    List ProjectTextPlanStep → Prop
  | active {before active after} (standing : Standing state activeStepId before active after) :
      Stands state activeStepId (before ++ active :: after)
  | completed {steps} (done : state = .completed)
      (finished : ∀ step ∈ steps, step.state = .succeeded) : Stands state activeStepId steps

/-- What holds of a plan, the steps of its earlier revisions and those of its current one. -/
structure Coherent (plan : ProjectTextPlanBody) (past current : List ProjectTextPlanStep) :
    Prop where
  valid : ValidPlan plan
  sound : ∀ step ∈ past ++ current, SoundStep plan step.toProjectTextPlanStepBody
  earlier : ∀ step ∈ past, step.planRevision < plan.currentPlanRevision
  recent : ∀ step ∈ current, step.planRevision = plan.currentPlanRevision
  names : (stepNames (past ++ current)).Nodup
  ended : ∀ step ∈ past, ¬ OpenStep step.toProjectTextPlanStepBody
  ordered : current.Pairwise fun first second => first.ordinal < second.ordinal
  wake : plan.wakeRevision ≤ plan.revision
  stands : Stands plan.state plan.activeStepId current

/-- Whether a plan is there and what holds of its steps. -/
def Consistent (rows : ProjectTextPlanRows) : Prop :=
  match rows.plan with
  | none => rows.steps = []
  | some plan => ∃ past current, rows.steps = past ++ current ∧
      Coherent plan.toProjectTextPlanBody past current

/-- The steps that a control is given are those of the current revision. -/
theorem Coherent.currentSteps {rows : ProjectTextPlanRows} {plan : ProjectTextPlan}
    {past current : List ProjectTextPlanStep} (found : rows.plan = some plan)
    (split : rows.steps = past ++ current)
    (coherent : Coherent plan.toProjectTextPlanBody past current) :
    rows.currentSteps = current := by
  have none : past.filter (fun step => step.planRevision = plan.currentPlanRevision) = [] := by
    refine List.filter_eq_nil_iff.mpr ?_
    intro step member
    have low := coherent.earlier step member
    simp only [decide_eq_true_eq]
    omega
  have all : current.filter (fun step => step.planRevision = plan.currentPlanRevision) =
      current := by
    refine List.filter_eq_self.mpr ?_
    intro step member
    simpa using coherent.recent step member
  rw [ProjectTextPlanRows.currentSteps, found]
  simp only [ProjectTextPlanRows.stepsOf, split, List.filter_append, none, all, List.nil_append]

/-- What an update makes of a plan that stays with its steps. -/
structure PlanMoved (plan next : ProjectTextPlanBody) : Prop where
  valid : ValidPlan next
  change : PlanChange plan next
  current : next.currentPlanRevision = plan.currentPlanRevision
  wake : next.wakeRevision ≤ plan.wakeRevision + 1
  live : plan.state ≠ .completed

/-- Steps as they are made for slots. -/
structure Fresh (definition : ProjectTextPlanRevision) (attempt : ProjectTextPlanSlot → Int)
    (slots : List ProjectTextPlanSlot) (steps : List ProjectTextPlanStep) : Prop where
  slots : steps.map (fun step => step.slot) = slots
  made : ∀ step ∈ steps, step.toProjectTextPlanStepBody =
    newStep definition step.slot step.stepId step.ordinal (attempt step.slot) step.createdAt
  valid : ∀ step ∈ steps, ValidStep step.toProjectTextPlanStepBody
  ordered : steps.Pairwise fun first second => first.ordinal < second.ordinal

/-- What an operation makes of a plan and its steps. -/
inductive Moves (operation : ProjectTextPlanOperation) (plan : ProjectTextPlan)
    (past current : List ProjectTextPlanStep) :
    ProjectTextPlan → List ProjectTextPlanStep → List ProjectTextPlanStep → Prop
  /-- Nothing changes. -/
  | same : Moves operation plan past current plan past current
  /-- The plan moves. -/
  | stopped {next : ProjectTextPlan}
      (moved : PlanMoved plan.toProjectTextPlanBody next.toProjectTextPlanBody)
      (stands : Stands next.state next.activeStepId current) :
      Moves operation plan past current next past current
  /-- A step gets evidence of its run. -/
  | noted {step next : ProjectTextPlanStep} (member : step ∈ past ++ current)
      (moved : Moved step.toProjectTextPlanStepBody next.toProjectTextPlanStepBody)
      (live : plan.state ≠ .revoked) (state : next.state = step.state) (run : next.run = step.run)
      (terminal : next.terminal = step.terminal) :
      Moves operation plan past current plan (replaceStep past next) (replaceStep current next)
  /-- The active step moves, and the plan with it. -/
  | advanced {before after : List ProjectTextPlanStep} {active changed next}
      (split : current = before ++ active :: after)
      (step : Moved active.toProjectTextPlanStepBody changed.toProjectTextPlanStepBody)
      (moved : PlanMoved plan.toProjectTextPlanBody next.toProjectTextPlanBody)
      (stands : Stands next.state next.activeStepId (before ++ changed :: after)) :
      Moves operation plan past current next past (before ++ changed :: after)
  /-- New steps are made of what remains. -/
  | remade {kind request next} {fresh : List ProjectTextPlanStep}
      (asked : operation = .control kind request)
      (remakes : kind = .resume ∨ kind = .reviseRemaining)
      (valid : ValidPlan next.toProjectTextPlanBody)
      (change : PlanChange plan.toProjectTextPlanBody next.toProjectTextPlanBody)
      (wake : next.wakeRevision ≤ plan.wakeRevision + 1) (live : plan.state ≠ .completed)
      (owned : plan.planId = request.definition.planId)
      (revision : request.definition.planRevision = plan.currentPlanRevision + 1)
      (turned : next.currentPlanRevision = request.definition.planRevision)
      (ended : ∀ step ∈ current, ¬ OpenStep step.toProjectTextPlanStepBody)
      (made : Fresh request.definition (nextAttempt current)
        (unfinishedSlots (revisionSlots request.definition) current) fresh)
      (names : (stepNames (past ++ current ++ fresh)).Nodup)
      (stands : Stands next.state next.activeStepId fresh) :
      Moves operation plan past current next (past ++ current) fresh

/-- A moved plan has the identity and the revisions that its steps refer to. -/
theorem SoundStep.of_plan {plan next : ProjectTextPlanBody} {step : ProjectTextPlanStepBody}
    (sound : SoundStep plan step) (same : next.planId = plan.planId) : SoundStep next step :=
  ⟨sound.valid, sound.owned.trans same.symm, sound.unrun, sound.revision, sound.attempt⟩

/-- A step in the place of another one is as sound. -/
theorem sound_replaceStep {plan : ProjectTextPlanBody} {steps : List ProjectTextPlanStep}
    {step next : ProjectTextPlanStep} (sound : ∀ step ∈ steps,
      SoundStep plan step.toProjectTextPlanStepBody) (member : step ∈ steps)
    (moved : Moved step.toProjectTextPlanStepBody next.toProjectTextPlanStepBody) :
    ∀ step ∈ replaceStep steps next, SoundStep plan step.toProjectTextPlanStepBody := by
  intro other behind
  rcases mem_replaceStep behind with ⟨rfl, _⟩ | ⟨old, _⟩
  · exact moved.sound (sound step member)
  · exact sound other old

/-- Two steps that differ in evidence other than their runs only. -/
structure Alike (step next : ProjectTextPlanStepBody) : Prop where
  stepId : next.stepId = step.stepId
  planRevision : next.planRevision = step.planRevision
  ordinal : next.ordinal = step.ordinal
  slot : next.slot = step.slot
  attempt : next.attempt = step.attempt
  state : next.state = step.state
  run : next.run = step.run
  terminal : next.terminal = step.terminal

/-- A step is like itself. -/
theorem Alike.refl (step : ProjectTextPlanStepBody) : Alike step step :=
  ⟨rfl, rfl, rfl, rfl, rfl, rfl, rfl, rfl⟩

/-- A step that got evidence is like the one that it was. -/
theorem Moved.alike {step next : ProjectTextPlanStepBody} (moved : Moved step next)
    (state : next.state = step.state) (run : next.run = step.run)
    (terminal : next.terminal = step.terminal) : Alike step next := by
  obtain ⟨_, planRevision, stepId, ordinal, _⟩ := moved.change.identity
  exact ⟨stepId, planRevision, ordinal, moved.change.slot, moved.change.attempt, state, run,
    terminal⟩

section Noted

variable {all : List ProjectTextPlanStep} {step next : ProjectTextPlanStep}

/-- Every step is like the one that stands in its place behind a replacement. -/
theorem alike_placed (names : (stepNames all).Nodup) (member : step ∈ all)
    (alike : Alike step.toProjectTextPlanStepBody next.toProjectTextPlanStepBody)
    {other : ProjectTextPlanStep} (found : other ∈ all) :
    Alike other.toProjectTextPlanStepBody
      (if other.stepId = next.stepId then next else other).toProjectTextPlanStepBody := by
  by_cases same : other.stepId = next.stepId
  · have equal : other = step := eq_of_stepId names found member (same.trans alike.stepId)
    rw [if_pos same, equal]
    exact alike
  · rw [if_neg same]
    exact Alike.refl _

/-- Every step behind a replacement is like one in front of it. -/
theorem alike_replaceStep (names : (stepNames all).Nodup) (member : step ∈ all)
    (alike : Alike step.toProjectTextPlanStepBody next.toProjectTextPlanStepBody)
    {part : List ProjectTextPlanStep} (within : part ⊆ all) :
    ∀ behind ∈ replaceStep part next, ∃ other ∈ part,
      Alike other.toProjectTextPlanStepBody behind.toProjectTextPlanStepBody := by
  intro behind held
  obtain ⟨other, found, rfl⟩ := List.mem_map.mp held
  exact ⟨other, found, alike_placed names member alike (within found)⟩

/-- Steps behind a replacement have the ordinals of those in front of it. -/
theorem ordinals_replaceStep (names : (stepNames all).Nodup) (member : step ∈ all)
    (alike : Alike step.toProjectTextPlanStepBody next.toProjectTextPlanStepBody)
    {part : List ProjectTextPlanStep} (within : part ⊆ all) :
    (replaceStep part next).map (fun step => step.ordinal) = part.map fun step => step.ordinal := by
  rw [replaceStep, List.map_map]
  refine List.map_congr_left ?_
  intro other found
  exact (alike_placed names member alike (within found)).ordinal

/-- The order of steps is that of their ordinals. -/
theorem ordered_iff {steps : List ProjectTextPlanStep} :
    (steps.Pairwise fun first second => first.ordinal < second.ordinal) ↔
      (steps.map fun step => step.ordinal).Pairwise (· < ·) :=
  List.pairwise_map.symm

/-- A state that fits a step fits one like it. -/
theorem FitsActive.alike {step next : ProjectTextPlanStepBody} {state : ProjectTextPlanState}
    (fits : FitsActive step state) (alike : Alike step next) : FitsActive next state := by
  cases state with
  | ready => exact ⟨alike.state.trans fits.1, alike.run.trans fits.2⟩
  | running =>
    obtain ⟨admitted, unended⟩ := fits
    exact ⟨by rw [alike.run]; exact admitted, alike.terminal.trans unended⟩
  | waitingSelection => exact alike.state.trans fits
  | paused => trivial
  | revoked => trivial
  | completed => exact fits

/-- Evidence leaves a plan where it stands. -/
theorem stands_replaceStep {state : ProjectTextPlanState} {activeStepId : Option JsString}
    {current : List ProjectTextPlanStep} (names : (stepNames all).Nodup) (member : step ∈ all)
    (alike : Alike step.toProjectTextPlanStepBody next.toProjectTextPlanStepBody)
    (within : current ⊆ all) (stands : Stands state activeStepId current) :
    Stands state activeStepId (replaceStep current next) := by
  cases stands with
  | completed done finished =>
    refine .completed done ?_
    intro behind held
    obtain ⟨other, found, same⟩ := alike_replaceStep names member alike within behind held
    exact same.state.trans (finished other found)
  | @active before active after standing =>
    have front : before ⊆ all := fun other found => within (List.mem_append_left _ found)
    have back : after ⊆ all := fun other found =>
      within (List.mem_append_right _ (List.mem_cons_of_mem _ found))
    have here : active ∈ all := within (List.mem_append_right _ List.mem_cons_self)
    have placed := alike_placed names member alike here
    rw [replaceStep_append]
    refine .active ⟨?_, ?_, ?_, ?_, standing.fits.alike placed⟩
    · exact standing.named.trans (congrArg some placed.stepId.symm)
    · intro behind held
      obtain ⟨other, found, same⟩ := alike_replaceStep names member alike front behind held
      exact same.state.trans (standing.finished other found)
    · intro behind held
      obtain ⟨other, found, same⟩ := alike_replaceStep names member alike back behind held
      obtain ⟨ready, unrun⟩ := standing.untouched other found
      exact ⟨same.state.trans ready, same.run.trans unrun⟩
    · intro succeeded
      have kind : _ = active.kind := congrArg ProjectTextPlanSlot.kind placed.slot
      exact kind.trans (standing.brief (placed.state.symm.trans succeeded))

end Noted

section Coherence

variable {plan next : ProjectTextPlanBody} {past current : List ProjectTextPlanStep}

/-- A moved plan keeps its wakes below its revisions. -/
theorem wake_of_change (change : PlanChange plan next) (low : plan.wakeRevision ≤ plan.revision)
    (wake : next.wakeRevision ≤ plan.wakeRevision + 1) : next.wakeRevision ≤ next.revision := by
  have revision := change.revision
  omega

/-- Evidence of a step keeps the rows coherent. -/
theorem Coherent.noted (coherent : Coherent plan past current) {step changed : ProjectTextPlanStep}
    (member : step ∈ past ++ current)
    (moved : Moved step.toProjectTextPlanStepBody changed.toProjectTextPlanStepBody)
    (alike : Alike step.toProjectTextPlanStepBody changed.toProjectTextPlanStepBody) :
    Coherent plan (replaceStep past changed) (replaceStep current changed) := by
  have front : past ⊆ past ++ current := List.subset_append_left past current
  have back : current ⊆ past ++ current := List.subset_append_right past current
  refine ⟨coherent.valid, ?_, ?_, ?_, ?_, ?_, ?_, coherent.wake, ?_⟩
  · rw [← replaceStep_append]
    exact sound_replaceStep coherent.sound member moved
  · intro behind held
    obtain ⟨other, found, same⟩ := alike_replaceStep coherent.names member alike front behind held
    rw [same.planRevision]
    exact coherent.earlier other found
  · intro behind held
    obtain ⟨other, found, same⟩ := alike_replaceStep coherent.names member alike back behind held
    exact same.planRevision.trans (coherent.recent other found)
  · rw [← replaceStep_append, stepNames_replaceStep]
    exact coherent.names
  · intro behind held
    obtain ⟨other, found, same⟩ := alike_replaceStep coherent.names member alike front behind held
    rw [OpenStep, same.run, same.terminal]
    exact coherent.ended other found
  · rw [ordered_iff, ordinals_replaceStep coherent.names member alike back, ← ordered_iff]
    exact coherent.ordered
  · exact stands_replaceStep coherent.names member alike back coherent.stands

/-- A moved plan with a moved active step is coherent. -/
theorem Coherent.advanced {before after : List ProjectTextPlanStep}
    {active changed : ProjectTextPlanStep}
    (coherent : Coherent plan past (before ++ active :: after))
    (step : Moved active.toProjectTextPlanStepBody changed.toProjectTextPlanStepBody)
    (moved : PlanMoved plan next)
    (stands : Stands next.state next.activeStepId (before ++ changed :: after)) :
    Coherent next past (before ++ changed :: after) := by
  obtain ⟨_, planRevision, stepId, ordinal, _⟩ := step.change.identity
  have names : stepNames (past ++ (before ++ changed :: after)) =
      stepNames (past ++ (before ++ active :: after)) := by
    simp only [stepNames_append, stepNames_cons, stepId]
  have here : active ∈ past ++ (before ++ active :: after) := by simp
  refine ⟨moved.valid, ?_, ?_, ?_, ?_, coherent.ended, ?_,
    wake_of_change moved.change coherent.wake moved.wake, stands⟩
  · intro other held
    refine SoundStep.of_plan ?_ moved.change.identity.1
    by_cases same : other = changed
    · rw [same]
      exact step.sound (coherent.sound active here)
    · refine coherent.sound other ?_
      simp only [List.mem_append, List.mem_cons, same, false_or] at held ⊢
      tauto
  · rw [moved.current]
    exact coherent.earlier
  · intro other held
    rw [moved.current]
    by_cases same : other = changed
    · rw [same, planRevision]
      exact coherent.recent active (by simp)
    · refine coherent.recent other ?_
      simp only [List.mem_append, List.mem_cons, same, false_or] at held ⊢
      tauto
  · rw [names]
    exact coherent.names
  · have ordered := coherent.ordered
    rw [ordered_iff] at ordered ⊢
    simp only [List.map_append, List.map_cons, ordinal] at ordered ⊢
    exact ordered

/-- The next attempt at a slot is at most one behind those of the previous steps. -/
theorem nextAttempt_le {slot : ProjectTextPlanSlot} {bound : Int} (positive : 0 ≤ bound)
    (attempts : ∀ step ∈ current, step.attempt ≤ bound) :
    nextAttempt current slot ≤ bound + 1 := by
  unfold nextAttempt
  split
  · omega
  · next prior found =>
    have low := attempts prior (List.mem_of_find?_eq_some found)
    split_ifs <;> omega

/-- A new step is sound. -/
theorem Fresh.sound {definition : ProjectTextPlanRevision} {attempt : ProjectTextPlanSlot → Int}
    {slots : List ProjectTextPlanSlot} {fresh : List ProjectTextPlanStep}
    (made : Fresh definition attempt slots fresh) (owned : definition.planId = plan.planId)
    (attempts : ∀ slot, attempt slot ≤ definition.planRevision) :
    ∀ step ∈ fresh, SoundStep plan step.toProjectTextPlanStepBody := by
  intro step member
  have body := made.made step member
  refine ⟨made.valid step member, ?_, ?_, ?_, ?_⟩
  · rw [body]
    exact owned
  · intro _
    rw [body]
    exact ⟨rfl, rfl⟩
  · rw [body]
    simp [newStep, progressOf]
  · rw [body]
    exact attempts _

/-- New steps of what remains are coherent with what was there. -/
theorem Coherent.remade {definition : ProjectTextPlanRevision} {fresh : List ProjectTextPlanStep}
    {slots : List ProjectTextPlanSlot} (coherent : Coherent plan past current)
    (valid : ValidPlan next) (change : PlanChange plan next)
    (wake : next.wakeRevision ≤ plan.wakeRevision + 1) (owned : plan.planId = definition.planId)
    (revision : definition.planRevision = plan.currentPlanRevision + 1)
    (turned : next.currentPlanRevision = definition.planRevision)
    (ended : ∀ step ∈ current, ¬ OpenStep step.toProjectTextPlanStepBody)
    (made : Fresh definition (nextAttempt current) slots fresh)
    (names : (stepNames (past ++ current ++ fresh)).Nodup)
    (stands : Stands next.state next.activeStepId fresh) :
    Coherent next (past ++ current) fresh := by
  have same : next.planId = plan.planId := change.identity.1
  have positive : 0 ≤ plan.currentPlanRevision := by
    have checked := (creativeProjectRevision_eq_ok.mp coherent.valid.currentPlanRevision).2
    omega
  have attempts : ∀ step ∈ current, step.attempt ≤ plan.currentPlanRevision := by
    intro step member
    have sound := coherent.sound step (List.mem_append_right past member)
    have recent := coherent.recent step member
    have low := sound.attempt
    omega
  have bound : ∀ slot, nextAttempt current slot ≤ definition.planRevision := by
    intro slot
    rw [revision]
    exact nextAttempt_le positive attempts
  refine ⟨valid, ?_, ?_, ?_, names, ?_, made.ordered,
    wake_of_change change coherent.wake wake, stands⟩
  · intro step member
    rcases List.mem_append.mp member with old | new
    · exact (coherent.sound step old).of_plan same
    · exact made.sound (owned.symm.trans same.symm) bound step new
  · intro step member
    rcases List.mem_append.mp member with old | recent
    · have earlier := coherent.earlier step old
      omega
    · have latest := coherent.recent step recent
      omega
  · intro step member
    rw [made.made step member, turned]
    rfl
  · intro step member
    rcases List.mem_append.mp member with old | recent
    · exact coherent.ended step old
    · exact ended step recent

end Coherence

/-- What an operation makes of coherent rows is coherent. -/
theorem Moves.coherent {operation : ProjectTextPlanOperation} {plan next : ProjectTextPlan}
    {past current earlier recent : List ProjectTextPlanStep}
    (moves : Moves operation plan past current next earlier recent)
    (coherent : Coherent plan.toProjectTextPlanBody past current) :
    Coherent next.toProjectTextPlanBody earlier recent := by
  cases moves with
  | same => exact coherent
  | stopped moved stands =>
    refine ⟨moved.valid, ?_, ?_, ?_, coherent.names, coherent.ended, coherent.ordered,
      wake_of_change moved.change coherent.wake moved.wake, stands⟩
    · intro step member
      exact (coherent.sound step member).of_plan moved.change.identity.1
    · rw [moved.current]
      exact coherent.earlier
    · rw [moved.current]
      exact coherent.recent
  | noted member moved live state run terminal =>
    exact coherent.noted member moved (moved.alike state run terminal)
  | advanced split step moved stands =>
    subst split
    exact coherent.advanced step moved stands
  | remade asked remakes valid change wake live owned revision turned ended made names stands =>
    exact coherent.remade valid change wake owned revision turned ended made names stands

end Crewon.Verif.ProjectTextPlan
