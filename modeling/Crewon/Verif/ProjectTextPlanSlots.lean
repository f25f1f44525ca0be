import Crewon.Verif.ProjectTextPlan

/-!
# Finished work of a text plan

What remains of a plan is computed from the steps of its current revision alone. So a slot that was
run is neither finished nor counted twice as long as every revision that names it follows one that
names it as well.
-/

namespace Crewon.Verif.ProjectTextPlan

open Crewon.Js Crewon.Checked Crewon.Lib Crewon.Domain Crewon.Store Crewon.Verif.ExtensionJson

/-- A later step for a slot comes behind one that was not finished, and at a later attempt if that
one was run. -/
structure FinishedOnce (steps : List ProjectTextPlanStep) : Prop where
  unfinished : ∀ first ∈ steps, ∀ later ∈ steps, later.slot = first.slot →
    first.planRevision < later.planRevision → first.state ≠ .succeeded
  attempts : ∀ first ∈ steps, ∀ later ∈ steps, later.slot = first.slot →
    first.planRevision < later.planRevision → first.run ≠ none → first.attempt < later.attempt

/-- Every slot of a new revision that was run has a step in the revision before it. -/
def KeepsSlots (rows : ProjectTextPlanRows) (operation : ProjectTextPlanOperation) : Prop :=
  ∀ kind request, operation = .control kind request → kind = .resume ∨ kind = .reviseRemaining →
    ∀ slot ∈ revisionSlots request.definition,
      (∃ step ∈ rows.steps, step.slot = slot ∧ step.run ≠ none) →
        ∃ step ∈ rows.currentSteps, step.slot = slot

/-- The revision of a control names every episode once. -/
def NamesEpisodesOnce (operation : ProjectTextPlanOperation) : Prop :=
  ∀ kind request, operation = .control kind request → request.definition.episodeIds.Nodup

/-- The slots of a revision are distinct if its episodes are. -/
theorem revisionSlots_nodup {definition : ProjectTextPlanRevision}
    (distinct : definition.episodeIds.Nodup) : (revisionSlots definition).Nodup := by
  have scripts : (definition.episodeIds.map fun episodeId =>
      (⟨.script, some episodeId⟩ : ProjectTextPlanSlot)).Nodup := by
    refine distinct.map fun first second same => ?_
    simpa using same
  have single (asked : Prop) [Decidable asked] (slot : ProjectTextPlanSlot) :
      (if asked then [slot] else []).Nodup := by
    split_ifs <;> simp
  refine ((single _ _).append (single _ _) ?_).append ?_ ?_
  · intro slot first second
    split_ifs at first second <;> simp_all
  · split_ifs
    · exact scripts
    · exact List.nodup_nil
  · intro slot front script
    have written : slot.kind = .script := by
      split_ifs at script
      · obtain ⟨episodeId, _, rfl⟩ := List.mem_map.mp script
        rfl
      · cases script
    have unwritten : slot.kind ≠ .script := by
      rcases List.mem_append.mp front with brief | outline
      · split_ifs at brief <;> simp_all
      · split_ifs at outline <;> simp_all
    exact unwritten written

/-- A step that is not run has not succeeded. -/
theorem ValidStep.run_of_succeeded {step : ProjectTextPlanStepBody} (valid : ValidStep step)
    (succeeded : step.state = .succeeded) : step.run ≠ none := by
  intro unrun
  have completed := valid.ended_of_succeeded succeeded
  rw [ProjectTextPlanStepBody.runCompleted, (valid.unrun unrun).2] at completed
  cases completed

/-- What remains finished once: steps that are as they were, apart from those of the last
revision. -/
theorem FinishedOnce.carried {before after : List ProjectTextPlanStep} (once : FinishedOnce before)
    (carried : ∀ new ∈ after, ∃ old ∈ before, new.slot = old.slot ∧
      new.planRevision = old.planRevision ∧ new.attempt = old.attempt ∧
        ((new.state = old.state ∧ new.run = old.run) ∨
          ∀ other ∈ before, other.planRevision ≤ old.planRevision)) : FinishedOnce after := by
  constructor
  · intro first member later behind same earlier
    obtain ⟨old, found, slot, revision, _, kept | last⟩ := carried first member
    · obtain ⟨other, held, otherSlot, otherRevision, _, _⟩ := carried later behind
      rw [kept.1]
      refine once.unfinished old found other held ?_ (by omega)
      rw [← slot, ← otherSlot, same]
    · obtain ⟨other, held, _, otherRevision, _, _⟩ := carried later behind
      have low := last other held
      omega
  · intro first member later behind same earlier ran
    obtain ⟨old, found, slot, revision, attempt, kept | last⟩ := carried first member
    · obtain ⟨other, held, otherSlot, otherRevision, otherAttempt, _⟩ := carried later behind
      have below := once.attempts old found other held (by rw [← slot, ← otherSlot, same])
        (by omega) (kept.2 ▸ ran)
      omega
    · obtain ⟨other, held, _, otherRevision, _, _⟩ := carried later behind
      have low := last other held
      omega

/-- The next attempt at a slot is behind that of its step in the current revision. -/
theorem attempt_lt_nextAttempt {current : List ProjectTextPlanStep} {step : ProjectTextPlanStep}
    (distinct : (current.map fun step => step.slot).Nodup) (member : step ∈ current) :
    step.attempt ≤ nextAttempt current step.slot ∧
      (step.run ≠ none → step.attempt < nextAttempt current step.slot) := by
  have found : current.find? (fun other => other.slot = step.slot) = some step := by
    cases search : current.find? fun other => other.slot = step.slot with
    | none =>
      have absent := List.find?_eq_none.mp search step member
      simp at absent
    | some other =>
      have same : other.slot = step.slot := by simpa using List.find?_some search
      exact congrArg some
        (List.inj_on_of_nodup_map distinct (List.mem_of_find?_eq_some search) member same)
  simp only [nextAttempt, found]
  split_ifs with unrun
  · exact ⟨by omega, fun ran => absurd unrun ran⟩
  · exact ⟨by omega, fun _ => by omega⟩

/-- What a revision remakes is finished once if it keeps the slots that were run. -/
theorem FinishedOnce.remade {plan : ProjectTextPlanBody} {past current : List ProjectTextPlanStep}
    {definition : ProjectTextPlanRevision} {fresh : List ProjectTextPlanStep}
    (coherent : Coherent plan past current) (once : FinishedOnce (past ++ current))
    (distinct : (current.map fun step => step.slot).Nodup)
    (revision : definition.planRevision = plan.currentPlanRevision + 1)
    (made : Fresh definition (nextAttempt current)
      (unfinishedSlots (revisionSlots definition) current) fresh)
    (keeps : ∀ slot ∈ revisionSlots definition,
      (∃ step ∈ past ++ current, step.slot = slot ∧ step.run ≠ none) →
        ∃ step ∈ current, step.slot = slot) :
    FinishedOnce (past ++ current ++ fresh) := by
  have recent : ∀ step ∈ fresh, step.planRevision = plan.currentPlanRevision + 1 := by
    intro step member
    rw [made.made step member]
    exact revision
  have low : ∀ step ∈ past ++ current, step.planRevision ≤ plan.currentPlanRevision := by
    intro step member
    rcases List.mem_append.mp member with old | here
    · exact (coherent.earlier step old).le
    · exact (coherent.recent step here).le
  -- a step that was run has a successor among the current ones, or is one of them
  have behind : ∀ first ∈ past ++ current, ∀ later ∈ fresh, later.slot = first.slot →
      first.run ≠ none → first.state ≠ .succeeded ∧ first.attempt < later.attempt := by
    intro first member later new same ran
    have remaining : later.slot ∈ unfinishedSlots (revisionSlots definition) current := by
      rw [← made.slots]
      exact List.mem_map_of_mem new
    obtain ⟨asked, open_⟩ := List.mem_filter.mp remaining
    obtain ⟨step, here, slot⟩ := keeps later.slot asked ⟨first, member, same.symm, ran⟩
    have unfinished : step.state ≠ .succeeded := by
      intro succeeded
      simp only [Bool.not_eq_true', List.any_eq_false] at open_
      exact open_ step here (by simp [slot, succeeded])
    obtain ⟨atLeast, above⟩ := attempt_lt_nextAttempt distinct here
    have attempt : later.attempt = nextAttempt current step.slot := by
      rw [slot, made.made later new]
      rfl
    rcases List.mem_append.mp member with old | current
    · have earlier := coherent.earlier first old
      have turned := coherent.recent step here
      have below := once.attempts first member step (List.mem_append_right _ here)
        (slot.trans same) (by omega) ran
      exact ⟨once.unfinished first member step (List.mem_append_right _ here) (slot.trans same)
        (by omega), by omega⟩
    · obtain rfl := List.inj_on_of_nodup_map distinct current here (same.symm.trans slot.symm)
      have more := above ran
      exact ⟨unfinished, by omega⟩
  constructor
  · intro first member later new same earlier succeeded
    rcases List.mem_append.mp new with old | fresher
    · rcases List.mem_append.mp member with there | young
      · exact once.unfinished first there later old same earlier succeeded
      · have high := recent first young
        have bound := low later old
        omega
    · rcases List.mem_append.mp member with there | young
      · have ran := (coherent.sound first there).valid.run_of_succeeded succeeded
        exact (behind first there later fresher same ran).1 succeeded
      · have high := recent first young
        have bound := recent later fresher
        omega
  · intro first member later new same earlier ran
    rcases List.mem_append.mp new with old | fresher
    · rcases List.mem_append.mp member with there | young
      · exact once.attempts first there later old same earlier ran
      · have high := recent first young
        have bound := low later old
        omega
    · rcases List.mem_append.mp member with there | young
      · exact (behind first there later fresher same ran).2
      · have high := recent first young
        have bound := recent later fresher
        omega

/-- What holds of the steps in every run: finished work is not made again, and the current steps are
for distinct slots. -/
structure SlotsKept (rows : ProjectTextPlanRows) : Prop where
  once : FinishedOnce rows.steps
  distinct : (rows.currentSteps.map fun step => step.slot).Nodup

/-- The slots of steps one of which moves stay. -/
theorem slots_replaceStep {all steps : List ProjectTextPlanStep} {step next : ProjectTextPlanStep}
    (names : (stepNames all).Nodup) (within : steps ⊆ all) (member : step ∈ all)
    (moved : Moved step.toProjectTextPlanStepBody next.toProjectTextPlanStepBody) :
    (replaceStep steps next).map (fun step => step.slot) = steps.map fun step => step.slot := by
  rw [replaceStep, List.map_map]
  refine List.map_congr_left fun old found => ?_
  by_cases same : old.stepId = next.stepId
  · have named : next.stepId = step.stepId := moved.change.identity.2.2.1
    obtain rfl := eq_of_stepId names (within found) member (same.trans named)
    simpa [same] using moved.change.slot
  · simp [same]

/-- What an operation makes of steps that are finished once is so, if it keeps the slots. -/
theorem Moves.slots {operation : ProjectTextPlanOperation} {plan next : ProjectTextPlan}
    {past current earlier recent : List ProjectTextPlanStep} {rows : ProjectTextPlanRows}
    (found : rows.plan = some plan) (split : rows.steps = past ++ current)
    (coherent : Coherent plan.toProjectTextPlanBody past current)
    (moves : Moves operation plan past current next earlier recent)
    (named : NamesEpisodesOnce operation) (keeps : KeepsSlots rows operation)
    (once : FinishedOnce (past ++ current))
    (distinct : (current.map fun step => step.slot).Nodup) :
    FinishedOnce (earlier ++ recent) ∧ (recent.map fun step => step.slot).Nodup := by
  have low : ∀ step ∈ past ++ current, step.planRevision ≤ plan.currentPlanRevision := by
    intro step member
    rcases List.mem_append.mp member with old | here
    · exact (coherent.earlier step old).le
    · exact (coherent.recent step here).le
  cases moves with
  | same => exact ⟨once, distinct⟩
  | stopped moved stands => exact ⟨once, distinct⟩
  | @noted step changed member moved live state run terminal =>
    refine ⟨?_, ?_⟩
    · rw [← replaceStep_append]
      refine once.carried fun new behind => ?_
      rcases mem_replaceStep behind with ⟨rfl, _⟩ | ⟨old, _⟩
      · exact ⟨step, member, moved.change.slot, moved.change.identity.2.1, moved.change.attempt,
          .inl ⟨state, run⟩⟩
      · exact ⟨new, old, rfl, rfl, rfl, .inl ⟨rfl, rfl⟩⟩
    · rw [slots_replaceStep coherent.names (List.subset_append_right _ _) member moved]
      exact distinct
  | @advanced before after active changed next split step moved stands =>
    subst split
    refine ⟨?_, ?_⟩
    · refine once.carried fun new behind => ?_
      by_cases same : new = changed
      · subst same
        refine ⟨active, by simp, step.change.slot, step.change.identity.2.1, step.change.attempt,
          .inr ?_⟩
        have turned := coherent.recent active (by simp)
        rw [turned]
        exact low
      · refine ⟨new, ?_, rfl, rfl, rfl, .inl ⟨rfl, rfl⟩⟩
        simp only [List.mem_append, List.mem_cons, same, false_or] at behind ⊢
        tauto
    · rw [List.map_append, List.map_cons] at distinct ⊢
      rw [step.change.slot]
      exact distinct
  | @remade kind request next fresh asked remakes valid change wake live owned revision turned
      ended made names stands =>
    refine ⟨?_, ?_⟩
    · refine .remade coherent once distinct revision made fun slot member ran => ?_
      rw [← split] at ran
      rw [← coherent.currentSteps found split]
      exact keeps kind request asked remakes slot member ran
    · rw [made.slots]
      exact (revisionSlots_nodup (named kind request asked)).filter _

/-- An operation that keeps the slots of consistent rows keeps what holds of them. -/
theorem RowsEffect.slotsKept {operation : ProjectTextPlanOperation}
    {rows after : ProjectTextPlanRows} (effect : RowsEffect operation rows after)
    (named : NamesEpisodesOnce operation) (keeps : KeepsSlots rows operation)
    (kept : SlotsKept rows) : SlotsKept after := by
  cases effect with
  | @started request plan revisions fresh asked absent started =>
    have present : (⟨some plan, revisions, fresh⟩ : ProjectTextPlanRows).plan = some plan := rfl
    have current := started.coherent.currentSteps present rfl
    refine ⟨?_, ?_⟩
    · have recent := started.coherent.recent
      constructor
      · intro first member later behind _ earlier
        have same := recent first member
        have turned := recent later behind
        omega
      · intro first member later behind _ earlier
        have same := recent first member
        have turned := recent later behind
        omega
    · rw [current, started.made.slots]
      exact revisionSlots_nodup (named _ request asked)
  | @moved plan next revisions past current earlier recent found split coherent moves =>
    have present : (⟨some next, revisions, earlier ++ recent⟩ : ProjectTextPlanRows).plan =
        some next := rfl
    have shown := (moves.coherent coherent).currentSteps present rfl
    obtain ⟨once, distinct⟩ := kept
    rw [split] at once
    rw [coherent.currentSteps found split] at distinct
    obtain ⟨finished, slots⟩ := moves.slots found split coherent named keeps once distinct
    exact ⟨finished, by rwa [shown]⟩

variable {sha256 : JsString → JsString}

/-- Along a run whose accepted revisions keep the slots that were run, finished work is never
scheduled again, and the attempts at a slot that was run increase. -/
theorem finished_once (operations : List ProjectTextPlanOperation)
    (named : ∀ operation ∈ operations, NamesEpisodesOnce operation)
    (keeps : ∀ step ∈ trace (performPlan sha256) .empty operations, step.outcome = .ok () →
      KeepsSlots step.before step.operation) :
    ∀ step ∈ trace (performPlan sha256) .empty operations, FinishedOnce step.after.steps := by
  have start : Consistent .empty ∧ SlotsKept .empty := by
    refine ⟨consistent_empty, ⟨?_, ?_⟩, List.nodup_nil⟩
    · intro first member
      cases member
    · intro first member
      cases member
  have preserved : ∀ step ∈ trace (performPlan sha256) .empty operations,
      Consistent step.before ∧ SlotsKept step.before →
        (performPlan sha256 step.operation).run step.before = (step.outcome, step.after) →
          Consistent step.after ∧ SlotsKept step.after := by
    rintro step member ⟨consistent, kept⟩ ran
    cases returned : step.outcome with
    | ok =>
      obtain ⟨earlier, later, split, _⟩ := split_of_mem_trace member
      have asked : step.operation ∈ operations := by simp [split]
      rw [returned] at ran
      have effect := performPlan_effect consistent ran
      exact ⟨effect.consistent, effect.slotsKept (named _ asked) (keeps step member returned) kept⟩
    | error failure =>
      have atomic : Program.Atomic (performPlan sha256 step.operation) :=
        performPlan_atomic step.operation
      have same := atomic step.before failure (by rw [ran, returned])
      rw [ran] at same
      change step.after = step.before at same
      rw [same]
      exact ⟨consistent, kept⟩
  intro step member
  exact (trace_invariant_of_steps (fun rows => Consistent rows ∧ SlotsKept rows) preserved start
    member).2.2.once

/-- The result of the first sample step. -/
def sampleResult : ProjectTextPlanOperation :=
  .result (js "step-1")
    ⟨.script, js "result-1", sampleDigest, js "run-1", js "receipt-1", sampleDigest, none,
      some (js "artifact-1"), some 1, some 1, sampleDigest⟩ (js "2026-01-01T00:00:02.000Z")

/-- The end of its run. -/
def sampleCompletion : ProjectTextPlanOperation :=
  .terminal (js "step-1") ⟨js "event-1", 4, 3, .completed⟩ (js "2026-01-01T00:00:03.000Z")

/-- The selection of its result. -/
def sampleSelection : ProjectTextPlanOperation :=
  .advance (js "step-1")
    ⟨.whenUnchanged, js "selection-1", sampleDigest, js "artifact-1", 1, 1, sampleDigest⟩
    (js "2026-01-01T00:00:04.000Z")

/-- The second revision of the sample plan: both scripts remain. -/
def sampleSecond : ProjectTextPlanRevision :=
  sampleRevision 2 .reviseRemaining (js "2026-01-01T00:00:06.000Z")
    (hexDigest 0x6a7b2c199a12f27fe7d82d85329094fbebf69201cc5962fad4a3442bd78e198e)

/-- The third one, for both scripts again. -/
def sampleThird : ProjectTextPlanRevision :=
  sampleRevision 3 .reviseRemaining (js "2026-01-01T00:00:08.000Z")
    (hexDigest 0x2e3366cf4a38342d71b5faa72d75cfe5279248b5782e5277682d5106d9abc6a4)

/-- The plan is paused behind the selection. -/
def samplePause : ProjectTextPlanOperation :=
  .control .pause ⟨sampleDefinition, [], js "2026-01-01T00:00:05.000Z", false⟩

/-- What remains is revised. -/
def sampleRevision2 : ProjectTextPlanOperation :=
  .control .reviseRemaining ⟨sampleSecond, [js "step-3"], js "2026-01-01T00:00:06.000Z", false⟩

/-- The plan is paused again. -/
def samplePause2 : ProjectTextPlanOperation :=
  .control .pause ⟨sampleSecond, [], js "2026-01-01T00:00:07.000Z", false⟩

/-- What remains is revised again. -/
def sampleRevision3 : ProjectTextPlanOperation :=
  .control .reviseRemaining
    ⟨sampleThird, [js "step-4", js "step-5"], js "2026-01-01T00:00:08.000Z", false⟩

/-- The first script is written and selected, the last operation first. -/
def sampleSelected : List ProjectTextPlanOperation :=
  [sampleSelection, sampleCompletion, sampleResult, sampleAdmission, sampleStart]

/-- Behind it the plan is paused, and what remains is revised. -/
def sampleOnce : List ProjectTextPlanOperation := sampleRevision2 :: samplePause :: sampleSelected

/-- It is paused and revised again. -/
def sampleTwice : List ProjectTextPlanOperation := sampleRevision3 :: samplePause2 :: sampleOnce

set_option maxRecDepth 20000 in
/-- The records of the sample run are small, and its names are valid. -/
theorem sampleRecords_valid :
    (∀ record ∈ [sampleActor.json, sampleSecond.json,
      ProjectTextPlanResultReference.json ⟨.script, js "result-1", sampleDigest, js "run-1",
        js "receipt-1", sampleDigest, none, some (js "artifact-1"), some 1, some 1, sampleDigest⟩,
      ProjectTextPlanTerminal.json ⟨js "event-1", 4, 3, .completed⟩,
      ProjectTextPlanSelectionReference.json ⟨.whenUnchanged, js "selection-1", sampleDigest,
        js "artifact-1", 1, 1, sampleDigest⟩], isSmall record 65536 = true) ∧
      ∀ id ∈ [js "step-3", js "step-4", js "step-5", js "result-1", js "run-1", js "receipt-1",
        js "artifact-1", js "event-1", js "selection-1"], projectTextOpaqueId id = .ok () := by
  decide

/-- A request remakes the steps of a plan as far as its guards compare no records. -/
def Remakes (rows : ProjectTextPlanRows) (action : ProjectTextPlanAction)
    (request : ProjectTextPlanControlRequest) (definition : ProjectTextPlanRevision) : Prop :=
  rows.currentRevision = some definition ∧ Continues rows request ∧
    (∀ plan ∈ rows.plan,
      remainingGuard action plan definition (rows.controlInput request) = .ok ()) ∧
      (do
        let _ ← remainingSlots request.definition rows.currentSteps request.stepIds
        rejectIf (∃ stepId ∈ request.stepIds, stepId ∈ stepNames rows.steps)
          (planStoreFail "project_text_plan_steps_constraint")) = .ok ()

instance (rows : ProjectTextPlanRows) (action : ProjectTextPlanAction)
    (request : ProjectTextPlanControlRequest) (definition : ProjectTextPlanRevision) :
    Decidable (Remakes rows action request definition) := by
  unfold Remakes
  infer_instance

/-- The operations on the first script fit the rows that they find, and are admitted. -/
def SelectedFits : Prop :=
  (Fitting (sampleRows [sampleAdmission, sampleStart]) sampleResult ∧
    operationGuard (sampleRows [sampleAdmission, sampleStart]) sampleResult = .ok ()) ∧
    (Fitting (sampleRows [sampleResult, sampleAdmission, sampleStart]) sampleCompletion ∧
      operationGuard (sampleRows [sampleResult, sampleAdmission, sampleStart])
        sampleCompletion = .ok ()) ∧
      Fitting (sampleRows [sampleCompletion, sampleResult, sampleAdmission, sampleStart])
        sampleSelection ∧
        operationGuard (sampleRows [sampleCompletion, sampleResult, sampleAdmission, sampleStart])
          sampleSelection = .ok ()

instance : Decidable SelectedFits := by
  unfold SelectedFits
  infer_instance

/-- So do the controls behind them. -/
def ControlsFit : Prop :=
  (Fitting (sampleRows sampleSelected) samplePause ∧
    Stops (sampleRows sampleSelected)
      ⟨sampleDefinition, [], js "2026-01-01T00:00:05.000Z", false⟩) ∧
    (Fitting (sampleRows (samplePause :: sampleSelected)) sampleRevision2 ∧
      Remakes (sampleRows (samplePause :: sampleSelected)) .reviseRemaining
        ⟨sampleSecond, [js "step-3"], js "2026-01-01T00:00:06.000Z", false⟩ sampleDefinition) ∧
      (Fitting (sampleRows sampleOnce) samplePause2 ∧
        Stops (sampleRows sampleOnce)
          ⟨sampleSecond, [], js "2026-01-01T00:00:07.000Z", false⟩) ∧
        Fitting (sampleRows (samplePause2 :: sampleOnce)) sampleRevision3 ∧
          Remakes (sampleRows (samplePause2 :: sampleOnce)) .reviseRemaining
            ⟨sampleThird, [js "step-4", js "step-5"], js "2026-01-01T00:00:08.000Z", false⟩
            sampleSecond

instance : Decidable ControlsFit := by
  unfold ControlsFit
  infer_instance

set_option maxRecDepth 20000 in
/-- The sample operations fit; the first script is finished behind the first revision, which keeps
its slot, and made again behind the second one. -/
theorem sampleTwice_fits : SelectedFits ∧ ControlsFit ∧
    (∃ first ∈ (sampleRows sampleOnce).steps, first.planRevision = 1 ∧ first.state = .succeeded) ∧
      (∀ slot ∈ revisionSlots sampleSecond,
        (∃ step ∈ (sampleRows (samplePause :: sampleSelected)).steps,
          step.slot = slot ∧ step.run ≠ none) →
            ∃ step ∈ (sampleRows (samplePause :: sampleSelected)).currentSteps, step.slot = slot) ∧
        ∃ first ∈ (sampleRows sampleTwice).steps,
          ∃ later ∈ (sampleRows sampleTwice).steps, later.slot = first.slot ∧
            first.planRevision < later.planRevision ∧ first.state = .succeeded := by
  decide

/-- The parts of the sample run are as their parsers leave them. -/
theorem sampleParts_parsed :
    parseProjectTextPlanResultReference ⟨.script, js "result-1", sampleDigest, js "run-1",
      js "receipt-1", sampleDigest, none, some (js "artifact-1"), some 1, some 1, sampleDigest⟩ =
        .ok () ∧
      parseProjectTextPlanTerminal ⟨js "event-1", 4, 3, .completed⟩ = .ok () ∧
        parseProjectTextPlanSelectionReference ⟨.whenUnchanged, js "selection-1", sampleDigest,
          js "artifact-1", 1, 1, sampleDigest⟩ = .ok () := by
  obtain ⟨small, ids⟩ := sampleRecords_valid
  obtain ⟨_, _, _, digest, _⟩ := sampleParts_valid
  simp only [List.forall_mem_cons] at small ids
  obtain ⟨_, _, result, terminal, selection, _⟩ := small
  obtain ⟨_, _, _, resultId, run, receipt, artifact, event, selectionId, _⟩ := ids
  have counted : creativeProjectRevision 1 1 = .ok () := by decide
  refine ⟨?_, ?_, ?_⟩
  · simp only [parseProjectTextPlanResultReference, creativeProjectRecord_of_small result,
      whenPresent, resultId, run, receipt, artifact, digest, counted, ok_bind]
    rfl
  · simp only [parseProjectTextPlanTerminal, creativeProjectRecord_of_small terminal, event,
      ok_bind]
    decide
  · simp only [parseProjectTextPlanSelectionReference, creativeProjectRecord_of_small selection,
      selectionId, artifact, digest, counted, ok_bind]

/-- The first script is written and selected. -/
theorem sampleSelected_reached : Reached sampleSelected := by
  obtain ⟨result, terminal, selection⟩ := sampleParts_parsed
  obtain ⟨⟨⟨first, reports⟩, ⟨second, ends⟩, third, selects⟩, _⟩ := sampleTwice_fits
  have reported : Reached [sampleResult, sampleAdmission, sampleStart] :=
    sampleAdmission_reached.next ⟨result, first.1⟩ reports first.2 (by rintro request ⟨⟩)
  have ended : Reached [sampleCompletion, sampleResult, sampleAdmission, sampleStart] :=
    reported.next ⟨terminal, second.1⟩ ends second.2 (by rintro request ⟨⟩)
  exact ended.next ⟨selection, third.1⟩ selects third.2 (by rintro request ⟨⟩)

/-- A request about the plan of some rows whose other guards hold remakes its steps. -/
theorem remakeGuard_of_remakes {rows : ProjectTextPlanRows} {action : ProjectTextPlanAction}
    {request : ProjectTextPlanControlRequest} {definition : ProjectTextPlanRevision}
    (timely : creativeProjectTimestamp request.time = .ok ())
    (small : isSmall request.definition.actor.json 65536 = true)
    (remakes : Remakes rows action request definition) :
    remakeGuard action rows request = .ok () := by
  obtain ⟨current, continues, guarded, named⟩ := remakes
  obtain ⟨plan, found, previous⟩ := previousGuard_of_continues timely small current continues
  simp only [remakeGuard, previous, ok_bind, guarded plan found]
  exact named

/-- Sample controls are admissible in time. -/
theorem sampleControl_admissible {rows : ProjectTextPlanRows} {kind : ProjectTextPlanControl}
    {planRevision : Int} {action : ProjectTextPlanAction} {created digest time : JsString}
    {stepIds : List JsString} (counted : creativeProjectRevision planRevision 1 = .ok ())
    (named : ∀ stepId ∈ stepIds, projectTextOpaqueId stepId = .ok ()) (timely : InTime rows time) :
    Admissible rows
      (.control kind ⟨sampleRevision planRevision action created digest, stepIds, time, false⟩) :=
  ⟨parsedDefinition_sample counted, named, timely⟩

/-- What remains is revised once. -/
theorem sampleOnce_reached : Reached sampleOnce := by
  obtain ⟨small, ids⟩ := sampleRecords_valid
  have actor : isSmall sampleActor.json 65536 = true := small _ List.mem_cons_self
  obtain ⟨_, ⟨⟨pausing, current, continues, unfinished⟩, ⟨revising, remakes⟩, _⟩, _⟩ :=
    sampleTwice_fits
  have paused : Reached (samplePause :: sampleSelected) :=
    sampleSelected_reached.next (sampleControl_admissible (by decide) (by simp) pausing.1)
      (stopGuard_of_continues pausing.1.checked actor sampleDefinition_small current continues
        unfinished).1 pausing.2 (by rintro request ⟨⟩)
  have named : ∀ stepId ∈ [js "step-3"], projectTextOpaqueId stepId = .ok () := by
    simp only [List.forall_mem_cons] at ids ⊢
    exact ⟨ids.1, by simp⟩
  exact paused.next (sampleControl_admissible (by decide) named revising.1)
    (remakeGuard_of_remakes revising.1.checked actor remakes) revising.2 (by rintro request ⟨⟩)

/-- It is revised again. -/
theorem sampleTwice_reached : Reached sampleTwice := by
  obtain ⟨small, ids⟩ := sampleRecords_valid
  simp only [List.forall_mem_cons] at small ids
  obtain ⟨actor, second, _⟩ := small
  obtain ⟨_, fourth, fifth, _⟩ := ids
  obtain ⟨_, ⟨_, _, ⟨pausing, current, continues, unfinished⟩, revising, remakes⟩, _⟩ :=
    sampleTwice_fits
  have paused : Reached (samplePause2 :: sampleOnce) :=
    sampleOnce_reached.next (sampleControl_admissible (by decide) (by simp) pausing.1)
      (stopGuard_of_continues pausing.1.checked actor second current continues unfinished).1
      pausing.2 (by rintro request ⟨⟩)
  have named : ∀ stepId ∈ [js "step-4", js "step-5"], projectTextOpaqueId stepId = .ok () := by
    simp only [List.forall_mem_cons]
    exact ⟨fourth, fifth, by simp⟩
  exact paused.next (sampleControl_admissible (by decide) named revising.1)
    (remakeGuard_of_remakes revising.1.checked actor remakes) revising.2 (by rintro request ⟨⟩)

/-- The sample revisions name every episode once. -/
theorem sampleTwice_named : ∀ operation ∈ sampleTwice, NamesEpisodesOnce operation := by
  have distinct {planRevision : Int} {action : ProjectTextPlanAction} {time digest : JsString} :
      (sampleRevision planRevision action time digest).episodeIds.Nodup :=
    (by decide : [js "episode-1", js "episode-2"].Nodup)
  simp only [sampleTwice, sampleOnce, sampleSelected, List.forall_mem_cons]
  refine ⟨?_, ?_, ?_, ?_, ?_, ?_, ?_, ?_, ?_, by simp⟩
  all_goals
    rintro kind request ⟨⟩
    try exact distinct

/-- The steps of sample operations are of these. -/
theorem operation_of_sampleSteps {done : List ProjectTextPlanOperation}
    {step : Step ProjectTextPlanOperation Failure ProjectTextPlanRows Unit}
    (member : step ∈ sampleSteps done) : step.operation ∈ done := by
  induction done with
  | nil => cases member
  | cons operation done hypothesis =>
    rw [sampleSteps, List.mem_append, List.mem_singleton] at member
    rcases member with earlier | rfl
    · exact List.mem_cons_of_mem _ (hypothesis earlier)
    · exact List.mem_cons_self

/-- Before the second revision nothing is remade. -/
theorem sampleSelected_keeps {rows : ProjectTextPlanRows} :
    ∀ operation ∈ samplePause :: sampleSelected, KeepsSlots rows operation := by
  simp only [sampleSelected, List.forall_mem_cons]
  refine ⟨?_, ?_, ?_, ?_, ?_, ?_, by simp⟩
  all_goals
    rintro kind request ⟨⟩
    try
      rintro (⟨⟨⟩⟩ | ⟨⟨⟩⟩)

/-- Revising once keeps the slots. -/
theorem sampleOnce_keeps : ∀ step ∈ trace (performPlan sampleSha256) .empty sampleOnce.reverse,
    step.outcome = .ok () → KeepsSlots step.before step.operation := by
  intro step member _
  rw [sampleOnce_reached.steps, sampleOnce, sampleSteps, List.mem_append, List.mem_singleton]
    at member
  rcases member with earlier | rfl
  · exact sampleSelected_keeps _ (operation_of_sampleSteps earlier)
  · rintro kind request ⟨⟩ _
    exact sampleTwice_fits.2.2.2.1

/-- In the sample run that revises once the first script is finished, and not made again. -/
theorem finished_once_sample :
    (∃ first ∈ (finalState (performPlan sampleSha256) .empty sampleOnce.reverse).steps,
      first.planRevision = 1 ∧ first.state = .succeeded) ∧
      ∀ step ∈ trace (performPlan sampleSha256) .empty sampleOnce.reverse,
        FinishedOnce step.after.steps := by
  have named : ∀ operation ∈ sampleOnce.reverse, NamesEpisodesOnce operation := by
    intro operation member
    exact sampleTwice_named operation
      (List.mem_cons_of_mem _ (List.mem_cons_of_mem _ (List.mem_reverse.mp member)))
  refine ⟨?_, finished_once sampleOnce.reverse named sampleOnce_keeps⟩
  rw [sampleOnce_reached.state]
  exact sampleTwice_fits.2.2.1

/-- Revising twice makes the finished script again. -/
theorem sampleTwice_repeats :
    ¬ ∀ sha256 : JsString → JsString, (∀ text, isDigest (sha256 text) = true) →
      ∀ operations, (∀ operation ∈ operations, NamesEpisodesOnce operation) →
        ∀ step ∈ trace (performPlan sha256) .empty operations,
          FinishedOnce step.after.steps := by
  intro promised
  obtain ⟨_, _, _, _, first, member, later, behind, same, earlier, succeeded⟩ := sampleTwice_fits
  have last : ⟨sampleRevision3, sampleRows (samplePause2 :: sampleOnce), .ok (),
      sampleRows sampleTwice⟩ ∈
        trace (performPlan sampleSha256) .empty sampleTwice.reverse := by
    rw [sampleTwice_reached.steps]
    exact List.mem_append_right _ List.mem_cons_self
  have once := promised sampleSha256 isDigest_sampleSha256 sampleTwice.reverse
    (fun operation asked => sampleTwice_named operation (List.mem_reverse.mp asked)) _ last
  exact once.unfinished first member later behind same earlier succeeded

end Crewon.Verif.ProjectTextPlan
