import Crewon.Verif.ProjectTextPlanMoves

/-!
# The operations of a text plan move its rows

What each control and each checkpoint accepts, read off its definition, is a move of coherent rows;
so the rows of every run are coherent.
-/

namespace Crewon.Verif.ProjectTextPlan

open Crewon.Js Crewon.Checked Crewon.Lib Crewon.Domain Crewon.Store

variable {sha256 : JsString → JsString}

/-- Steps are made for the slots, under the given names and in their order. -/
theorem fresh_of_createSteps {definition : ProjectTextPlanRevision}
    {attempt : ProjectTextPlanSlot → Int} {time : JsString} {slots : List ProjectTextPlanSlot}
    {stepIds : List JsString} {ordinal : Int} {steps : List ProjectTextPlanStep}
    (created : createSteps sha256 definition attempt time ordinal slots stepIds = .ok steps)
    (paired : stepIds.length = slots.length) :
    Fresh definition attempt slots steps ∧ stepNames steps = stepIds ∧
      ∀ step ∈ steps, ordinal ≤ step.ordinal := by
  induction slots generalizing ordinal stepIds steps with
  | nil =>
    have none : stepIds = [] := List.length_eq_zero_iff.mp paired
    have empty : steps = [] := by
      rw [none, createSteps] at created
      · exact (Except.ok.inj created).symm
      · simp
    rw [none, empty]
    exact ⟨⟨rfl, by simp, by simp, .nil⟩, rfl, by simp⟩
  | cons slot slots hypothesis =>
    cases stepIds with
    | nil => simp at paired
    | cons stepId stepIds =>
      simp only [createSteps, bind_eq_ok, pure_eq_ok] at created
      obtain ⟨step, first, rest, later, rfl⟩ := created
      obtain ⟨body, valid⟩ := createProjectTextPlanStep_eq_ok first
      have shorter : stepIds.length = slots.length := by simpa using paired
      obtain ⟨made, names, behind⟩ := hypothesis later shorter
      have here : step.ordinal = ordinal := by rw [body]; rfl
      refine ⟨⟨?_, ?_, ?_, ?_⟩, ?_, ?_⟩
      · rw [List.map_cons, made.slots, body]
        rfl
      · refine List.forall_mem_cons.mpr ⟨?_, made.made⟩
        rw [body]
        rfl
      · exact List.forall_mem_cons.mpr ⟨body ▸ valid, made.valid⟩
      · refine List.pairwise_cons.mpr ⟨?_, made.ordered⟩
        intro other member
        have above := behind other member
        omega
      · rw [stepNames_cons, names, body]
        rfl
      · refine List.forall_mem_cons.mpr ⟨by omega, ?_⟩
        intro other member
        have above := behind other member
        omega

/-- A plan stands at the first of its new steps. -/
theorem stands_fresh {definition : ProjectTextPlanRevision} {attempt : ProjectTextPlanSlot → Int}
    {slots : List ProjectTextPlanSlot} {steps : List ProjectTextPlanStep}
    (made : Fresh definition attempt slots steps) (some : steps ≠ []) (unavailable : Bool) :
    Stands (freshState unavailable) (steps.head?.map fun step => step.stepId) steps := by
  have untouched : ∀ step ∈ steps, step.state = .ready ∧ step.run = none := by
    intro step member
    rw [made.made step member]
    exact ⟨rfl, rfl⟩
  cases steps with
  | nil => exact absurd rfl some
  | cons first rest =>
    have ready := untouched first List.mem_cons_self
    refine @Stands.active _ _ [] first rest ⟨rfl, by simp, ?_, ?_, ?_⟩
    · intro step member
      exact untouched step (List.mem_cons_of_mem _ member)
    · intro succeeded
      rw [ready.1] at succeeded
      cases succeeded
    · cases unavailable
      · exact ready
      · trivial

/-- New steps are inserted under names that are free. -/
theorem writeSteps_fresh {current fresh rows after : List ProjectTextPlanStep}
    (absent : ∀ step ∈ fresh, step.stepId ∉ stepNames current)
    (names : (stepNames rows).Nodup) (written : writeSteps current fresh rows = .ok after) :
    after = rows ++ fresh ∧ (stepNames (rows ++ fresh)).Nodup := by
  induction fresh generalizing rows with
  | nil =>
    rw [writeSteps, pure_eq_ok] at written
    rw [← written, List.append_nil]
    exact ⟨rfl, names⟩
  | cons step fresh hypothesis =>
    have unknown : ¬ (current.any fun old => old.stepId = step.stepId) = true := by
      intro known
      obtain ⟨old, found, same⟩ := List.any_eq_true.mp known
      exact absent step List.mem_cons_self (of_decide_eq_true same ▸ mem_stepNames found)
    rw [writeSteps, if_neg unknown, bind_eq_ok] at written
    obtain ⟨_, free, rest⟩ := written
    have unnamed : step.stepId ∉ stepNames rows := by
      intro named
      obtain ⟨old, found, same⟩ := List.mem_map.mp named
      refine rejectIf_eq_ok.mp free (List.any_eq_true.mpr ⟨old, found, ?_⟩)
      exact decide_eq_true same
    have longer : (stepNames (rows ++ [step])).Nodup := by
      rw [stepNames_append, stepNames_cons, stepNames_nil]
      exact List.nodup_append_comm.mp (List.nodup_cons.mpr ⟨unnamed, names⟩)
    obtain ⟨made, distinct⟩ := hypothesis
      (fun other member => absent other (List.mem_cons_of_mem _ member)) longer rest
    rw [List.append_assoc, List.singleton_append] at made distinct
    exact ⟨made, distinct⟩

/-- Steps of the current revision are put in their places. -/
theorem writeSteps_known {current changed rows : List ProjectTextPlanStep}
    (known : ∀ step ∈ changed, step.stepId ∈ stepNames current) :
    writeSteps current changed rows = .ok (changed.foldl replaceStep rows) := by
  induction changed generalizing rows with
  | nil => rfl
  | cons step changed hypothesis =>
    have here : (current.any fun old => old.stepId = step.stepId) = true := by
      obtain ⟨old, found, same⟩ := List.mem_map.mp (known step List.mem_cons_self)
      exact List.any_eq_true.mpr ⟨old, found, decide_eq_true same⟩
    rw [writeSteps, if_pos here, List.foldl_cons]
    exact hypothesis fun other member => known other (List.mem_cons_of_mem _ member)

/-- Steps that stand where they are put change nothing. -/
theorem foldl_replaceStep_self {changed rows : List ProjectTextPlanStep}
    (names : (stepNames rows).Nodup) (members : ∀ step ∈ changed, step ∈ rows) :
    changed.foldl replaceStep rows = rows := by
  induction changed with
  | nil => rfl
  | cons step changed hypothesis =>
    rw [List.foldl_cons, replaceStep_self names (members step List.mem_cons_self)]
    exact hypothesis fun other member => members other (List.mem_cons_of_mem _ member)

/-- Writing the current steps with one of them moved moves that one. -/
theorem writeSteps_moved {past before after : List ProjectTextPlanStep}
    {active changed : ProjectTextPlanStep}
    (names : (stepNames (past ++ (before ++ active :: after))).Nodup)
    (same : changed.stepId = active.stepId) :
    writeSteps (before ++ active :: after) (before ++ changed :: after)
      (past ++ (before ++ active :: after)) = .ok (past ++ (before ++ changed :: after)) := by
  have known : ∀ step ∈ before ++ changed :: after,
      step.stepId ∈ stepNames (before ++ active :: after) := by
    intro step member
    have named := mem_stepNames member
    simpa only [stepNames_append, stepNames_cons, same] using named
  have replaced : replaceStep (past ++ (before ++ active :: after)) changed =
      past ++ (before ++ changed :: after) := by
    rw [← List.append_assoc] at names ⊢
    rw [replaceStep_at names same, List.append_assoc]
  have distinct : (stepNames (past ++ (before ++ changed :: after))).Nodup := by
    rw [← replaced, stepNames_replaceStep]
    exact names
  rw [writeSteps_known known, List.foldl_append, List.foldl_cons]
  have front : before.foldl replaceStep (past ++ (before ++ active :: after)) =
      past ++ (before ++ active :: after) :=
    foldl_replaceStep_self names (by intro step member; simp [member])
  have back : after.foldl replaceStep (past ++ (before ++ changed :: after)) =
      past ++ (before ++ changed :: after) :=
    foldl_replaceStep_self distinct (by intro step member; simp [member])
  rw [front, replaced, back]

/-- Writing the current steps as they are changes nothing. -/
theorem writeSteps_self {past current : List ProjectTextPlanStep}
    (names : (stepNames (past ++ current)).Nodup) :
    writeSteps current current (past ++ current) = .ok (past ++ current) := by
  have known : ∀ step ∈ current, step.stepId ∈ stepNames current :=
    fun step member => mem_stepNames member
  rw [writeSteps_known known]
  exact congrArg Except.ok
    (foldl_replaceStep_self names fun step member => List.mem_append_right past member)

/-- What a step that succeeded has. -/
theorem ValidStep.ended_of_succeeded {step : ProjectTextPlanStepBody} (valid : ValidStep step)
    (succeeded : step.state = .succeeded) : step.runCompleted := by
  by_contra incomplete
  refine valid.shape ?_
  unfold ProjectTextPlanStepBody.misshapen
  tauto

/-- A step that waits for a selection has a result, and its run completed. -/
theorem ValidStep.waiting {step : ProjectTextPlanStepBody} (valid : ValidStep step)
    (waiting : step.state = .waitingSelection) : step.result ≠ none ∧ step.runCompleted := by
  constructor
  · intro missing
    refine valid.shape ?_
    unfold ProjectTextPlanStepBody.misshapen
    tauto
  · by_contra incomplete
    refine valid.shape ?_
    unfold ProjectTextPlanStepBody.misshapen
    tauto

/-- A step whose run completed has ended. -/
theorem not_open_of_completed {step : ProjectTextPlanStepBody} (completed : step.runCompleted) :
    ¬ OpenStep step := by
  intro unended
  rw [ProjectTextPlanStepBody.runCompleted, unended.2] at completed
  cases completed

/-- A step without a run has nothing else. -/
theorem ValidStep.unrun {step : ProjectTextPlanStepBody} (valid : ValidStep step)
    (absent : step.run = none) : step.input = none ∧ step.terminal = none := by
  constructor
  · by_contra present
    refine valid.shape ?_
    unfold ProjectTextPlanStepBody.misshapen
    tauto
  · by_contra present
    refine valid.shape ?_
    unfold ProjectTextPlanStepBody.misshapen
    tauto

/-- A completed plan has no active step. -/
theorem ValidPlan.inactive {plan : ProjectTextPlanBody} (valid : ValidPlan plan)
    (completed : plan.state = .completed) : plan.activeStepId = none := by
  by_contra present
  refine valid.shape ?_
  unfold ProjectTextPlanBody.misshapen
  tauto

section Rows

variable {plan : ProjectTextPlan} {past current : List ProjectTextPlanStep}

/-- The step that a plan names as active stands among the current ones. -/
theorem Coherent.active {plan : ProjectTextPlanBody} {step : ProjectTextPlanStep}
    (coherent : Coherent plan past current) (member : step ∈ past ++ current)
    (named : plan.activeStepId = some step.stepId) :
    ∃ before after, current = before ++ step :: after ∧
      Standing plan.state plan.activeStepId before step after := by
  obtain ⟨valid, _, _, _, names, _, _, _, stands⟩ := coherent
  cases stands with
  | completed done finished =>
    rw [valid.inactive done] at named
    cases named
  | @active before active after standing =>
    have same : active = step := by
      refine eq_of_stepId names (by simp) member ?_
      exact Option.some.inj (standing.named.symm.trans named)
    subst same
    exact ⟨before, after, rfl, standing⟩

/-- A plan that is not completed has an active step. -/
theorem Coherent.exists_active {plan : ProjectTextPlanBody} (coherent : Coherent plan past current)
    (live : plan.state ≠ .completed) :
    ∃ before active after, current = before ++ active :: after ∧
      Standing plan.state plan.activeStepId before active after := by
  obtain ⟨_, _, _, _, _, _, _, _, stands⟩ := coherent
  cases stands with
  | completed done finished => exact absurd done live
  | active standing => exact ⟨_, _, _, rfl, standing⟩

/-- The active step is found among the current ones. -/
theorem activeStep_standing {before after : List ProjectTextPlanStep} {active : ProjectTextPlanStep}
    (names : (stepNames (before ++ active :: after)).Nodup)
    (standing : Standing plan.state plan.activeStepId before active after) :
    activeStep plan (before ++ active :: after) = some active := by
  have others : ∀ step ∈ before, ¬ some step.stepId = plan.activeStepId := by
    intro step member same
    rw [standing.named] at same
    rw [stepNames_append, stepNames_cons, List.nodup_middle, List.nodup_cons, List.mem_append,
      not_or] at names
    exact names.1.1 (Option.some.inj same ▸ mem_stepNames member)
  have none : before.find? (fun step => some step.stepId = plan.activeStepId) = none := by
    refine List.find?_eq_none.mpr ?_
    intro step member
    simpa using others step member
  rw [activeStep, List.find?_append, none, Option.none_or, List.find?_cons_of_pos]
  simp [standing.named]

/-- The next step that is ready is the first one behind the active one. -/
theorem nextReadyOf_standing {plan : ProjectTextPlanBody}
    {before after : List ProjectTextPlanStep} {active : ProjectTextPlanStep}
    (coherent : Coherent plan past (before ++ active :: after))
    (standing : Standing plan.state plan.activeStepId before active after) :
    nextReadyOf (before ++ active :: after) active = after.head? := by
  have front : before.find? (fun other => other.planRevision = active.planRevision &&
      active.ordinal < other.ordinal && other.state = .ready) = none := by
    refine List.find?_eq_none.mpr ?_
    intro step member
    simp [standing.finished step member]
  have ordered := (List.pairwise_append.mp coherent.ordered).2.1
  rw [nextReadyOf, List.find?_append, front, Option.none_or, List.find?_cons_of_neg (by simp)]
  cases after with
  | nil => rfl
  | cons first rest =>
    have behind := List.rel_of_pairwise_cons ordered List.mem_cons_self
    have ready := (standing.untouched first List.mem_cons_self).1
    have revision := (coherent.recent first (by simp)).trans (coherent.recent active (by simp)).symm
    rw [List.find?_cons_of_pos (by simp [behind, ready, revision])]
    rfl

/-- The next step that is ready behind the ordinal of the active one. -/
theorem nextReady_standing {before after : List ProjectTextPlanStep}
    {active changed : ProjectTextPlanStep} {state : ProjectTextPlanState}
    {activeStepId : Option JsString}
    (ordered : (before ++ active :: after).Pairwise fun first second =>
      first.ordinal < second.ordinal)
    (standing : Standing state activeStepId before active after)
    (same : changed.ordinal = active.ordinal) :
    nextReady (before ++ changed :: after) active.ordinal = after.head? := by
  have front : before.find? (fun other =>
      active.ordinal < other.ordinal && other.state = .ready) = none := by
    refine List.find?_eq_none.mpr ?_
    intro step member
    simp [standing.finished step member]
  have tail := (List.pairwise_append.mp ordered).2.1
  rw [nextReady, List.find?_append, front, Option.none_or, List.find?_cons_of_neg (by simp [same])]
  cases after with
  | nil => rfl
  | cons first rest =>
    have behind := List.rel_of_pairwise_cons tail List.mem_cons_self
    have ready := (standing.untouched first List.mem_cons_self).1
    rw [List.find?_cons_of_pos (by simp [behind, ready])]
    rfl

/-- A plan goes on behind a step that succeeded. -/
theorem stands_advanced {before after : List ProjectTextPlanStep}
    {active changed : ProjectTextPlanStep} {state : ProjectTextPlanState}
    {activeStepId : Option JsString} (body : ProjectTextPlanBody)
    (standing : Standing state activeStepId before active after)
    (succeeded : changed.state = .succeeded) :
    Stands (advanceBody after.head? body).state (advanceBody after.head? body).activeStepId
      (before ++ changed :: after) := by
  have front : ∀ step ∈ before ++ [changed], step.state = .succeeded := by
    intro step member
    rcases List.mem_append.mp member with finished | last
    · exact standing.finished step finished
    · rw [List.mem_singleton.mp last]
      exact succeeded
  cases after with
  | nil => exact .completed rfl front
  | cons first rest =>
    have untouched := standing.untouched first List.mem_cons_self
    rw [List.append_cons before changed]
    refine .active ⟨rfl, front, ?_, ?_, untouched⟩
    · intro step member
      exact standing.untouched step (List.mem_cons_of_mem _ member)
    · intro done
      rw [untouched.1] at done
      cases done

end Rows

/-- What the guard of a later control accepts. -/
theorem previousGuard_eq_ok {input : ProjectTextPlanControlInput}
    {found : ProjectTextPlan × ProjectTextPlanRevision} :
    previousGuard input = .ok found ↔ creativeProjectTimestamp input.time = .ok () ∧
      input.previous = some found.1 ∧ input.previousRevision = some found.2 ∧
        found.1.state ≠ .revoked ∧ found.1.planId = input.definition.planId ∧
          assertIdentity found.1 input.definition = .ok () := by
  simp only [previousGuard, bind_eq_ok, exists_unit]
  refine and_congr_right fun _ => ?_
  cases previous : input.previous with
  | none => simp
  | some plan =>
    cases revision : input.previousRevision with
    | none => simp
    | some definition =>
      simp only [bind_eq_ok, exists_unit, rejectIf_eq_ok, pure_eq_ok, not_or, not_not,
        Option.some.injEq]
      constructor
      · rintro ⟨⟨live, owned⟩, identity, rfl⟩
        exact ⟨rfl, rfl, live, owned, identity⟩
      · rintro ⟨rfl, rfl, live, owned, identity⟩
        exact ⟨⟨live, owned⟩, identity, rfl⟩

/-- An update of a plan that stays with its steps moves it. -/
theorem planMoved_of_updatePlan {plan next : ProjectTextPlan}
    {patch : ProjectTextPlanBody → ProjectTextPlanBody} {time : JsString}
    (updated : updatePlan sha256 plan patch time = .ok next) (live : plan.state ≠ .completed)
    (current : (patch plan.toProjectTextPlanBody).currentPlanRevision = plan.currentPlanRevision)
    (wake : (patch plan.toProjectTextPlanBody).wakeRevision ≤ plan.wakeRevision + 1) :
    PlanMoved plan.toProjectTextPlanBody next.toProjectTextPlanBody := by
  obtain ⟨body, valid, change⟩ := updatePlan_eq_ok updated
  refine ⟨valid, change, ?_, ?_, live⟩
  · rw [body]
    exact current
  · rw [body]
    exact wake

/-- The state behind an update of a plan is the one of its patch. -/
theorem state_of_updatePlan {plan next : ProjectTextPlan}
    {patch : ProjectTextPlanBody → ProjectTextPlanBody} {time : JsString}
    (updated : updatePlan sha256 plan patch time = .ok next) :
    next.state = (patch plan.toProjectTextPlanBody).state ∧
      next.activeStepId = (patch plan.toProjectTextPlanBody).activeStepId := by
  obtain ⟨body, _, _⟩ := updatePlan_eq_ok updated
  rw [body]
  exact ⟨rfl, rfl⟩

/-- The wakes behind an advance. -/
theorem advanceBody_wake (next : Option ProjectTextPlanStep) (body : ProjectTextPlanBody) :
    body.wakeRevision ≤ (advanceBody next body).wakeRevision ∧
      (advanceBody next body).wakeRevision ≤ body.wakeRevision + 1 := by
  cases next <;> simp [advanceBody]

section Operations

variable {rows : ProjectTextPlanRows} {plan : ProjectTextPlan}
  {past current : List ProjectTextPlanStep}

/-- What is found under a name. -/
theorem locate_eq_ok {stepId : JsString} {found : ProjectTextPlan × ProjectTextPlanStep}
    (located : rows.locate stepId = .ok found) :
    rows.plan = some found.1 ∧ found.2 ∈ rows.steps := by
  unfold ProjectTextPlanRows.locate at located
  split at located
  · next plan step present some =>
    cases located
    exact ⟨present, List.mem_of_find?_eq_some some⟩
  · cases located

/-- A pause or a revocation moves the plan only. -/
theorem moves_of_stop {operation : ProjectTextPlanOperation}
    {request : ProjectTextPlanControlRequest} {state : ProjectTextPlanState}
    {pauseReason : Option ProjectTextPlanPauseReason} {change : ProjectTextPlanChange}
    {steps : List ProjectTextPlanStep} (found : rows.plan = some plan)
    (split : rows.steps = past ++ current)
    (coherent : Coherent plan.toProjectTextPlanBody past current)
    (stopping : state = .paused ∨ state = .revoked)
    (stopped : stopProjectTextPlan sha256 state pauseReason (rows.controlInput request) =
      .ok change)
    (written : writeSteps rows.currentSteps change.steps rows.steps = .ok steps) :
    ∃ earlier recent, steps = earlier ++ recent ∧
      Moves operation plan past current change.plan earlier recent := by
  simp only [stopProjectTextPlan, bind_eq_ok, exists_unit, rejectIf_eq_ok, pure_eq_ok] at stopped
  obtain ⟨⟨old, revision⟩, guarded, _, live, next, updated, rfl⟩ := stopped
  obtain ⟨_, previous, _, _, _, _⟩ := previousGuard_eq_ok.mp guarded
  have same : plan = old := Option.some.inj (found.symm.trans previous)
  subst same
  rw [split] at written
  change writeSteps rows.currentSteps rows.currentSteps _ = _ at written
  rw [coherent.currentSteps found split, writeSteps_self coherent.names] at written
  refine ⟨past, current, (Except.ok.inj written).symm, ?_⟩
  obtain ⟨nextState, nextActive⟩ := state_of_updatePlan updated
  refine .stopped (planMoved_of_updatePlan updated live rfl (by simp)) ?_
  obtain ⟨before, active, after, rfl, standing⟩ := coherent.exists_active live
  rw [nextState, nextActive]
  refine .active ⟨standing.named, standing.finished, standing.untouched, standing.brief, ?_⟩
  rcases stopping with rfl | rfl
  · trivial
  · trivial

/-- What the slots of a later revision are. -/
theorem remainingSlots_eq_ok {definition : ProjectTextPlanRevision}
    {previousSteps : List ProjectTextPlanStep} {stepIds : List JsString}
    {slots : List ProjectTextPlanSlot} :
    remainingSlots definition previousSteps stepIds = .ok slots ↔
      (revisionSlots definition).length ≠ 0 ∧ (revisionSlots definition).length ≤ 18 ∧
        slots = unfinishedSlots (revisionSlots definition) previousSteps ∧ slots.length ≠ 0 ∧
          stepIds.length = slots.length ∧ stepIds.Nodup ∧
            ∀ stepId ∈ stepIds, stepId ∉ stepNames previousSteps := by
  have absent : (¬ (stepIds.any fun stepId =>
      previousSteps.any fun step => step.stepId = stepId) = true) ↔
        ∀ stepId ∈ stepIds, stepId ∉ stepNames previousSteps := by
    simp only [List.any_eq_true, decide_eq_true_eq, stepNames, List.mem_map, not_exists, not_and]
  simp only [remainingSlots, projectTextPlanStepKinds, bind_eq_ok, exists_unit, rejectIf_eq_ok,
    pure_eq_ok, not_or, not_not, not_lt, ← absent]
  constructor
  · rintro ⟨_, ⟨⟨some, few⟩, rfl⟩, ⟨left, paired, distinct, fresh⟩, rfl⟩
    exact ⟨some, few, rfl, left, paired, distinct, fresh⟩
  · rintro ⟨some, few, rfl, left, paired, distinct, fresh⟩
    exact ⟨_, ⟨⟨some, few⟩, rfl⟩, ⟨left, paired, distinct, fresh⟩, rfl⟩

/-- What the guard of a remade plan accepts, as far as the rows need it. -/
theorem remainingGuard_eq_ok {action : ProjectTextPlanAction} {plan : ProjectTextPlan}
    {previousRevision : ProjectTextPlanRevision} {input : ProjectTextPlanControlInput}
    (allowed : remainingGuard action plan previousRevision input = .ok ()) :
    (plan.state = .paused ∨ plan.state = .waitingSelection) ∧
      (∀ active ∈ activeStep plan input.previousSteps,
        ¬ OpenStep active.toProjectTextPlanStepBody) ∧
        input.definition.planRevision = plan.currentPlanRevision + 1 := by
  simp only [remainingGuard, bind_eq_ok, exists_unit, rejectIf_eq_ok, not_or, not_not] at allowed
  obtain ⟨state, idle, ⟨revision, _⟩, _, _⟩ := allowed
  refine ⟨by tauto, ?_, revision⟩
  intro active held unended
  exact idle ⟨active, held, unended⟩

/-- Without an open active step no step of the current revision is open. -/
theorem Coherent.idle (coherent : Coherent plan.toProjectTextPlanBody past current)
    (live : plan.state ≠ .completed)
    (idle : ∀ active ∈ activeStep plan current, ¬ OpenStep active.toProjectTextPlanStepBody) :
    ∀ step ∈ current, ¬ OpenStep step.toProjectTextPlanStepBody := by
  obtain ⟨before, active, after, rfl, standing⟩ := coherent.exists_active live
  have names : (stepNames (before ++ active :: after)).Nodup := by
    have distinct := coherent.names
    rw [stepNames_append] at distinct
    exact (List.nodup_append.mp distinct).2.1
  intro step member
  rcases List.mem_append.mp member with front | behind
  · have sound := coherent.sound step (List.mem_append_right past member)
    exact not_open_of_completed (sound.valid.ended_of_succeeded (standing.finished step front))
  · rcases List.mem_cons.mp behind with rfl | back
    · exact idle step (activeStep_standing names standing)
    · intro unended
      exact unended.1 (standing.untouched step back).2

/-- A resumption or a revision makes new steps of what remains. -/
theorem moves_of_remake {kind : ProjectTextPlanControl} {action : ProjectTextPlanAction}
    {request : ProjectTextPlanControlRequest} {change : ProjectTextPlanChange}
    {steps : List ProjectTextPlanStep} (remakes : kind = .resume ∨ kind = .reviseRemaining)
    (found : rows.plan = some plan) (split : rows.steps = past ++ current)
    (coherent : Coherent plan.toProjectTextPlanBody past current)
    (remade : remakeProjectTextPlan sha256 action (rows.controlInput request) = .ok change)
    (written : writeSteps rows.currentSteps change.steps rows.steps = .ok steps) :
    ∃ earlier recent, steps = earlier ++ recent ∧
      Moves (.control kind request) plan past current change.plan earlier recent := by
  have shown : (rows.controlInput request).previousSteps = current :=
    coherent.currentSteps found split
  simp only [remakeProjectTextPlan, createProjectTextPlanRemainingSteps, bind_eq_ok, exists_unit,
    pure_eq_ok] at remade
  obtain ⟨⟨old, revision⟩, guarded, allowed, fresh, ⟨slots, remaining, created⟩, next, updated,
    rfl⟩ := remade
  obtain ⟨_, previous, _, alive, owned, _⟩ := previousGuard_eq_ok.mp guarded
  have same : plan = old := Option.some.inj (found.symm.trans previous)
  subst same
  obtain ⟨state, idle, turned⟩ := remainingGuard_eq_ok allowed
  rw [shown] at idle remaining created
  obtain ⟨_, _, rfl, left, paired, _, absent⟩ := remainingSlots_eq_ok.mp remaining
  obtain ⟨made, names, _⟩ := fresh_of_createSteps created paired
  have live : plan.state ≠ .completed := by
    rcases state with paused | waiting
    · rw [paused]
      decide
    · rw [waiting]
      decide
  have free : ∀ step ∈ fresh, step.stepId ∉ stepNames current := by
    intro step member
    exact absent step.stepId (names ▸ mem_stepNames member)
  have some : fresh ≠ [] := by
    intro none
    have counted := congrArg List.length made.slots
    rw [none] at counted
    exact left counted.symm
  rw [coherent.currentSteps found split, split] at written
  obtain ⟨rfl, distinct⟩ := writeSteps_fresh free coherent.names written
  obtain ⟨body, valid, changed⟩ := updatePlan_eq_ok updated
  obtain ⟨nextState, nextActive⟩ := state_of_updatePlan updated
  refine ⟨past ++ current, fresh, rfl, .remade rfl remakes valid changed ?_ live owned turned ?_
    (coherent.idle live idle) made distinct ?_⟩
  · rw [body]
    exact le_rfl
  · rw [body]
    rfl
  · rw [nextState, nextActive]
    exact stands_fresh made some request.authorizationUnavailable

/-- What the guard of a continuation accepts: the active step, whose result was selected. -/
theorem continueGuard_eq_ok {plan : ProjectTextPlan} {previousRevision : ProjectTextPlanRevision}
    {input : ProjectTextPlanControlInput} {step : ProjectTextPlanStep}
    (allowed : continueGuard plan previousRevision input = .ok step) :
    (plan.state = .waitingSelection ∨ plan.state = .paused) ∧
      activeStep plan input.previousSteps = some step ∧ selectionConfirmed step := by
  simp only [continueGuard, bind_eq_ok, exists_unit, rejectIf_eq_ok] at allowed
  obtain ⟨_, state, chosen⟩ := allowed
  split at chosen
  · cases chosen
  · next active some =>
    simp only [bind_eq_ok, exists_unit, rejectIf_eq_ok, not_not, pure_eq_ok] at chosen
    obtain ⟨confirmed, rfl⟩ := chosen
    exact ⟨by tauto, some, confirmed⟩

/-- A step that succeeds is further than it was. -/
theorem progressOf_succeeded {step : ProjectTextPlanStepBody}
    (unfinished : step.state ≠ .succeeded) :
    progressOf step < progressOf { step with state := .succeeded } := by
  simp [progressOf, unfinished]

/-- A continuation moves the active step and the plan. -/
theorem moves_of_continue {operation : ProjectTextPlanOperation}
    {request : ProjectTextPlanControlRequest} {change : ProjectTextPlanChange}
    {steps : List ProjectTextPlanStep} (found : rows.plan = some plan)
    (split : rows.steps = past ++ current)
    (coherent : Coherent plan.toProjectTextPlanBody past current)
    (continued : continueProjectTextPlan sha256 (rows.controlInput request) = .ok change)
    (written : writeSteps rows.currentSteps change.steps rows.steps = .ok steps) :
    ∃ earlier recent, steps = earlier ++ recent ∧
      Moves operation plan past current change.plan earlier recent := by
  have shown : (rows.controlInput request).previousSteps = current :=
    coherent.currentSteps found split
  simp only [continueProjectTextPlan, bind_eq_ok, pure_eq_ok] at continued
  obtain ⟨⟨old, revision⟩, guarded, step, allowed, changed, stepped, next, updated, rfl⟩ :=
    continued
  obtain ⟨_, previous, _, _, _, _⟩ := previousGuard_eq_ok.mp guarded
  have same : plan = old := Option.some.inj (found.symm.trans previous)
  subst same
  obtain ⟨state, chosen, confirmed⟩ := continueGuard_eq_ok allowed
  rw [shown] at chosen updated
  have live : plan.state ≠ .completed := by
    rcases state with waiting | paused
    · rw [waiting]
      decide
    · rw [paused]
      decide
  obtain ⟨before, active, after, rfl, standing⟩ := coherent.exists_active live
  have names := coherent.names
  have inner : (stepNames (before ++ active :: after)).Nodup := by
    rw [stepNames_append] at names
    exact (List.nodup_append.mp names).2.1
  rw [activeStep_standing inner standing] at chosen
  obtain rfl := Option.some.inj chosen
  have unfinished : active.state ≠ .succeeded := by
    intro succeeded
    exact confirmed.2.1 (standing.brief succeeded)
  obtain ⟨body, _, moving⟩ := updateStep_eq_ok stepped
  obtain ⟨_, _, stepId, ordinal, _⟩ := moving.identity
  have moved := moved_of_updateStep stepped (by constructor <;> intro _ <;> rfl)
    (progressOf_succeeded unfinished) (fun _ => ⟨rfl, rfl⟩)
  have placed : replaceStep (before ++ active :: after) changed = before ++ changed :: after :=
    replaceStep_at inner stepId
  rw [placed, nextReady_standing coherent.ordered standing ordinal] at updated
  rw [coherent.currentSteps found split, split] at written
  change writeSteps _ (replaceStep rows.currentSteps changed) _ = _ at written
  rw [coherent.currentSteps found split, placed, writeSteps_moved names stepId] at written
  obtain ⟨nextState, nextActive⟩ := state_of_updatePlan updated
  have succeeded : changed.state = .succeeded := by
    rw [body]
    rfl
  refine ⟨past, before ++ changed :: after, (Except.ok.inj written).symm,
    .advanced rfl moved ?_ ?_⟩
  · exact planMoved_of_updatePlan updated live rfl (advanceBody_wake _ _).2
  · rw [nextState, nextActive]
    exact stands_advanced plan.toProjectTextPlanBody standing succeeded

/-- A checkpoint that returns its step as it is changes no step. -/
theorem moves_of_same {operation : ProjectTextPlanOperation} {step : ProjectTextPlanStep}
    (coherent : Coherent plan.toProjectTextPlanBody past current)
    (member : step ∈ past ++ current) :
    ∃ earlier recent, replaceStep (past ++ current) step = earlier ++ recent ∧
      Moves operation plan past current plan earlier recent :=
  ⟨past, current, replaceStep_self coherent.names member, .same⟩

/-- A checkpoint of the active step puts it in its place. -/
theorem moves_of_active {operation : ProjectTextPlanOperation} {next : ProjectTextPlan}
    {before after : List ProjectTextPlanStep} {active changed : ProjectTextPlanStep}
    (coherent : Coherent plan.toProjectTextPlanBody past (before ++ active :: after))
    (step : Moved active.toProjectTextPlanStepBody changed.toProjectTextPlanStepBody)
    (moved : PlanMoved plan.toProjectTextPlanBody next.toProjectTextPlanBody)
    (stands : Stands next.state next.activeStepId (before ++ changed :: after)) :
    ∃ earlier recent,
      replaceStep (past ++ (before ++ active :: after)) changed = earlier ++ recent ∧
        Moves operation plan past (before ++ active :: after) next earlier recent := by
  have stepId := step.change.identity.2.2.1
  have names := coherent.names
  rw [← List.append_assoc] at names
  refine ⟨past, before ++ changed :: after, ?_, .advanced rfl step moved stands⟩
  rw [← List.append_assoc, replaceStep_at names stepId, List.append_assoc]

/-- The plan with the active step is not completed. -/
theorem Standing.live {state : ProjectTextPlanState} {activeStepId : Option JsString}
    {before after : List ProjectTextPlanStep} {active : ProjectTextPlanStep}
    (standing : Standing state activeStepId before active after) : state ≠ .completed := by
  rintro rfl
  exact standing.fits

/-- What the guard of an admission accepts. -/
theorem admissionGuard_eq_ok {plan : ProjectTextPlan} {step : ProjectTextPlanStep}
    {admission : ProjectTextPlanRunAdmission} :
    admissionGuard plan step admission = .ok () ↔ plan.state = .ready ∧
      plan.activeStepId = some step.stepId ∧ step.state = .ready ∧ step.run = none ∧
        plan.currentPlanRevision = step.planRevision ∧ admission.stepId = step.stepId ∧
          admission.stepRevision = step.revision := by
  simp only [admissionGuard, rejectIf_eq_ok, not_or, not_not]

/-- The body of an admitted step. -/
def admittedBody (admission : ProjectTextPlanRunAdmission) (content : JsString)
    (expectedThreadRevision : Int) (body : ProjectTextPlanStepBody) : ProjectTextPlanStepBody :=
  { body with
    state := .admitted
    sources := some admission.sources
    baseline := admission.baseline
    input := some ⟨content, admission.taskIdempotencyKey, expectedThreadRevision⟩
    run := some ⟨admission.runId, admission.stageAdmissionDigest, admission.contentDigest⟩ }

/-- An admission keeps the evidence of a step without a run. -/
theorem evidenceKept_admitted {step : ProjectTextPlanStepBody} {owner : ProjectTextPlanBody}
    (sound : SoundStep owner step) (absent : step.run = none)
    (admission : ProjectTextPlanRunAdmission) (content : JsString) (expectedThreadRevision : Int) :
    EvidenceKept step (admittedBody admission content expectedThreadRevision step) := by
  obtain ⟨noSources, noBaseline⟩ := sound.unrun absent
  obtain ⟨noInput, _⟩ := sound.valid.unrun absent
  refine ⟨?_, ?_, ?_, ?_, fun _ => rfl, fun _ => rfl, fun _ => rfl⟩
  · exact fun present => absurd noInput present
  · exact fun present => absurd noSources present
  · exact fun present => absurd noBaseline present
  · exact fun present => absurd absent present

/-- An admission moves the active step and the plan. -/
theorem moves_of_admission {operation : ProjectTextPlanOperation} {step : ProjectTextPlanStep}
    {admission : ProjectTextPlanRunAdmission} {content : JsString} {expectedThreadRevision : Int}
    {time : JsString} {checkpoint : ProjectTextPlanCheckpoint}
    (coherent : Coherent plan.toProjectTextPlanBody past current) (member : step ∈ past ++ current)
    (admitted : checkpointProjectTextPlanAdmission sha256 plan step admission content
      expectedThreadRevision time = .ok checkpoint) :
    ∃ earlier recent, replaceStep (past ++ current) checkpoint.step = earlier ++ recent ∧
      Moves operation plan past current checkpoint.plan earlier recent := by
  simp only [checkpointProjectTextPlanAdmission, bind_eq_ok, exists_unit, pure_eq_ok] at admitted
  obtain ⟨guarded, changed, stepped, next, updated, rfl⟩ := admitted
  obtain ⟨_, named, ready, absent, _, _, _⟩ := admissionGuard_eq_ok.mp guarded
  obtain ⟨before, after, rfl, standing⟩ := coherent.active member named
  have sound := coherent.sound step member
  obtain ⟨_, noTerminal⟩ := sound.valid.unrun absent
  have moved := moved_of_updateStep stepped
    (evidenceKept_admitted sound absent admission content expectedThreadRevision)
    (by simp [progressOf, absent, ready]) (by simp)
  obtain ⟨body, _, _⟩ := updateStep_eq_ok stepped
  obtain ⟨nextState, nextActive⟩ := state_of_updatePlan updated
  refine moves_of_active coherent moved
    (planMoved_of_updatePlan updated standing.live rfl (by simp)) ?_
  rw [nextState, nextActive]
  refine .active ⟨?_, standing.finished, standing.untouched, ?_, ?_⟩
  · rw [body]
    exact named
  · rw [body]
    intro succeeded
    cases succeeded
  · rw [body]
    exact ⟨by simp [updatedStep], noTerminal⟩

/-- What the guard of a result accepts. -/
theorem resultGuard_live {plan : ProjectTextPlan} {step : ProjectTextPlanStep}
    {result : ProjectTextPlanResultReference} (guarded : resultGuard plan step result = .ok ()) :
    plan.state ≠ .revoked ∧ step.run.map ProjectTextPlanStepRun.runId = some result.runId ∧
      step.kind = result.kind := by
  simp only [resultGuard, bind_eq_ok, exists_unit, rejectIf_eq_ok, not_or, not_not] at guarded
  exact guarded.1

/-- A result is evidence of a step. -/
theorem moves_of_result {operation : ProjectTextPlanOperation} {step : ProjectTextPlanStep}
    {result : ProjectTextPlanResultReference} {time : JsString}
    {checkpoint : ProjectTextPlanCheckpoint}
    (coherent : Coherent plan.toProjectTextPlanBody past current) (member : step ∈ past ++ current)
    (recorded : checkpointProjectTextPlanResult sha256 plan step result time = .ok checkpoint) :
    ∃ earlier recent, replaceStep (past ++ current) checkpoint.step = earlier ++ recent ∧
      Moves operation plan past current checkpoint.plan earlier recent := by
  simp only [checkpointProjectTextPlanResult, bind_eq_ok, exists_unit] at recorded
  obtain ⟨guarded, recorded⟩ := recorded
  obtain ⟨live, _, _⟩ := resultGuard_live guarded
  split_ifs at recorded with present
  · obtain rfl := pure_eq_ok.mp recorded
    exact moves_of_same coherent member
  · simp only [bind_eq_ok, pure_eq_ok] at recorded
    obtain ⟨changed, stepped, rfl⟩ := recorded
    have absent : step.result = none := not_not.mp present
    have moved := moved_of_updateStep stepped
      ⟨fun _ => rfl, fun _ => rfl, fun _ => rfl, fun _ => rfl, fun some => absurd absent some,
        fun _ => rfl, fun _ => rfl⟩ (by simp [progressOf, absent]) (fun _ => ⟨rfl, rfl⟩)
    obtain ⟨body, _, _⟩ := updateStep_eq_ok stepped
    refine ⟨_, _, replaceStep_append past current changed, .noted member moved live ?_ ?_ ?_⟩
    · rw [body]
      rfl
    · rw [body]
      rfl
    · rw [body]
      rfl

/-- What the guard of a selection accepts. -/
theorem selectionGuard_live {plan : ProjectTextPlan} {step : ProjectTextPlanStep}
    {selection : ProjectTextPlanSelectionReference}
    (guarded : selectionGuard plan step selection = .ok ()) :
    plan.state ≠ .revoked ∧
      ∃ result ∈ step.result, result.kind ≠ .brief ∧ selects selection result := by
  simp only [selectionGuard, bind_eq_ok, exists_unit, rejectIf_eq_ok, not_or] at guarded
  obtain ⟨⟨live, chosen⟩, _⟩ := guarded
  push Not at chosen
  exact ⟨live, chosen⟩

/-- What recording a selection makes of a step: nothing, or the step with the selection. -/
theorem checkpointProjectTextPlanSelection_eq_ok {step : ProjectTextPlanStep}
    {selection : ProjectTextPlanSelectionReference} {time : JsString}
    {checkpoint : ProjectTextPlanCheckpoint}
    (recorded : checkpointProjectTextPlanSelection sha256 plan step selection time =
      .ok checkpoint) :
    plan.state ≠ .revoked ∧ checkpoint.plan = plan ∧
      (step.selection ≠ none ∧ checkpoint.step = step ∨
        step.selection = none ∧ updateStep sha256 step
          (fun body => { body with selection := some selection }) time = .ok checkpoint.step) := by
  simp only [checkpointProjectTextPlanSelection, bind_eq_ok, exists_unit] at recorded
  obtain ⟨guarded, recorded⟩ := recorded
  refine ⟨(selectionGuard_live guarded).1, ?_⟩
  split_ifs at recorded with present
  · obtain rfl := pure_eq_ok.mp recorded
    exact ⟨rfl, .inl ⟨present, rfl⟩⟩
  · simp only [bind_eq_ok, pure_eq_ok] at recorded
    obtain ⟨changed, stepped, rfl⟩ := recorded
    exact ⟨rfl, .inr ⟨not_not.mp present, stepped⟩⟩

/-- A selection is evidence of a step. -/
theorem moves_of_selection {operation : ProjectTextPlanOperation} {step : ProjectTextPlanStep}
    {selection : ProjectTextPlanSelectionReference} {time : JsString}
    {checkpoint : ProjectTextPlanCheckpoint}
    (coherent : Coherent plan.toProjectTextPlanBody past current) (member : step ∈ past ++ current)
    (recorded : checkpointProjectTextPlanSelection sha256 plan step selection time =
      .ok checkpoint) :
    ∃ earlier recent, replaceStep (past ++ current) checkpoint.step = earlier ++ recent ∧
      Moves operation plan past current checkpoint.plan earlier recent := by
  obtain ⟨live, same, kept⟩ := checkpointProjectTextPlanSelection_eq_ok recorded
  rw [same]
  rcases kept with ⟨_, unchanged⟩ | ⟨absent, stepped⟩
  · rw [unchanged]
    exact moves_of_same coherent member
  · have moved := moved_of_updateStep stepped
      ⟨fun _ => rfl, fun _ => rfl, fun _ => rfl, fun _ => rfl, fun _ => rfl,
        fun some => absurd absent some, fun _ => rfl⟩ (by simp [progressOf, absent])
      (fun _ => ⟨rfl, rfl⟩)
    obtain ⟨body, _, _⟩ := updateStep_eq_ok stepped
    refine ⟨_, _, replaceStep_append past current checkpoint.step,
      .noted member moved live ?_ ?_ ?_⟩
    · rw [body]
      rfl
    · rw [body]
      rfl
    · rw [body]
      rfl

/-- What the guard of an automatic selection accepts. -/
theorem advanceGuard_eq_ok {plan : ProjectTextPlan} {step : ProjectTextPlanStep}
    {selection : ProjectTextPlanSelectionReference} :
    advanceGuard plan step selection = .ok () ↔ (selection.mode = .whenUnchanged ∧
      plan.state = .waitingSelection ∧ step.state = .waitingSelection ∧ step.runCompleted) ∧
        selectionGuard plan step selection = .ok () := by
  simp only [advanceGuard, bind_eq_ok, exists_unit, rejectIf_eq_ok, not_or, not_not]

/-- What an automatic selection was granted for. -/
theorem selectionAuthority_eq_ok {plan : ProjectTextPlan} {step : ProjectTextPlanStep} :
    selectionAuthority plan step = .ok () ↔ step.planRevision = plan.currentPlanRevision ∧
      plan.state = .waitingSelection ∧ plan.activeStepId = some step.stepId ∧
        step.state = .waitingSelection ∧ step.runCompleted := by
  simp only [selectionAuthority, rejectIf_eq_ok, not_or, not_not]

/-- The steps of the current revision are the current ones. -/
theorem Coherent.stepsOf (found : rows.plan = some plan) (split : rows.steps = past ++ current)
    (coherent : Coherent plan.toProjectTextPlanBody past current) :
    rows.stepsOf plan.currentPlanRevision = current := by
  have same := coherent.currentSteps found split
  rwa [ProjectTextPlanRows.currentSteps, found] at same

/-- An automatic selection moves the active step and the plan. -/
theorem moves_of_advance {operation : ProjectTextPlanOperation} {step : ProjectTextPlanStep}
    {selection : ProjectTextPlanSelectionReference} {time : JsString}
    {checkpoint : ProjectTextPlanCheckpoint} (found : rows.plan = some plan)
    (split : rows.steps = past ++ current)
    (coherent : Coherent plan.toProjectTextPlanBody past current) (member : step ∈ past ++ current)
    (authority : selectionAuthority plan step = .ok ())
    (advanced : advanceProjectTextPlanSelection sha256 plan step selection
      (rows.stepsOf step.planRevision) time = .ok checkpoint) :
    ∃ earlier recent, replaceStep (past ++ current) checkpoint.step = earlier ++ recent ∧
      Moves operation plan past current checkpoint.plan earlier recent := by
  obtain ⟨revision, _, named, waiting, _⟩ := selectionAuthority_eq_ok.mp authority
  rw [revision, coherent.stepsOf found split] at advanced
  simp only [advanceProjectTextPlanSelection, bind_eq_ok, exists_unit, pure_eq_ok] at advanced
  obtain ⟨_, noted, recorded, changed, stepped, next, updated, rfl⟩ := advanced
  obtain ⟨before, after, rfl, standing⟩ := coherent.active member named
  rw [nextReadyOf_standing coherent standing] at updated
  obtain ⟨_, _, kept⟩ := checkpointProjectTextPlanSelection_eq_ok recorded
  have selected : step.selection ≠ none → noted.step.selection = step.selection := by
    intro present
    rcases kept with ⟨_, unchanged⟩ | ⟨absent, _⟩
    · rw [unchanged]
    · exact absurd absent present
  have counted : (if step.selection = none then 0 else 1) ≤
      if noted.step.selection = none then 0 else 1 := by
    by_cases absent : step.selection = none
    · simp [absent]
    · rw [selected absent]
  have further : progressOf step.toProjectTextPlanStepBody <
      progressOf { step.toProjectTextPlanStepBody with
        selection := noted.step.selection, state := .succeeded } := by
    simp only [progressOf, waiting, if_true, reduceCtorEq, if_false]
    omega
  have moved := moved_of_updateStep stepped
    ⟨fun _ => rfl, fun _ => rfl, fun _ => rfl, fun _ => rfl, fun _ => rfl, selected, fun _ => rfl⟩
    further (fun _ => ⟨rfl, rfl⟩)
  obtain ⟨body, _, _⟩ := updateStep_eq_ok stepped
  obtain ⟨nextState, nextActive⟩ := state_of_updatePlan updated
  have succeeded : changed.state = .succeeded := by
    rw [body]
    rfl
  refine moves_of_active coherent moved ?_ ?_
  · exact planMoved_of_updatePlan updated standing.live rfl (advanceBody_wake _ _).2
  · rw [nextState, nextActive]
    exact stands_advanced plan.toProjectTextPlanBody standing succeeded

/-- What the guard of a terminal event accepts. -/
theorem terminalGuard_active {plan : ProjectTextPlan} {step : ProjectTextPlanStep}
    {terminal : ProjectTextPlanTerminal} (guarded : terminalGuard plan step terminal = .ok ()) :
    step.run ≠ none ∧ plan.activeStepId = some step.stepId := by
  simp only [terminalGuard, bind_eq_ok, exists_unit, rejectIf_eq_ok, not_or, not_not] at guarded
  exact guarded.1

/-- A plan after a terminal event stands at the same step or goes on. -/
theorem stands_terminal {plan : ProjectTextPlan} {terminal : ProjectTextPlanTerminal}
    {before after : List ProjectTextPlanStep} {step changed : ProjectTextPlanStep}
    {patch : ProjectTextPlanBody → ProjectTextPlanBody} {state : ProjectTextPlanStepState}
    (made : terminalChange plan step terminal (before ++ step :: after) = (patch, state))
    (behind : nextReadyOf (before ++ step :: after) step = after.head?)
    (alive : plan.state ≠ .revoked)
    (standing : Standing plan.state plan.activeStepId before step after)
    (stepId : changed.stepId = step.stepId) (kind : changed.kind = step.kind)
    (turned : changed.state = state) :
    Stands (patch plan.toProjectTextPlanBody).state (patch plan.toProjectTextPlanBody).activeStepId
      (before ++ changed :: after) := by
  have named : plan.activeStepId = some changed.stepId := by
    rw [stepId]
    exact standing.named
  have remains : ∀ {now : ProjectTextPlanState}, (changed.state = .succeeded → step.kind = .brief) →
      FitsActive changed.toProjectTextPlanStepBody now →
        Stands now plan.activeStepId (before ++ changed :: after) := by
    intro now brief fits
    exact .active ⟨named, standing.finished, standing.untouched,
      fun succeeded => kind.trans (brief succeeded), fits⟩
  by_cases running : plan.state ≠ .revoked ∧ plan.state ≠ .paused
  · rw [terminalChange, if_pos running] at made
    by_cases failed : terminal.status ≠ .completed ∨ step.result = none
    · rw [if_pos failed] at made
      obtain ⟨rfl, rfl⟩ := Prod.mk.inj made
      refine remains ?_ trivial
      rw [turned]
      intro succeeded
      cases succeeded
    · rw [if_neg failed] at made
      by_cases brief : step.kind = .brief
      · rw [if_pos brief] at made
        obtain ⟨rfl, rfl⟩ := Prod.mk.inj made
        rw [behind]
        exact stands_advanced plan.toProjectTextPlanBody standing turned
      · rw [if_neg brief] at made
        obtain ⟨rfl, rfl⟩ := Prod.mk.inj made
        refine remains ?_ turned
        rw [turned]
        intro succeeded
        cases succeeded
  · have paused : plan.state = .paused := by tauto
    have fits : FitsActive changed.toProjectTextPlanStepBody plan.state := by
      rw [paused]
      trivial
    rw [terminalChange, if_neg running] at made
    by_cases completed : terminal.status = .completed ∧ step.result ≠ none
    · rw [if_pos completed] at made
      obtain ⟨rfl, rfl⟩ := Prod.mk.inj made
      have brief : changed.state = .succeeded → step.kind = .brief := by
        rw [turned]
        intro succeeded
        by_contra other
        rw [if_neg other] at succeeded
        cases succeeded
      by_cases last : plan.state = .paused ∧ step.kind = .brief ∧
          nextReadyOf (before ++ step :: after) step = none
      · simp only [if_pos last]
        obtain ⟨_, isBrief, ended⟩ := last
        rw [behind] at ended
        rw [List.head?_eq_none_iff.mp ended]
        refine .completed rfl ?_
        intro other member
        rcases List.mem_append.mp member with front | here
        · exact standing.finished other front
        · rw [List.mem_singleton.mp here, turned, if_pos isBrief]
      · simp only [if_neg last]
        exact remains brief fits
    · rw [if_neg completed] at made
      obtain ⟨rfl, rfl⟩ := Prod.mk.inj made
      refine remains ?_ fits
      rw [turned]
      exact standing.brief

/-- What a patch leaves of a plan, apart from its state. -/
structure KeepsPlan (patch : ProjectTextPlanBody → ProjectTextPlanBody)
    (body : ProjectTextPlanBody) : Prop where
  identity : (patch body).planId = body.planId ∧ (patch body).profileId = body.profileId ∧
    (patch body).projectId = body.projectId ∧ (patch body).threadId = body.threadId ∧
      (patch body).bindingId = body.bindingId ∧ (patch body).workspaceId = body.workspaceId ∧
        (patch body).createdAt = body.createdAt
  owner : (patch body).owner = body.owner
  wake : body.wakeRevision ≤ (patch body).wakeRevision ∧
    (patch body).wakeRevision ≤ body.wakeRevision + 1

/-- An advance keeps what identifies a plan. -/
theorem keepsPlan_advanceBody (next : Option ProjectTextPlanStep) (body : ProjectTextPlanBody) :
    KeepsPlan (advanceBody next) body :=
  ⟨⟨rfl, rfl, rfl, rfl, rfl, rfl, rfl⟩, rfl, advanceBody_wake next body⟩

/-- A terminal event keeps what identifies a plan, and its revision. -/
theorem keepsPlan_terminalChange (plan : ProjectTextPlan) (step : ProjectTextPlanStep)
    (terminal : ProjectTextPlanTerminal) (steps : List ProjectTextPlanStep)
    (body : ProjectTextPlanBody) :
    KeepsPlan (terminalChange plan step terminal steps).1 body ∧
      ((terminalChange plan step terminal steps).1 body).currentPlanRevision =
        body.currentPlanRevision := by
  have unchanged : body.wakeRevision ≤ body.wakeRevision ∧
      body.wakeRevision ≤ body.wakeRevision + 1 := by omega
  unfold terminalChange
  split_ifs
  · exact ⟨⟨⟨rfl, rfl, rfl, rfl, rfl, rfl, rfl⟩, rfl, unchanged⟩, rfl⟩
  · exact ⟨keepsPlan_advanceBody _ body, rfl⟩
  all_goals exact ⟨⟨⟨rfl, rfl, rfl, rfl, rfl, rfl, rfl⟩, rfl, unchanged⟩, rfl⟩

/-- A step without a terminal event has not succeeded. -/
theorem ValidStep.unfinished {step : ProjectTextPlanStepBody} (valid : ValidStep step)
    (absent : step.terminal = none) : step.state ≠ .succeeded := by
  intro succeeded
  have completed := valid.ended_of_succeeded succeeded
  rw [ProjectTextPlanStepBody.runCompleted, absent] at completed
  cases completed

/-- A step is further behind its terminal event. -/
theorem progressOf_terminal {step : ProjectTextPlanStepBody} (valid : ValidStep step)
    (absent : step.terminal = none) (terminal : ProjectTextPlanTerminal)
    (state : ProjectTextPlanStepState) :
    progressOf step < progressOf { step with terminal := some terminal, state := state } := by
  have unfinished := valid.unfinished absent
  simp only [progressOf, absent, unfinished, if_true, if_false, reduceCtorEq]
  omega

/-- What recording a terminal event makes of a plan and a step. -/
theorem checkpointProjectTextPlanTerminal_eq_ok {step : ProjectTextPlanStep}
    {terminal : ProjectTextPlanTerminal} {steps : List ProjectTextPlanStep} {time : JsString}
    {checkpoint : ProjectTextPlanCheckpoint}
    (recorded : checkpointProjectTextPlanTerminal sha256 plan step terminal steps time =
      .ok checkpoint) :
    terminalGuard plan step terminal = .ok () ∧
      (step.terminal ≠ none ∧ checkpoint = ⟨plan, step⟩ ∨
        step.terminal = none ∧
          updatePlan sha256 plan (terminalChange plan step terminal steps).1 time =
            .ok checkpoint.plan ∧
          updateStep sha256 step (fun body => { body with
            terminal := some terminal
            state := (terminalChange plan step terminal steps).2 }) time =
            .ok checkpoint.step) := by
  simp only [checkpointProjectTextPlanTerminal, bind_eq_ok, exists_unit] at recorded
  obtain ⟨guarded, recorded⟩ := recorded
  refine ⟨guarded, ?_⟩
  split_ifs at recorded with present
  · exact .inl ⟨present, (pure_eq_ok.mp recorded).symm⟩
  · simp only [bind_eq_ok, pure_eq_ok] at recorded
    obtain ⟨next, updated, changed, stepped, rfl⟩ := recorded
    exact .inr ⟨not_not.mp present, updated, stepped⟩

/-- A terminal event moves the active step and the plan. -/
theorem moves_of_terminal {operation : ProjectTextPlanOperation} {step : ProjectTextPlanStep}
    {terminal : ProjectTextPlanTerminal} {time : JsString}
    {checkpoint : ProjectTextPlanCheckpoint} (found : rows.plan = some plan)
    (split : rows.steps = past ++ current)
    (coherent : Coherent plan.toProjectTextPlanBody past current) (member : step ∈ past ++ current)
    (recorded : checkpointProjectTextPlanTerminal sha256 plan step terminal rows.currentSteps time =
      .ok checkpoint) :
    ∃ earlier recent, replaceStep (past ++ current) checkpoint.step = earlier ++ recent ∧
      Moves operation plan past current checkpoint.plan earlier recent := by
  rw [coherent.currentSteps found split] at recorded
  obtain ⟨guarded, kept⟩ := checkpointProjectTextPlanTerminal_eq_ok recorded
  rcases kept with ⟨_, rfl⟩ | ⟨absent, updated, stepped⟩
  · exact moves_of_same coherent member
  · obtain ⟨_, named⟩ := terminalGuard_active guarded
    obtain ⟨before, after, rfl, standing⟩ := coherent.active member named
    have valid := (coherent.sound step member).valid
    obtain ⟨_, _, changed⟩ := updatePlan_eq_ok updated
    obtain ⟨keeps, current⟩ := keepsPlan_terminalChange plan step terminal
      (before ++ step :: after) plan.toProjectTextPlanBody
    have moved := moved_of_updateStep stepped
      ⟨fun _ => rfl, fun _ => rfl, fun _ => rfl, fun _ => rfl, fun _ => rfl, fun _ => rfl,
        fun some => absurd absent some⟩ (progressOf_terminal valid absent _ _)
      (fun _ => ⟨rfl, rfl⟩)
    obtain ⟨body, _, change⟩ := updateStep_eq_ok stepped
    obtain ⟨_, _, stepId, _, kind, _⟩ := change.identity
    obtain ⟨nextState, nextActive⟩ := state_of_updatePlan updated
    refine moves_of_active coherent moved
      (planMoved_of_updatePlan updated standing.live current keeps.wake.2) ?_
    rw [nextState, nextActive]
    refine stands_terminal (Prod.eta _).symm (nextReadyOf_standing coherent standing)
      changed.alive standing stepId kind ?_
    rw [body]
    rfl

/-- What the guard of a pause by the system accepts. -/
theorem systemPauseGuard_eq_ok {plan : ProjectTextPlan} {step : ProjectTextPlanStep} :
    systemPauseGuard plan step = .ok () ↔ plan.state ≠ .revoked ∧ plan.state ≠ .completed ∧
      plan.activeStepId = some step.stepId ∧ step.planId = plan.planId ∧
        step.planRevision = plan.currentPlanRevision := by
  simp only [systemPauseGuard, rejectIf_eq_ok, not_or, not_not]

/-- A pause by the system moves the plan only. -/
theorem moves_of_systemPause {operation : ProjectTextPlanOperation} {step : ProjectTextPlanStep}
    {reason : ProjectTextPlanPauseReason} {time : JsString}
    {checkpoint : ProjectTextPlanCheckpoint}
    (coherent : Coherent plan.toProjectTextPlanBody past current) (member : step ∈ past ++ current)
    (paused : checkpointProjectTextPlanSystemPause sha256 plan step reason time =
      .ok checkpoint) :
    ∃ earlier recent, replaceStep (past ++ current) checkpoint.step = earlier ++ recent ∧
      Moves operation plan past current checkpoint.plan earlier recent := by
  simp only [checkpointProjectTextPlanSystemPause, bind_eq_ok, exists_unit] at paused
  obtain ⟨guarded, paused⟩ := paused
  split_ifs at paused
  · obtain rfl := pure_eq_ok.mp paused
    exact moves_of_same coherent member
  · simp only [bind_eq_ok, pure_eq_ok] at paused
    obtain ⟨next, updated, rfl⟩ := paused
    obtain ⟨_, live, named, _, _⟩ := systemPauseGuard_eq_ok.mp guarded
    obtain ⟨before, after, rfl, standing⟩ := coherent.active member named
    obtain ⟨nextState, nextActive⟩ := state_of_updatePlan updated
    refine ⟨past, before ++ step :: after, replaceStep_self coherent.names member,
      .stopped (planMoved_of_updatePlan updated live rfl (by simp)) ?_⟩
    rw [nextState, nextActive]
    exact .active ⟨named, standing.finished, standing.untouched, standing.brief, trivial⟩

end Operations

/-- What the slots of a first revision are. -/
theorem firstSlots_eq_ok {definition : ProjectTextPlanRevision} {stepIds : List JsString}
    {slots : List ProjectTextPlanSlot} :
    firstSlots definition stepIds = .ok slots ↔ slots = revisionSlots definition ∧
      slots.length ≠ 0 ∧ slots.length ≤ 18 ∧ stepIds.length = slots.length ∧ stepIds.Nodup := by
  simp only [firstSlots, projectTextPlanStepKinds, bind_eq_ok, exists_unit, rejectIf_eq_ok,
    pure_eq_ok, not_or, not_not, not_lt]
  constructor
  · rintro ⟨_, ⟨⟨some, few⟩, rfl⟩, ⟨paired, distinct⟩, rfl⟩
    exact ⟨rfl, some, few, paired, distinct⟩
  · rintro ⟨rfl, some, few, paired, distinct⟩
    exact ⟨_, ⟨⟨some, few⟩, rfl⟩, ⟨paired, distinct⟩, rfl⟩

/-- A plan with new steps is neither completed nor revoked. -/
theorem freshState_live (unavailable : Bool) :
    freshState unavailable ≠ .completed ∧ freshState unavailable ≠ .revoked := by
  cases unavailable
  · decide
  · decide

/-- What a start makes of a definition. -/
structure Started (definition : ProjectTextPlanRevision) (plan : ProjectTextPlan)
    (fresh : List ProjectTextPlanStep) : Prop where
  coherent : Coherent plan.toProjectTextPlanBody [] fresh
  profile : plan.profileId = definition.installation.profileId
  live : plan.state ≠ .completed ∧ plan.state ≠ .revoked
  made : Fresh definition (fun _ => 1) (revisionSlots definition) fresh

/-- A start makes a plan and its first steps. -/
theorem started_of_start {input : ProjectTextPlanControlInput} {change : ProjectTextPlanChange}
    (started : startProjectTextPlan sha256 input = .ok change) :
    input.previous = none ∧ Started input.definition change.plan change.steps := by
  simp only [startProjectTextPlan, createProjectTextPlanSteps, startGuard, bind_eq_ok, exists_unit,
    rejectIf_eq_ok, pure_eq_ok, not_or, not_not] at started
  obtain ⟨⟨_, absent, _, _, revision, _⟩, fresh, ⟨slots, first, created⟩, plan, made, rfl⟩ :=
    started
  obtain ⟨rfl, some, _, paired, distinct⟩ := firstSlots_eq_ok.mp first
  obtain ⟨steps, names, _⟩ := fresh_of_createSteps created paired
  obtain ⟨body, valid⟩ := createProjectTextPlan_eq_ok made
  have present : fresh ≠ [] := by
    intro none
    have counted := congrArg List.length steps.slots
    rw [none] at counted
    exact some counted.symm
  have stands := stands_fresh steps present input.authorizationUnavailable
  rw [← body] at valid
  refine ⟨absent, ⟨valid, ?_, by simp, ?_, ?_, by simp, steps.ordered, ?_, ?_⟩, ?_, ?_, steps⟩
  · rw [List.nil_append]
    refine steps.sound ?_ ?_
    · rw [body]
    · intro _
      rw [revision]
  · intro step member
    rw [steps.made step member, body]
    exact revision
  · rw [List.nil_append, names]
    exact distinct
  · rw [body]
  · rw [body]
    exact stands
  · rw [body]
  · rw [body]
    exact freshState_live input.authorizationUnavailable

/-- What an operation makes of rows. -/
inductive RowsEffect (operation : ProjectTextPlanOperation) (rows : ProjectTextPlanRows) :
    ProjectTextPlanRows → Prop
  /-- A plan is started. -/
  | started {request plan revisions} {fresh : List ProjectTextPlanStep}
      (asked : operation = .control .start request) (absent : rows.plan = none)
      (started : Started request.definition plan fresh) :
      RowsEffect operation rows ⟨some plan, revisions, fresh⟩
  /-- The rows of the plan move. -/
  | moved {plan next revisions} {past current earlier recent : List ProjectTextPlanStep}
      (found : rows.plan = some plan) (split : rows.steps = past ++ current)
      (coherent : Coherent plan.toProjectTextPlanBody past current)
      (moves : Moves operation plan past current next earlier recent) :
      RowsEffect operation rows ⟨some next, revisions, earlier ++ recent⟩

/-- A control that is committed is applied, and its steps are written. -/
theorem commitControl_eq_ok {kind : ProjectTextPlanControl}
    {request : ProjectTextPlanControlRequest} {rows after : ProjectTextPlanRows} :
    (commitControl sha256 kind request).run rows = (.ok (), after) ↔
      ∃ change, applyProjectTextPlanControl sha256 kind (rows.controlInput request) = .ok change ∧
        ∃ steps, writeSteps rows.currentSteps change.steps rows.steps = .ok steps ∧
          after = ⟨some change.plan, rows.writeRevision request.definition, steps⟩ := by
  simp only [commitControl, Program.run_read_bind, id, Program.run_check_bind_eq_ok,
    Program.run_update, Prod.mk.injEq, true_and]
  simp only [eq_comm]

/-- A checkpoint that is committed is one of the located step. -/
theorem commitCheckpoint_eq_ok {stepId : JsString}
    {checkpoint : ProjectTextPlanRows → ProjectTextPlan → ProjectTextPlanStep →
      Checked ProjectTextPlanCheckpoint} {rows after : ProjectTextPlanRows} :
    (commitCheckpoint stepId checkpoint).run rows = (.ok (), after) ↔
      ∃ located, rows.locate stepId = .ok located ∧
        ∃ next, checkpoint rows located.1 located.2 = .ok next ∧
          after = { rows with
            plan := some next.plan, steps := replaceStep rows.steps next.step } := by
  simp only [commitCheckpoint, Program.run_read_bind, id, Program.run_check_bind_eq_ok,
    Program.run_update, Prod.mk.injEq, true_and]
  simp only [eq_comm]

/-- An operation that is rejected leaves the rows as they are. -/
theorem performPlan_atomic (operation : ProjectTextPlanOperation) :
    Program.Atomic (performPlan sha256 operation) := by
  have control (kind : ProjectTextPlanControl) (request : ProjectTextPlanControlRequest) :
      Program.Atomic (commitControl sha256 kind request) := by
    unfold commitControl
    refine (Program.readOnly_read _).bind_atomic fun rows => ?_
    refine (Program.readOnly_check _).bind_atomic fun change => ?_
    refine (Program.readOnly_check _).bind_atomic fun steps => ?_
    exact (Program.total_update _).atomic
  have checkpoint (stepId : JsString) (checkpoint : ProjectTextPlanRows → ProjectTextPlan →
      ProjectTextPlanStep → Checked ProjectTextPlanCheckpoint) :
      Program.Atomic (commitCheckpoint stepId checkpoint) := by
    unfold commitCheckpoint
    refine (Program.readOnly_read _).bind_atomic fun rows => ?_
    refine (Program.readOnly_check _).bind_atomic fun located => ?_
    refine (Program.readOnly_check _).bind_atomic fun next => ?_
    exact (Program.total_update _).atomic
  cases operation with
  | control kind request => exact control kind request
  | admission => exact checkpoint _ _
  | result => exact checkpoint _ _
  | terminal => exact checkpoint _ _
  | selection => exact checkpoint _ _
  | advance => exact checkpoint _ _
  | systemPause => exact checkpoint _ _

/-- A control moves the rows. -/
theorem commitControl_effect {kind : ProjectTextPlanControl}
    {request : ProjectTextPlanControlRequest} {rows after : ProjectTextPlanRows}
    (consistent : Consistent rows)
    (ran : (commitControl sha256 kind request).run rows = (.ok (), after)) :
    RowsEffect (.control kind request) rows after := by
  obtain ⟨change, applied, steps, written, rfl⟩ := commitControl_eq_ok.mp ran
  cases found : rows.plan with
  | none =>
    have empty : rows.steps = [] := by simpa [Consistent, found] using consistent
    have nothing : (rows.controlInput request).previous = none := found
    have unguarded {plan} : previousGuard (rows.controlInput request) ≠ .ok plan := by
      intro guarded
      have present := (previousGuard_eq_ok.mp guarded).2.1
      rw [nothing] at present
      cases present
    cases kind with
    | start =>
      obtain ⟨_, started⟩ := started_of_start applied
      have free : ∀ step ∈ change.steps, step.stepId ∉ stepNames rows.currentSteps := by
        intro step _
        simp [ProjectTextPlanRows.currentSteps, found]
      rw [empty] at written
      have unnamed : (stepNames []).Nodup := List.nodup_nil
      obtain ⟨rfl, _⟩ := writeSteps_fresh free unnamed written
      exact .started rfl found started
    | pause =>
      simp only [applyProjectTextPlanControl, stopProjectTextPlan, bind_eq_ok] at applied
      exact absurd applied.choose_spec.1 unguarded
    | revoke =>
      simp only [applyProjectTextPlanControl, stopProjectTextPlan, bind_eq_ok] at applied
      exact absurd applied.choose_spec.1 unguarded
    | resume =>
      simp only [applyProjectTextPlanControl, remakeProjectTextPlan, bind_eq_ok] at applied
      exact absurd applied.choose_spec.1 unguarded
    | reviseRemaining =>
      simp only [applyProjectTextPlanControl, remakeProjectTextPlan, bind_eq_ok] at applied
      exact absurd applied.choose_spec.1 unguarded
    | «continue» =>
      simp only [applyProjectTextPlanControl, continueProjectTextPlan, bind_eq_ok] at applied
      exact absurd applied.choose_spec.1 unguarded
  | some plan =>
    obtain ⟨past, current, split, coherent⟩ := by
      simpa only [Consistent, found] using consistent
    have moved {earlier recent : List ProjectTextPlanStep} (same : steps = earlier ++ recent)
        (moves : Moves (.control kind request) plan past current change.plan earlier recent) :
        RowsEffect (.control kind request) rows
          ⟨some change.plan, rows.writeRevision request.definition, steps⟩ := by
      rw [same]
      exact .moved found split coherent moves
    cases kind with
    | start =>
      obtain ⟨absent, _⟩ := started_of_start applied
      change rows.plan = none at absent
      rw [found] at absent
      cases absent
    | pause =>
      obtain ⟨_, _, same, moves⟩ :=
        moves_of_stop found split coherent (.inl rfl) applied written
      exact moved same moves
    | revoke =>
      obtain ⟨_, _, same, moves⟩ :=
        moves_of_stop found split coherent (.inr rfl) applied written
      exact moved same moves
    | resume =>
      obtain ⟨_, _, same, moves⟩ :=
        moves_of_remake (.inl rfl) found split coherent applied written
      exact moved same moves
    | reviseRemaining =>
      obtain ⟨_, _, same, moves⟩ :=
        moves_of_remake (.inr rfl) found split coherent applied written
      exact moved same moves
    | «continue» =>
      obtain ⟨_, _, same, moves⟩ := moves_of_continue found split coherent applied written
      exact moved same moves

/-- A checkpoint whose step and plan move moves the rows. -/
theorem commitCheckpoint_effect {operation : ProjectTextPlanOperation} {stepId : JsString}
    {checkpoint : ProjectTextPlanRows → ProjectTextPlan → ProjectTextPlanStep →
      Checked ProjectTextPlanCheckpoint} {rows after : ProjectTextPlanRows}
    (consistent : Consistent rows)
    (moves : ∀ {plan : ProjectTextPlan} {past current : List ProjectTextPlanStep}
      {step : ProjectTextPlanStep} {next : ProjectTextPlanCheckpoint}, rows.plan = some plan →
        rows.steps = past ++ current → Coherent plan.toProjectTextPlanBody past current →
          step ∈ past ++ current → checkpoint rows plan step = .ok next →
            ∃ earlier recent, replaceStep (past ++ current) next.step = earlier ++ recent ∧
              Moves operation plan past current next.plan earlier recent)
    (ran : (commitCheckpoint stepId checkpoint).run rows = (.ok (), after)) :
    RowsEffect operation rows after := by
  obtain ⟨located, found, next, made, rfl⟩ := commitCheckpoint_eq_ok.mp ran
  obtain ⟨present, member⟩ := locate_eq_ok found
  obtain ⟨past, current, split, coherent⟩ := by
    simpa only [Consistent, present] using consistent
  rw [split] at member
  obtain ⟨earlier, recent, placed, moved⟩ := moves present split coherent member made
  rw [split, placed]
  exact .moved present split coherent moved

/-- Every operation that is accepted moves the rows. -/
theorem performPlan_effect {operation : ProjectTextPlanOperation}
    {rows after : ProjectTextPlanRows} (consistent : Consistent rows)
    (ran : (performPlan sha256 operation).run rows = (.ok (), after)) :
    RowsEffect operation rows after := by
  cases operation with
  | control kind request => exact commitControl_effect consistent ran
  | admission stepId admission content expectedThreadRevision time =>
    rw [performPlan] at ran
    refine commitCheckpoint_effect consistent ?_ ran
    intro plan past current step next _ _ coherent member made
    exact moves_of_admission coherent member made
  | result stepId result time =>
    rw [performPlan] at ran
    refine commitCheckpoint_effect consistent ?_ ran
    intro plan past current step next _ _ coherent member made
    exact moves_of_result coherent member made
  | terminal stepId terminal time =>
    rw [performPlan] at ran
    refine commitCheckpoint_effect consistent ?_ ran
    intro plan past current step next found split coherent member made
    exact moves_of_terminal found split coherent member made
  | selection stepId selection time =>
    rw [performPlan] at ran
    refine commitCheckpoint_effect consistent ?_ ran
    intro plan past current step next _ _ coherent member made
    exact moves_of_selection coherent member made
  | advance stepId selection time =>
    rw [performPlan] at ran
    refine commitCheckpoint_effect consistent ?_ ran
    intro plan past current step next found split coherent member made
    simp only [bind_eq_ok, exists_unit] at made
    exact moves_of_advance found split coherent member made.1 made.2
  | systemPause stepId reason time =>
    rw [performPlan] at ran
    refine commitCheckpoint_effect consistent ?_ ran
    intro plan past current step next _ _ coherent member made
    exact moves_of_systemPause coherent member made

/-- What an operation makes of consistent rows is consistent. -/
theorem RowsEffect.consistent {operation : ProjectTextPlanOperation}
    {rows after : ProjectTextPlanRows} (effect : RowsEffect operation rows after) :
    Consistent after := by
  cases effect with
  | started asked absent started => exact ⟨[], _, rfl, started.coherent⟩
  | moved found split coherent moves => exact ⟨_, _, rfl, moves.coherent coherent⟩

/-- The state behind an operation: moved if it was accepted, else the same. -/
theorem performPlan_after {operation : ProjectTextPlanOperation} {rows : ProjectTextPlanRows}
    (consistent : Consistent rows) :
    RowsEffect operation rows ((performPlan sha256 operation).run rows).2 ∨
      ((performPlan sha256 operation).run rows).2 = rows := by
  cases ran : (performPlan sha256 operation).run rows with
  | mk outcome after =>
    cases outcome with
    | ok => exact .inl (performPlan_effect consistent ran)
    | error failure =>
      have kept : Program.Atomic (performPlan sha256 operation) := performPlan_atomic operation
      have same := kept rows failure (by rw [ran])
      rw [ran] at same
      exact .inr same

/-- Every operation keeps the rows consistent. -/
theorem performPlan_consistent (operation : ProjectTextPlanOperation) (rows : ProjectTextPlanRows)
    (consistent : Consistent rows) :
    Consistent ((performPlan sha256 operation).run rows).2 := by
  rcases performPlan_after consistent with effect | same
  · exact effect.consistent
  · rw [same]
    exact consistent

/-- No rows are consistent. -/
theorem consistent_empty : Consistent .empty := rfl

end Crewon.Verif.ProjectTextPlan
