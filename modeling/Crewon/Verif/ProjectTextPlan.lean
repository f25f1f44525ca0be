import Crewon.Lib.Trace
import Crewon.Verif.ProjectTextPlanAcceptance
import Crewon.Verif.ProjectTextPlanWrites

/-!
# Runs of a text plan

Along every run an operation whose guards admit what it finds is accepted exactly if nothing hinders
it; at most one run of the plan is open, evidence stays, and a plan that is revoked or completed
stays so.
-/

namespace Crewon.Verif.ProjectTextPlan

open Crewon.Js Crewon.Checked Crewon.Lib Crewon.Domain Crewon.Store Crewon.Verif.ExtensionJson

variable {sha256 : JsString → JsString}

/-- A checkpoint that is accepted is committed. -/
theorem commitCheckpoint_of_accepted {rows : ProjectTextPlanRows} {stepId : JsString}
    {checkpoint : ProjectTextPlanRows → ProjectTextPlan → ProjectTextPlanStep →
      Checked ProjectTextPlanCheckpoint} {located : ProjectTextPlan × ProjectTextPlanStep}
    (found : rows.locate stepId = .ok located)
    (made : ∃ next, checkpoint rows located.1 located.2 = .ok next) :
    ((commitCheckpoint stepId checkpoint).run rows).1 = .ok () := by
  obtain ⟨next, accepted⟩ := made
  rw [commitCheckpoint_eq_ok.mpr ⟨located, found, next, accepted, rfl⟩]

/-- A control that is accepted and written is committed. -/
theorem commitControl_of_accepted {rows : ProjectTextPlanRows} {kind : ProjectTextPlanControl}
    {request : ProjectTextPlanControlRequest}
    (made : ∃ change, applyProjectTextPlanControl sha256 kind (rows.controlInput request) =
      .ok change ∧ ∃ steps, writeSteps rows.currentSteps change.steps rows.steps = .ok steps) :
    ((commitControl sha256 kind request).run rows).1 = .ok () := by
  obtain ⟨change, applied, steps, written⟩ := made
  rw [commitControl_eq_ok.mpr ⟨change, applied, steps, written, rfl⟩]

/-- A control whose guards admit the plan is accepted, if nothing hinders it. -/
theorem control_accepted {rows : ProjectTextPlanRows} {kind : ProjectTextPlanControl}
    {request : ProjectTextPlanControlRequest} (hash : ∀ text, isDigest (sha256 text) = true)
    (consistent : Consistent rows) (admissible : Admissible rows (.control kind request))
    (guarded : controlGuard rows request kind = .ok ())
    (free : Unhindered rows (.control kind request)) :
    ∃ change, applyProjectTextPlanControl sha256 kind (rows.controlInput request) = .ok change ∧
      ∃ steps, writeSteps rows.currentSteps change.steps rows.steps = .ok steps := by
  obtain ⟨parsed, named, intime⟩ := admissible
  -- every control but the start finds the plan that its guard admits
  have later {located : ProjectTextPlan × ProjectTextPlanRevision} (other : kind ≠ .start)
      (previous : previousGuard (rows.controlInput request) = .ok located) :
      ∃ plan past current, rows.plan = some plan ∧ rows.steps = past ++ current ∧
        Coherent plan.toProjectTextPlanBody past current ∧ plan.revision < maxSafeInteger := by
    have found : rows.plan = some located.1 := (previousGuard_eq_ok.mp previous).2.1
    obtain ⟨past, current, split, coherent⟩ := by
      simpa only [Consistent, found] using consistent
    exact ⟨_, past, current, found, split, coherent, (free.changeable other _ found).2⟩
  cases kind with
  | start =>
    have allowed := guarded
    simp only [controlGuard, startGuard, bind_eq_ok, exists_unit, rejectIf_eq_ok, not_or,
      not_not] at allowed
    have absent : rows.plan = none := allowed.1.2.1
    have empty : rows.steps = [] := by simpa only [Consistent, absent] using consistent
    exact start_accepted hash absent empty parsed named intime.checked (free.profile request rfl)
      guarded
  | pause =>
    simp only [controlGuard, bind_eq_ok, exists_unit, rejectIf_eq_ok] at guarded
    obtain ⟨located, previous, same, live⟩ := guarded
    obtain ⟨plan, past, current, found, split, coherent, below⟩ := later (by decide) previous
    exact stop_accepted hash found split coherent intime below previous same live (by simp)
      (.inl rfl)
  | revoke =>
    simp only [controlGuard, bind_eq_ok, exists_unit, rejectIf_eq_ok] at guarded
    obtain ⟨located, previous, same, live⟩ := guarded
    obtain ⟨plan, past, current, found, split, coherent, below⟩ := later (by decide) previous
    exact stop_accepted hash found split coherent intime below previous same live (by simp)
      (.inr rfl)
  | resume =>
    have allowed := guarded
    simp only [controlGuard, remakeGuard, bind_eq_ok, exists_unit] at allowed
    obtain ⟨located, previous, _⟩ := allowed
    obtain ⟨plan, past, current, found, split, coherent, below⟩ := later (by decide) previous
    exact remake_accepted hash found split coherent parsed named intime below guarded
  | reviseRemaining =>
    have allowed := guarded
    simp only [controlGuard, remakeGuard, bind_eq_ok, exists_unit] at allowed
    obtain ⟨located, previous, _⟩ := allowed
    obtain ⟨plan, past, current, found, split, coherent, below⟩ := later (by decide) previous
    exact remake_accepted hash found split coherent parsed named intime below guarded
  | «continue» =>
    have allowed := guarded
    simp only [controlGuard, bind_eq_ok] at allowed
    obtain ⟨located, previous, _⟩ := allowed
    obtain ⟨plan, past, current, found, split, coherent, below⟩ := later (by decide) previous
    exact continue_accepted hash found split coherent intime below guarded

/-- A checkpoint that is accepted wherever its step is found is committed. -/
theorem checkpoint_accepted {rows : ProjectTextPlanRows} {stepId time : JsString}
    {guard : ProjectTextPlan → ProjectTextPlanStep → Checked Unit}
    {checkpoint : ProjectTextPlanRows → ProjectTextPlan → ProjectTextPlanStep →
      Checked ProjectTextPlanCheckpoint} (consistent : Consistent rows) (intime : InTime rows time)
    (guarded : (rows.locate stepId >>= fun located => guard located.1 located.2) = .ok ())
    (accepted : ∀ {plan : ProjectTextPlan} {past current : List ProjectTextPlanStep}
      {step : ProjectTextPlanStep}, rows.plan = some plan → rows.steps = past ++ current →
        Coherent plan.toProjectTextPlanBody past current → step ∈ past ++ current →
          rows.locate stepId = .ok (plan, step) → Timely time plan.updatedAt →
            Timely time step.updatedAt → guard plan step = .ok () →
              ∃ next, checkpoint rows plan step = .ok next) :
    ((commitCheckpoint stepId checkpoint).run rows).1 = .ok () := by
  rw [bind_eq_ok] at guarded
  obtain ⟨⟨plan, step⟩, found, allowed⟩ := guarded
  obtain ⟨present, member⟩ := locate_eq_ok found
  obtain ⟨past, current, split, coherent⟩ := by
    simpa only [Consistent, present] using consistent
  refine commitCheckpoint_of_accepted found ?_
  exact accepted present split coherent (split ▸ member) found
    ⟨intime.checked, intime.plan plan present⟩ ⟨intime.checked, intime.steps step member⟩ allowed

/-- A located step has the name under which it was located. -/
theorem stepId_of_locate {rows : ProjectTextPlanRows} {stepId : JsString}
    {plan : ProjectTextPlan} {step : ProjectTextPlanStep}
    (found : rows.locate stepId = .ok (plan, step)) : step.stepId = stepId := by
  unfold ProjectTextPlanRows.locate at found
  split at found
  · next other located present some =>
    cases found
    simpa using List.find?_some some
  · cases found

/-- An operation whose guards admit the plan and the step is accepted, if nothing hinders it. -/
theorem accepted_of_unhindered {operation : ProjectTextPlanOperation} {rows : ProjectTextPlanRows}
    (hash : ∀ text, isDigest (sha256 text) = true) (consistent : Consistent rows)
    (admissible : Admissible rows operation) (guarded : operationGuard rows operation = .ok ())
    (free : Unhindered rows operation) :
    ((performPlan sha256 operation).run rows).1 = .ok () := by
  cases operation with
  | control kind request =>
    exact commitControl_of_accepted (control_accepted hash consistent admissible guarded free)
  | admission stepId admission content expectedThreadRevision time =>
    obtain ⟨parsed, intime⟩ := admissible
    refine @checkpoint_accepted rows stepId time
      (fun plan step => admissionGuard plan step admission) _ consistent intime guarded ?_
    intro plan past current step present split coherent member found planTime stepTime allowed
    have checked := parsed step (split ▸ member) (stepId_of_locate found)
    exact admission_accepted hash coherent member checked planTime stepTime
      (free.changeable trivial plan present).2 allowed
  | result stepId result time =>
    obtain ⟨parsed, intime⟩ := admissible
    refine @checkpoint_accepted rows stepId time (fun plan step => resultGuard plan step result) _
      consistent intime guarded ?_
    intro plan past current step present split coherent member found planTime stepTime allowed
    exact result_accepted hash coherent member parsed stepTime allowed
  | terminal stepId terminal time =>
    obtain ⟨parsed, intime⟩ := admissible
    refine @checkpoint_accepted rows stepId time
      (fun plan step => terminalGuard plan step terminal) _ consistent intime guarded ?_
    intro plan past current step present split coherent member found planTime stepTime allowed
    exact terminal_accepted hash present split coherent member parsed planTime stepTime
      (fun unended => free.changeable ⟨_, found, unended⟩ plan present) allowed
  | selection stepId selection time =>
    obtain ⟨parsed, intime⟩ := admissible
    refine @checkpoint_accepted rows stepId time
      (fun plan step => selectionGuard plan step selection) _ consistent intime guarded ?_
    intro plan past current step present split coherent member found planTime stepTime allowed
    exact selection_accepted hash coherent member parsed stepTime allowed
  | advance stepId selection time =>
    obtain ⟨parsed, intime⟩ := admissible
    refine @checkpoint_accepted rows stepId time (fun plan step => do
      selectionAuthority plan step
      advanceGuard plan step selection) _ consistent intime guarded ?_
    intro plan past current step present split coherent member found planTime stepTime allowed
    simp only [bind_eq_ok, exists_unit] at allowed
    simp only [allowed.1, ok_bind]
    exact advance_step_accepted hash present split coherent member parsed planTime stepTime
      (free.changeable trivial plan present).2 allowed.1 allowed.2
  | systemPause stepId reason time =>
    refine @checkpoint_accepted rows stepId time systemPauseGuard _ consistent admissible guarded ?_
    intro plan past current step present split coherent member found planTime stepTime allowed
    refine systemPause_accepted hash coherent planTime ?_ allowed
    intro repeated
    refine (free.changeable ?_ plan present).2
    intro other held
    obtain rfl := Option.some.inj (present.symm.trans (Option.mem_def.mp held))
    exact repeated

/-- A step keeps its own evidence. -/
theorem EvidenceKept.refl (step : ProjectTextPlanStepBody) : EvidenceKept step step :=
  ⟨fun _ => rfl, fun _ => rfl, fun _ => rfl, fun _ => rfl, fun _ => rfl, fun _ => rfl, fun _ => rfl⟩

/-- Every step of some rows is among others, with its evidence. -/
def StepsKept (before after : List ProjectTextPlanStep) : Prop :=
  ∀ old ∈ before, ∃ new ∈ after, new.stepId = old.stepId ∧
    EvidenceKept old.toProjectTextPlanStepBody new.toProjectTextPlanStepBody

/-- A moved step in the place of another one keeps the evidence of all steps. -/
theorem StepsKept.replaced {steps : List ProjectTextPlanStep} {step next : ProjectTextPlanStep}
    (names : (stepNames steps).Nodup) (member : step ∈ steps)
    (moved : Moved step.toProjectTextPlanStepBody next.toProjectTextPlanStepBody) :
    StepsKept steps (replaceStep steps next) := by
  have named : next.stepId = step.stepId := moved.change.identity.2.2.1
  intro old found
  refine ⟨_, List.mem_map_of_mem found, ?_⟩
  by_cases same : old.stepId = next.stepId
  · rw [if_pos same, eq_of_stepId names found member (same.trans named)]
    exact ⟨named, moved.kept⟩
  · rw [if_neg same]
    exact ⟨rfl, EvidenceKept.refl _⟩

/-- An open step of coherent rows is the active one. -/
theorem Coherent.single {plan : ProjectTextPlanBody} {past current : List ProjectTextPlanStep}
    (coherent : Coherent plan past current) :
    ∀ first ∈ past ++ current, ∀ second ∈ past ++ current,
      OpenStep first.toProjectTextPlanStepBody → OpenStep second.toProjectTextPlanStepBody →
        first = second := by
  have named : ∀ step ∈ past ++ current, OpenStep step.toProjectTextPlanStepBody →
      plan.activeStepId = some step.stepId := by
    obtain ⟨_, sound, _, _, _, ended, _, _, stands⟩ := coherent
    have closed : ∀ step ∈ past ++ current, step.state = .succeeded →
        ¬ OpenStep step.toProjectTextPlanStepBody := by
      intro step member succeeded
      exact not_open_of_completed ((sound step member).valid.ended_of_succeeded succeeded)
    intro step member unended
    rcases List.mem_append.mp member with old | recent
    · exact absurd unended (ended step old)
    · cases stands with
      | completed done finished => exact absurd unended (closed step member (finished step recent))
      | @active before active after standing =>
        rcases List.mem_append.mp recent with front | behind
        · exact absurd unended (closed step member (standing.finished step front))
        · rcases List.mem_cons.mp behind with rfl | back
          · exact standing.named
          · exact absurd (standing.untouched step back).2 unended.1
  intro first left second right openFirst openSecond
  refine eq_of_stepId coherent.names left right ?_
  exact Option.some.inj
    ((named first left openFirst).symm.trans (named second right openSecond))

/-- The runs of consistent rows are single, and a completed plan has finished its steps. -/
theorem Consistent.settled {rows : ProjectTextPlanRows} (consistent : Consistent rows) :
    (∀ first ∈ rows.steps, ∀ second ∈ rows.steps, OpenStep first.toProjectTextPlanStepBody →
      OpenStep second.toProjectTextPlanStepBody → first = second) ∧
        ∀ plan ∈ rows.plan, plan.state = .completed →
          ∀ done ∈ rows.currentSteps, done.state = .succeeded := by
  cases found : rows.plan with
  | none =>
    have empty : rows.steps = [] := by simpa only [Consistent, found] using consistent
    rw [empty]
    exact ⟨by simp, by simp⟩
  | some plan =>
    obtain ⟨past, current, split, coherent⟩ := by
      simpa only [Consistent, found] using consistent
    refine ⟨?_, ?_⟩
    · rw [split]
      exact coherent.single
    · intro other held completed
      obtain rfl := Option.mem_some.mp held
      rw [coherent.currentSteps found split]
      obtain ⟨valid, _, _, _, _, _, _, _, stands⟩ := coherent
      cases stands with
      | completed done finished => exact finished
      | active standing => exact absurd completed standing.live

/-- An operation that nothing hinders leaves the rows behind it. -/
theorem run_of_unhindered {operation : ProjectTextPlanOperation} {rows : ProjectTextPlanRows}
    (hash : ∀ text, isDigest (sha256 text) = true) (consistent : Consistent rows)
    (admissible : Admissible rows operation) (guarded : operationGuard rows operation = .ok ())
    (free : Unhindered rows operation) :
    (performPlan sha256 operation).run rows = (.ok (), written sha256 operation rows) := by
  have accepted := accepted_of_unhindered hash consistent admissible guarded free
  cases ran : (performPlan sha256 operation).run rows with
  | mk outcome after =>
    rw [ran] at accepted
    change outcome = .ok () at accepted
    subst accepted
    rw [written_of_performPlan ran]

/-- A small value has the same text as itself. -/
theorem sameJson_self {value : JsonValue} {failure : Failure}
    (small : isSmall value 65536 = true) : sameJson value value failure = .ok () := by
  have canonical : extensionCanonicalJson value = .ok ⟨value.stabilize.write⟩ := by
    simp only [extensionCanonicalJson, copyExtensionJson_of_small small, ok_bind]
    rfl
  simp only [sameJson, canonical, ok_bind, rejectIf_eq_ok, ne_eq, not_true, not_false_eq_true]

/-- A small record is valid. -/
theorem creativeProjectRecord_of_small {value : JsonValue} (small : isSmall value 65536 = true) :
    creativeProjectRecord value = .ok () := by
  simp only [creativeProjectRecord, copyExtensionJson_of_small small]
  rfl

/-- The record of an actor that is small is valid if its identifiers are. -/
theorem validateCreativeProjectActor_of_small {actor : CreativeProjectActor}
    (small : isSmall actor.json 65536 = true)
    (checked : ∀ id ∈ [actor.tenantId, actor.spaceId, actor.principalId, actor.actorId],
      creativeProjectOpaqueId id = .ok ()) : validateCreativeProjectActor actor = .ok () := by
  simp only [List.forall_mem_cons] at checked
  obtain ⟨tenant, space, principal, actor, _⟩ := checked
  simp only [validateCreativeProjectActor, creativeProjectRecord_of_small small, tenant, space,
    principal, actor, ok_bind]

/-- A digit of a digest. -/
def hexUnit (digit : Nat) : UInt16 := .ofNat (if digit < 10 then digit + 48 else digit + 87)

/-- The digits of a number. -/
def hexUnits : Nat → Nat → List UInt16
  | 0, _ => []
  | count + 1, number => hexUnit (number / 16 ^ count % 16) :: hexUnits count number

/-- The digest of a number. -/
def hexDigest (number : Nat) : JsString := ⟨(js "sha256:").units ++ hexUnits 64 number⟩

/-- The digits of a number are as many as asked for. -/
theorem length_hexUnits (count number : Nat) : (hexUnits count number).length = count := by
  induction count with
  | zero => rfl
  | succ count hypothesis => rw [hexUnits, List.length_cons, hypothesis]

/-- Each of them is a digit. -/
theorem isHexDigit_hexUnits (count number : Nat) :
    (hexUnits count number).all isHexDigit = true := by
  have unit : ∀ digit : Fin 16, isHexDigit (hexUnit digit.val) = true := by decide
  induction count with
  | zero => rfl
  | succ count hypothesis =>
    have small : number / 16 ^ count % 16 < 16 := Nat.mod_lt _ (by decide)
    rw [hexUnits, List.all_cons, hypothesis, Bool.and_true]
    exact unit ⟨_, small⟩

/-- The digest of a number is a digest. -/
theorem isDigest_hexDigest (number : Nat) : isDigest (hexDigest number) = true := by
  have seven : (js "sha256:").units.length = 7 := rfl
  have front : (hexDigest number).units.take 7 = (js "sha256:").units := by
    rw [hexDigest, ← seven]
    exact List.take_left
  have back : (hexDigest number).units.drop 7 = hexUnits 64 number := by
    rw [hexDigest, ← seven]
    exact List.drop_left
  have length : (hexDigest number).units.length = 71 := by
    rw [hexDigest, List.length_append, seven, length_hexUnits]
  rw [isDigest, front, back, length, isHexDigit_hexUnits]
  simp

/-- The digest of what the sample plan is installed from and executes. -/
def sampleDigest : JsString :=
  hexDigest 0xaaaaaaaaaaaaaaaaaaaaaaaaaaaaaaaaaaaaaaaaaaaaaaaaaaaaaaaaaaaaaaaa

/-- Who owns the sample plan. -/
def sampleActor : CreativeProjectActor :=
  ⟨js "tenant-1", js "space-1", js "principal-1", js "actor-1"⟩

/-- A revision of a plan for the scripts of two episodes. -/
def sampleRevision (planRevision : Int) (action : ProjectTextPlanAction) (time digest : JsString) :
    ProjectTextPlanRevision where
  planId := js "plan-1"
  planRevision := planRevision
  actor := sampleActor
  installation := ⟨js "tenant-1", js "space-1", js "profile-1", js "crewon.drama", js "crewon",
    js "1.0.0", sampleDigest, 1⟩
  projectId := js "project-1"
  threadId := js "thread-1"
  bindingId := js "binding-1"
  bindingRevision := 1
  workspaceId := none
  configurationRevision := 1
  configurationDigest := sampleDigest
  target := ⟨js "agent-1", sampleDigest, sampleDigest, js "authority-1", js "1", js "policy-1",
    none⟩
  start := .script
  targetStage := .script
  episodeMode := .independentScripts
  episodeIds := [js "episode-1", js "episode-2"]
  adoption := .whenUnchanged
  instruction := js "Write the scripts."
  instructionDigest := hexDigest 0xd23ef5439a60b6319b4e320cf0b070deade7696b6fc94c606cf43a4fe8509ce9
  delegation := ⟨js "contribution-1", action, js "invocation-1", js "key-1", sampleDigest⟩
  sources := ⟨some ⟨1, sampleDigest⟩, none⟩
  baselines := []
  createdAt := time
  contentDigest := digest

/-- The revision that the plan starts with. -/
def sampleDefinition : ProjectTextPlanRevision :=
  sampleRevision 1 .start (js "2026-01-01T00:00:00.000Z")
    (hexDigest 0x763db984ff4283937850a629261d4b2934f0c4a56fc0153fce1ebf5b7336bb76)

/-- The start of the plan. -/
def sampleStart : ProjectTextPlanOperation :=
  .control .start ⟨sampleDefinition, [js "step-1", js "step-2"], js "2026-01-01T00:00:00.000Z",
    false⟩

/-- The admission of its first step. -/
def sampleAdmission : ProjectTextPlanOperation :=
  .admission (js "step-1")
    ⟨js "step-1", 1, js "run-1", sampleDigest, js "task-1", ⟨some ⟨1, sampleDigest⟩, none⟩, none,
      sampleDigest⟩
    (js "Write the first script.") 1 (js "2026-01-01T00:00:01.000Z")

/-- The revocation of the plan while the run of the step is open. -/
def sampleRevocation : ProjectTextPlanOperation :=
  .control .revoke ⟨sampleDefinition, [], js "2026-01-01T00:00:02.000Z", false⟩

/-- The run is canceled. -/
def sampleCancellation : ProjectTextPlanOperation :=
  .terminal (js "step-1") ⟨js "event-1", 4, 3, .canceled⟩ (js "2026-01-01T00:00:03.000Z")

/-- The digests of the texts of the records of the sample runs, by the sums of their units. -/
def sampleDigests : List (Nat × Nat) := [
  (30978, 0xf336c03181c42e4fc334920e18a1962a7728d320ced086f36a84d8b423466baf),
  (30981, 0xdb00d254f2c915e112e53b2cf85f1c4a988132054bb85bb6e1b9c97ef20ba7c0),
  (30994, 0xd1722ce0a01ece9558eb51f955330851227f67ec2b827bc821129d35139f8246),
  (30999, 0x579a7538dcb7e140aa07d54ea8e69c85d8385da9202918655c3cca40eb249048),
  (31002, 0x988c0d53375aa8f7959dcd9c8fc76dd808b1db9f788992c323e27e89f8b306c2),
  (38357, 0x20afa74df4e061b457d820ac0aa29af4d10ceb39012b93f4f60bdd02699e4bd2),
  (38366, 0x71811288129f3368dec75d2819627f127b978f73901b89e74f33f7587628bf66),
  (38373, 0xfdf35869db400ae789b1dd81fe10c0316c78c7d01e06da1bbaafabf2c35ba815),
  (38380, 0x496801ecda8f8ed1f67cb9997c5fd3364723a84b8b2aeda3660d1036fcb534d3),
  (38580, 0x5e5f0d8ac13055fbf23c9dec47f8b1d57b36ec57c6fbb302ceaebcc3f1814d31),
  (38582, 0x7857811f1c3b2f34886e37991358f1c8db03e453586ecb4bd21e8b09167e46d7),
  (38595, 0x855126761b0c659967267f3751cbd7872004ad27cf4d5d088aaf36a64e42e410),
  (39286, 0x013b1592a229ec0dd733f7dd2f364917a1478f793d7cedf6fb563a70916c632a),
  (39293, 0x97385f4eecd8a0ae3e11964967e52067a45fb22cc6eb505a991e0f4d489a02e1),
  (39518, 0xcca5db28ffc3cc5bdeec33d62df0e519f6b6155cdd3a1220aed1d4b7a81c0e92),
  (69934, 0xd4aab3edcde2574629149af5b71b24b15372d3a1b102cbb95f584f4adbb9411d),
  (76249, 0x3f6378eaa3679473d63b53fc94b85f61ff0df4d8ba0cc03f86f96051ba776792),
  (110292, 0x5cec753cd294251e21f08f4455be740f78ca68b78e3a944c107374e0ac2fbfdd),
  (117593, 0xd552aa8db4cff7a64ff6b2b75adfea7d347506060bb5de093fec0038e784dbe1),
  (144030, 0x81656374ab0835569b2421fc855782ffb40ee83ca522d8d3319cd3c91c6acc08),
  (144786, 0x28cee875282b4649eeb16b2fd776157bc8aa725b21e1b0fe1c0e448b6193c45f)]

/-- The digest of a text of the sample runs. -/
def sampleSha256 (text : JsString) : JsString :=
  let sum := (text.units.map UInt16.toNat).sum
  hexDigest (((sampleDigests.find? fun entry => entry.1 = sum).map fun entry => entry.2).getD 0)

/-- It is a digest. -/
theorem isDigest_sampleSha256 (text : JsString) : isDigest (sampleSha256 text) = true :=
  isDigest_hexDigest _

/-- What the sample steps read. -/
def sampleSources : ProjectStageSources := ⟨some ⟨1, sampleDigest⟩, none⟩

set_option maxRecDepth 20000 in
/-- The records of the sample plan are small, and its names and digests are valid. -/
theorem sampleParts_valid :
    (∀ record ∈ [sampleActor.json, sampleDefinition.json, sampleSources.json,
      .object [("briefRevision", .number 1), ("contentDigest", .string sampleDigest)],
      ProjectTextPlanTerminal.json ⟨js "event-1", 4, 3, .canceled⟩],
        isSmall record 65536 = true) ∧
      (∀ id ∈ [js "tenant-1", js "space-1", js "principal-1", js "actor-1", js "profile-1"],
        creativeProjectOpaqueId id = .ok ()) ∧
        (∀ id ∈ [js "plan-1", js "project-1", js "thread-1", js "binding-1", js "episode-1",
          js "episode-2", js "step-1", js "step-2", js "run-1", js "task-1", js "event-1"],
            projectTextOpaqueId id = .ok ()) ∧
          creativeProjectDigest sampleDigest = .ok () ∧
            ¬ ((js "Write the first script.").isBlank = true ∨
              9999 < (js "Write the first script.").byteLength ∨
                (js "Write the first script.").units.any JsString.isTextControl = true ∨
                  (js "Write the first script.").hasLoneSurrogate = true) := by
  decide

/-- The owner of the sample plan is valid. -/
theorem sampleActor_valid : validateCreativeProjectActor sampleActor = .ok () := by
  obtain ⟨small, ids, _⟩ := sampleParts_valid
  refine validateCreativeProjectActor_of_small (small _ List.mem_cons_self) ?_
  intro id member
  exact ids id (List.mem_append_left [js "profile-1"] member)

/-- The sample revisions are as their parser leaves them. -/
theorem parsedDefinition_sample {planRevision : Int} {action : ProjectTextPlanAction}
    {time digest : JsString} (counted : creativeProjectRevision planRevision 1 = .ok ()) :
    ParsedDefinition (sampleRevision planRevision action time digest) := by
  obtain ⟨_, names, ids, _⟩ := sampleParts_valid
  simp only [List.forall_mem_cons] at names ids
  obtain ⟨_, _, _, _, profile, _⟩ := names
  obtain ⟨plan, project, thread, binding, first, second, _⟩ := ids
  refine ⟨plan, counted, sampleActor_valid, profile, project, thread, binding, ?_, ?_⟩
  · simp [sampleRevision]
  · show ∀ episodeId ∈ [js "episode-1", js "episode-2"], projectTextOpaqueId episodeId = .ok ()
    simp only [List.forall_mem_cons]
    exact ⟨first, second, by simp⟩

/-- The rows behind sample operations, the last one first. -/
def sampleRows : List ProjectTextPlanOperation → ProjectTextPlanRows
  | [] => .empty
  | operation :: earlier => written sampleSha256 operation (sampleRows earlier)

/-- The steps of sample operations that are all accepted. -/
def sampleSteps : List ProjectTextPlanOperation →
    List (Step ProjectTextPlanOperation Failure ProjectTextPlanRows Unit)
  | [] => []
  | operation :: earlier => sampleSteps earlier ++
    [⟨operation, sampleRows earlier, .ok (), sampleRows (operation :: earlier)⟩]

/-- Sample operations, the last one first, are all accepted. -/
structure Reached (done : List ProjectTextPlanOperation) : Prop where
  state : finalState (performPlan sampleSha256) .empty done.reverse = sampleRows done
  steps : trace (performPlan sampleSha256) .empty done.reverse = sampleSteps done

/-- Nothing was done yet. -/
theorem reached_nil : Reached [] := ⟨rfl, rfl⟩

/-- A sample operation that nothing hinders is accepted behind others. -/
theorem Reached.next {done : List ProjectTextPlanOperation} {operation : ProjectTextPlanOperation}
    (reached : Reached done) (admissible : Admissible (sampleRows done) operation)
    (guarded : operationGuard (sampleRows done) operation = .ok ())
    (changeable : ∀ plan ∈ (sampleRows done).plan,
      plan.state ≠ .revoked ∧ plan.revision < maxSafeInteger)
    (profile : ∀ request, operation = .control .start request →
      request.definition.installation.profileId ≠ js "." ∧
        request.definition.installation.profileId ≠ js "..") :
    Reached (operation :: done) := by
  have consistent : Consistent (sampleRows done) := by
    rw [← reached.state]
    exact finalState_invariant Consistent performPlan_consistent consistent_empty _
  have ran := run_of_unhindered isDigest_sampleSha256 consistent admissible guarded
    ⟨fun _ => changeable, profile⟩
  refine ⟨?_, ?_⟩
  · rw [List.reverse_cons, finalState_append, reached.state]
    exact congrArg Prod.snd ran
  · rw [List.reverse_cons, trace_append, reached.state, reached.steps, sampleSteps, sampleRows]
    simp only [trace, ran]

/-- A request is about the plan of some rows. -/
def Continues (rows : ProjectTextPlanRows) (request : ProjectTextPlanControlRequest) : Prop :=
  ∃ plan ∈ rows.plan, plan.state ≠ .revoked ∧ plan.planId = request.definition.planId ∧
    plan.projectId = request.definition.projectId ∧ plan.threadId = request.definition.threadId ∧
      plan.bindingId = request.definition.bindingId ∧
        plan.workspaceId = request.definition.workspaceId ∧
          plan.profileId = request.definition.installation.profileId ∧
            plan.owner = request.definition.actor

instance (rows : ProjectTextPlanRows) (request : ProjectTextPlanControlRequest) :
    Decidable (Continues rows request) := by
  unfold Continues
  infer_instance

/-- What a request about the plan of some rows finds there. -/
theorem previousGuard_of_continues {rows : ProjectTextPlanRows}
    {request : ProjectTextPlanControlRequest} {definition : ProjectTextPlanRevision}
    (timely : creativeProjectTimestamp request.time = .ok ())
    (small : isSmall request.definition.actor.json 65536 = true)
    (current : rows.currentRevision = some definition) (continues : Continues rows request) :
    ∃ plan ∈ rows.plan, previousGuard (rows.controlInput request) = .ok (plan, definition) := by
  obtain ⟨plan, found, live, known, projectId, threadId, bindingId, workspaceId, profileId,
    owner⟩ := continues
  refine ⟨plan, found, previousGuard_eq_ok.mpr ⟨timely, found, current, live, known, ?_⟩⟩
  have same : sameJson plan.owner.json request.definition.actor.json
      (planFailure "project_text_plan_identity_changed") = .ok () := by
    rw [owner]
    exact sameJson_self small
  show assertIdentity plan request.definition = .ok ()
  simp only [assertIdentity, bind_eq_ok, exists_unit, rejectIf_eq_ok, not_or, not_not]
  exact ⟨⟨projectId, threadId, bindingId, workspaceId⟩, profileId, same⟩

/-- A request about the current revision of a plan that is not completed stops it. -/
theorem stopGuard_of_continues {rows : ProjectTextPlanRows}
    {request : ProjectTextPlanControlRequest}
    (timely : creativeProjectTimestamp request.time = .ok ())
    (actor : isSmall request.definition.actor.json 65536 = true)
    (small : isSmall request.definition.json 65536 = true)
    (current : rows.currentRevision = some request.definition) (continues : Continues rows request)
    (unfinished : ∀ plan ∈ rows.plan, plan.state ≠ .completed) :
    controlGuard rows request .pause = .ok () ∧ controlGuard rows request .revoke = .ok () := by
  obtain ⟨plan, found, guarded⟩ := previousGuard_of_continues timely actor current continues
  simp only [controlGuard, guarded, ok_bind, sameJson_self small, rejectIf_eq_ok, and_self]
  exact unfinished plan found

instance (rows : ProjectTextPlanRows) (time : JsString) : Decidable (InTime rows time) :=
  decidable_of_iff (creativeProjectTimestamp time = .ok () ∧
      (∀ plan ∈ rows.plan, isEarlier time plan.updatedAt = false) ∧
        ∀ step ∈ rows.steps, isEarlier time step.updatedAt = false)
    ⟨fun ⟨checked, plan, steps⟩ => ⟨checked, plan, steps⟩,
      fun timely => ⟨timely.checked, timely.plan, timely.steps⟩⟩

/-- The time of an operation. -/
def timeOf : ProjectTextPlanOperation → JsString
  | .control _ request => request.time
  | .admission _ _ _ _ time | .result _ _ time | .terminal _ _ time | .selection _ _ time
  | .advance _ _ time | .systemPause _ _ time => time

/-- An operation comes in time to a plan that can be changed. -/
def Fitting (rows : ProjectTextPlanRows) (operation : ProjectTextPlanOperation) : Prop :=
  InTime rows (timeOf operation) ∧
    ∀ plan ∈ rows.plan, plan.state ≠ .revoked ∧ plan.revision < maxSafeInteger

instance (rows : ProjectTextPlanRows) (operation : ProjectTextPlanOperation) :
    Decidable (Fitting rows operation) := by
  unfold Fitting
  infer_instance

/-- A request is about the current revision of a plan that is not completed. -/
def Stops (rows : ProjectTextPlanRows) (request : ProjectTextPlanControlRequest) : Prop :=
  rows.currentRevision = some request.definition ∧ Continues rows request ∧
    ∀ plan ∈ rows.plan, plan.state ≠ .completed

instance (rows : ProjectTextPlanRows) (request : ProjectTextPlanControlRequest) :
    Decidable (Stops rows request) := by
  unfold Stops
  infer_instance

set_option maxRecDepth 20000 in
/-- The sample operations fit the rows that they find, and their guards admit these. -/
theorem sampleRevoking_fits :
    (Fitting (sampleRows []) sampleStart ∧
      operationGuard (sampleRows []) sampleStart = .ok ()) ∧
      (Fitting (sampleRows [sampleStart]) sampleAdmission ∧
        operationGuard (sampleRows [sampleStart]) sampleAdmission = .ok ()) ∧
        (Fitting (sampleRows [sampleAdmission, sampleStart]) sampleRevocation ∧
          Stops (sampleRows [sampleAdmission, sampleStart])
            ⟨sampleDefinition, [], js "2026-01-01T00:00:02.000Z", false⟩) ∧
          (∃ plan ∈ (sampleRows [sampleRevocation, sampleAdmission, sampleStart]).plan,
            plan.state = .revoked) ∧
            (∀ step ∈ (sampleRows [sampleRevocation, sampleAdmission, sampleStart]).steps,
              step.terminal = none) ∧
              InTime (sampleRows [sampleRevocation, sampleAdmission, sampleStart])
                (timeOf sampleCancellation) ∧
                operationGuard (sampleRows [sampleRevocation, sampleAdmission, sampleStart])
                  sampleCancellation = .ok () := by
  decide

/-- What the sample steps read is valid. -/
theorem sampleSources_valid : planSources sampleSources = .ok () := by
  obtain ⟨small, _, _, digest, _⟩ := sampleParts_valid
  have whole : creativeProjectRecord sampleSources.json = .ok () :=
    creativeProjectRecord_of_small (small _ (by simp))
  have brief : creativeProjectRecord (.object [("briefRevision", .number 1),
      ("contentDigest", .string sampleDigest)]) = .ok () :=
    creativeProjectRecord_of_small (small _ (by simp))
  have counted : creativeProjectRevision 1 1 = .ok () := by decide
  rw [planSources, whole]
  simp only [sampleSources, whenPresent, brief, counted, digest, ok_bind]
  simp

/-- The start is admissible. -/
theorem sampleStart_admissible : Admissible (sampleRows []) sampleStart := by
  have parsed : ParsedDefinition sampleDefinition := parsedDefinition_sample (by decide)
  obtain ⟨_, _, ids, _⟩ := sampleParts_valid
  simp only [List.forall_mem_cons] at ids
  obtain ⟨_, _, _, _, _, _, first, second, _⟩ := ids
  refine ⟨parsed, ?_, sampleRevoking_fits.1.1.1⟩
  show ∀ stepId ∈ [js "step-1", js "step-2"], projectTextOpaqueId stepId = .ok ()
  simp only [List.forall_mem_cons]
  exact ⟨first, second, by simp⟩

/-- The admission is admissible behind the start. -/
theorem sampleAdmission_admissible : Admissible (sampleRows [sampleStart]) sampleAdmission := by
  obtain ⟨_, _, ids, digest, content⟩ := sampleParts_valid
  refine ⟨?_, sampleRevoking_fits.2.1.1.1⟩
  intro step member named
  exact ⟨sampleSources_valid, ⟨ids _ (by simp), digest, digest⟩, by simp, by simp,
    ⟨content, ids _ (by simp), by decide⟩⟩

/-- The first revision of the sample plan is small. -/
theorem sampleDefinition_small : isSmall sampleDefinition.json 65536 = true :=
  sampleParts_valid.1 _ (by simp)

/-- The start and the admission are accepted. -/
theorem sampleAdmission_reached : Reached [sampleAdmission, sampleStart] := by
  obtain ⟨⟨start, guarded⟩, ⟨admission, admitted⟩, _⟩ := sampleRevoking_fits
  have started : Reached [sampleStart] := by
    refine reached_nil.next sampleStart_admissible guarded start.2 ?_
    rintro request ⟨⟩
    exact ⟨by decide, by decide⟩
  exact started.next sampleAdmission_admissible admitted admission.2 (by rintro request ⟨⟩)

end Crewon.Verif.ProjectTextPlan
