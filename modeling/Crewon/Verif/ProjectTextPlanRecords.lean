import Crewon.Domain.ProjectTextPlanMutations
import Crewon.Verif.ExtensionJson

/-!
# The parsers of text plans

What the parsers check of a plan and of a step, and that every record with valid fields is within
the bounds of its JSON: such a record is created, with the digest of its own text.
-/

namespace Crewon.Verif.ProjectTextPlan

open Crewon.Js Crewon.Checked Crewon.Domain Crewon.Verif.ExtensionJson

/-- What a text of at most so many units takes. -/
def textExtent (units : Nat) : JsonExtent := ⟨1, 3 * units, 2 + 6 * units⟩

/-- What a field with a value of an extent takes. -/
def fieldExtent (extent : JsonExtent) : JsonExtent :=
  ⟨extent.nodes + 1, extent.textBytes + 32, extent.size + 35⟩

/-- What an identifier takes. -/
def idExtent : JsonExtent := textExtent 128

/-- What a digest takes. -/
def digestExtent : JsonExtent := textExtent 71

/-- What a name takes. -/
def nameExtent : JsonExtent := textExtent 40

/-- What a number takes. -/
def numberExtent : JsonExtent := ⟨1, 0, 17⟩

/-- A short text without lone surrogates takes its length. -/
theorem fits_text {text : JsString} {units : Nat} (short : text.length ≤ units)
    (whole : text.hasLoneSurrogate = false) : Fits 0 (textExtent units) (.string text) := by
  have bytes := text.byteLength_le_length
  have quoted := quotedWidth_le text
  exact fits_string whole (by omega) (by omega)

/-- What an identifier is. -/
theorem creativeProjectOpaqueId_eq_ok {input : JsString} :
    creativeProjectOpaqueId input = .ok () ↔
      ¬ (input.length = 0 ∨ 128 < input.length ∨ input.trim ≠ input ∨
        input.units.any JsString.isControlOrDelete = true) ∧
        input.hasLoneSurrogate = false := by
  simp [creativeProjectOpaqueId]

/-- An identifier takes its extent. -/
theorem fits_opaqueId {input : JsString} (valid : creativeProjectOpaqueId input = .ok ()) :
    Fits 0 idExtent (.string input) := by
  obtain ⟨bounds, whole⟩ := creativeProjectOpaqueId_eq_ok.mp valid
  exact fits_text (by omega) whole

/-- An identifier of a text is one. -/
theorem opaqueId_of_text {input : JsString} (valid : projectTextOpaqueId input = .ok ()) :
    creativeProjectOpaqueId input = .ok () := by
  simp only [projectTextOpaqueId, bind_eq_ok, exists_unit] at valid
  exact valid.1

/-- An identifier of a text takes its extent. -/
theorem fits_id {input : JsString} (valid : projectTextOpaqueId input = .ok ()) :
    Fits 0 idExtent (.string input) :=
  fits_opaqueId (opaqueId_of_text valid)

/-- A digest takes its extent. -/
theorem fits_digest {input : JsString} (valid : creativeProjectDigest input = .ok ()) :
    Fits 0 digestExtent (.string input) := by
  have digest : isDigest input = true := by simpa [creativeProjectDigest] using valid
  obtain ⟨long, whole⟩ := digest_low digest
  exact fits_text (by omega) whole

/-- What a revision is. -/
theorem creativeProjectRevision_eq_ok {input minimum : Int} :
    creativeProjectRevision input minimum = .ok () ↔
      isSafeInteger input = true ∧ minimum ≤ input := by
  simp [creativeProjectRevision]

/-- A revision takes its extent. -/
theorem fits_revision {input minimum : Int}
    (valid : creativeProjectRevision input minimum = .ok ()) :
    Fits 0 numberExtent (.number input) :=
  fits_number (creativeProjectRevision_eq_ok.mp valid).1

/-- What a timestamp is. -/
theorem creativeProjectTimestamp_eq_ok {input : JsString} :
    creativeProjectTimestamp input = .ok () ↔
      input.length = 24 ∧ (dateParse input).bind toIsoString = some input := by
  simp [creativeProjectTimestamp]

/-- A timestamp takes its extent. -/
theorem fits_timestamp {input : JsString} (valid : creativeProjectTimestamp input = .ok ()) :
    Fits 0 (textExtent 24) (.string input) := by
  obtain ⟨long, written⟩ := creativeProjectTimestamp_eq_ok.mp valid
  obtain ⟨millis, _, named⟩ := Option.bind_eq_some_iff.mp written
  exact fits_text (by omega) (toIsoString_low named)

/-- A name takes its extent. -/
theorem fits_name {name : String} (short : (js name).length ≤ 40) :
    Fits 0 nameExtent (jsonName name) :=
  fits_text short (whole_js name)

/-- A field takes its extent, at any height. -/
theorem field_of_fits {height : Nat} {extent : JsonExtent} {name : String} {value : JsonValue}
    (fits : Fits 0 extent value) (named : NameFits name) :
    FieldFits height (fieldExtent extent) (name, value) :=
  fits_field named (fits.mono (Nat.zero_le height) le_rfl le_rfl le_rfl)

/-- A field that may be absent takes its extent, at any height. -/
theorem field_of_option {α : Type} {height : Nat} {extent : JsonExtent} {name : String}
    {write : α → JsonValue} {value : Option α} (one : 1 ≤ extent.nodes) (null : 4 ≤ extent.size)
    (fits : ∀ present ∈ value, Fits height extent (write present)) (named : NameFits name) :
    FieldFits height (fieldExtent extent) (name, .ofOption write value) :=
  fits_field named (fits_ofOption one null fits)

/-- An optional identifier as a field. -/
theorem field_of_optionalId {height : Nat} {name : String} {value : Option JsString}
    (valid : ∀ present ∈ value, projectTextOpaqueId present = .ok ()) (named : NameFits name) :
    FieldFits height (fieldExtent idExtent) (name, .ofOption .string value) := by
  refine field_of_option (by decide) (by decide) ?_ named
  intro present held
  exact (fits_id (valid present held)).mono (Nat.zero_le _) le_rfl le_rfl le_rfl

/-- An optional revision as a field. -/
theorem field_of_optionalRevision {height : Nat} {name : String} {value : Option Int}
    (valid : ∀ present ∈ value, creativeProjectRevision present 1 = .ok ())
    (named : NameFits name) :
    FieldFits height (fieldExtent numberExtent) (name, .ofOption .number value) := by
  refine field_of_option (by decide) (by decide) ?_ named
  intro present held
  exact (fits_revision (valid present held)).mono (Nat.zero_le _) le_rfl le_rfl le_rfl

/-- A record whose extent is within the limits passes its bounds. -/
theorem creativeProjectRecord_of_fits {height : Nat} {extent : JsonExtent} {value : JsonValue}
    (fits : Fits height extent value) (shallow : height ≤ 24) (few : extent.nodes ≤ 8192)
    (texts : extent.textBytes ≤ 65536) (small : extent.size ≤ 65536) :
    creativeProjectRecord value = .ok () := by
  simp only [creativeProjectRecord, copyExtensionJson_of_fits fits shallow few texts small]
  rfl

/-- A record whose extent is within the limits has a canonical text. -/
theorem extensionCanonicalJson_of_fits {height : Nat} {extent : JsonExtent} {value : JsonValue}
    (fits : Fits height extent value) (shallow : height ≤ 24) (few : extent.nodes ≤ 8192)
    (texts : extent.textBytes ≤ 65536) (small : extent.size ≤ 65536) :
    extensionCanonicalJson value = .ok (stableJson value) := by
  simp only [extensionCanonicalJson, copyExtensionJson_of_fits fits shallow few texts small]
  rfl

/-- What an actor takes. -/
def actorExtent : JsonExtent :=
  recordExtent [fieldExtent idExtent, fieldExtent idExtent, fieldExtent idExtent,
    fieldExtent idExtent]

/-- An actor takes its extent. -/
theorem fits_actor {actor : CreativeProjectActor}
    (valid : validateCreativeProjectActor actor = .ok ()) : Fits 1 actorExtent actor.json := by
  simp only [validateCreativeProjectActor, bind_eq_ok, exists_unit] at valid
  obtain ⟨_, tenant, space, principal, actor⟩ := valid
  refine fits_record ?_ (by decide)
  exact .cons (field_of_fits (fits_opaqueId tenant) (by decide)) <|
    .cons (field_of_fits (fits_opaqueId space) (by decide)) <|
    .cons (field_of_fits (fits_opaqueId principal) (by decide)) <|
    .cons (field_of_fits (fits_opaqueId actor) (by decide)) .nil

/-- What the parser checks of a plan, apart from its bounds and its digest. -/
structure ValidPlan (plan : ProjectTextPlanBody) : Prop where
  schema : plan.schemaVersion = projectTextPlanSchema
  active : ∀ stepId ∈ plan.activeStepId, projectTextOpaqueId stepId = .ok ()
  shape : ¬ plan.misshapen
  planId : projectTextOpaqueId plan.planId = .ok ()
  owner : validateCreativeProjectActor plan.owner = .ok ()
  profileId : projectTextOpaqueId plan.profileId = .ok ()
  projectId : projectTextOpaqueId plan.projectId = .ok ()
  threadId : projectTextOpaqueId plan.threadId = .ok ()
  bindingId : projectTextOpaqueId plan.bindingId = .ok ()
  workspaceId : ∀ workspaceId ∈ plan.workspaceId, projectTextOpaqueId workspaceId = .ok ()
  revision : creativeProjectRevision plan.revision 1 = .ok ()
  currentPlanRevision : creativeProjectRevision plan.currentPlanRevision 1 = .ok ()
  wakeRevision : creativeProjectRevision plan.wakeRevision 0 = .ok ()
  times : planTimes plan.createdAt plan.updatedAt = .ok ()

/-- The times of a record are timestamps. -/
theorem planTimes_eq_ok {createdAt updatedAt : JsString} :
    planTimes createdAt updatedAt = .ok () ↔ creativeProjectTimestamp createdAt = .ok () ∧
      creativeProjectTimestamp updatedAt = .ok () ∧ isEarlier updatedAt createdAt = false := by
  simp [planTimes]

/-- The extents of the fields of a plan. -/
def planExtents : List JsonExtent :=
  [fieldExtent nameExtent, fieldExtent idExtent, fieldExtent actorExtent, fieldExtent idExtent,
    fieldExtent idExtent, fieldExtent idExtent, fieldExtent idExtent, fieldExtent idExtent,
    fieldExtent numberExtent, fieldExtent numberExtent, fieldExtent nameExtent,
    fieldExtent idExtent, fieldExtent nameExtent, fieldExtent numberExtent,
    fieldExtent (textExtent 24), fieldExtent (textExtent 24)]

/-- The fields of a valid plan take their extents. -/
theorem fields_of_validPlan {plan : ProjectTextPlanBody} (valid : ValidPlan plan) :
    List.Forall₂ (FieldFits 1) planExtents plan.fields := by
  have times := planTimes_eq_ok.mp valid.times
  have schema : Fits 0 nameExtent (.string plan.schemaVersion) := by
    rw [valid.schema]
    exact fits_text (by decide) (by decide)
  have state : Fits 0 nameExtent (jsonName plan.state.text) := by
    cases plan.state <;> exact fits_name (by decide)
  have reason : ∀ reason ∈ plan.pauseReason, Fits 1 nameExtent (jsonName reason.text) := by
    intro reason _
    refine Fits.mono ?_ (Nat.zero_le 1) le_rfl le_rfl le_rfl
    cases reason <;> exact fits_name (by decide)
  exact .cons (field_of_fits schema (by decide)) <|
    .cons (field_of_fits (fits_id valid.planId) (by decide)) <|
    .cons (fits_field (by decide) (fits_actor valid.owner)) <|
    .cons (field_of_fits (fits_id valid.profileId) (by decide)) <|
    .cons (field_of_fits (fits_id valid.projectId) (by decide)) <|
    .cons (field_of_fits (fits_id valid.threadId) (by decide)) <|
    .cons (field_of_fits (fits_id valid.bindingId) (by decide)) <|
    .cons (field_of_optionalId valid.workspaceId (by decide)) <|
    .cons (field_of_fits (fits_revision valid.revision) (by decide)) <|
    .cons (field_of_fits (fits_revision valid.currentPlanRevision) (by decide)) <|
    .cons (field_of_fits state (by decide)) <|
    .cons (field_of_optionalId valid.active (by decide)) <|
    .cons (field_of_option (by decide) (by decide) reason (by decide)) <|
    .cons (field_of_fits (fits_revision valid.wakeRevision) (by decide)) <|
    .cons (field_of_fits (fits_timestamp times.1) (by decide)) <|
    .cons (field_of_fits (fits_timestamp times.2.1) (by decide)) .nil

variable {sha256 : JsString → JsString}

/-- What the parser accepts as a plan. -/
theorem parseProjectTextPlan_eq_ok {plan : ProjectTextPlan} :
    parseProjectTextPlan sha256 plan = .ok () ↔
      creativeProjectRecord
          (.object (plan.fields ++ [("contentDigest", .string plan.contentDigest)])) = .ok () ∧
        ValidPlan plan.toProjectTextPlanBody ∧
          planChecked sha256 (.object plan.fields) plan.contentDigest = .ok () := by
  simp only [parseProjectTextPlan, bind_eq_ok, exists_unit, rejectIf_eq_ok, whenPresent_eq_ok,
    not_not]
  constructor
  · rintro ⟨record, schema, active, shape, planId, owner, profileId, projectId, threadId, bindingId,
      workspaceId, revision, current, wake, times, checked⟩
    exact ⟨record, ⟨schema, active, shape, planId, owner, profileId, projectId, threadId, bindingId,
      workspaceId, revision, current, wake, times⟩, checked⟩
  · rintro ⟨record, valid, checked⟩
    exact ⟨record, valid.schema, valid.active, valid.shape, valid.planId, valid.owner,
      valid.profileId, valid.projectId, valid.threadId, valid.bindingId, valid.workspaceId,
      valid.revision, valid.currentPlanRevision, valid.wakeRevision, valid.times, checked⟩

/-- A record and its digest are within the bounds, and the digest is its own. -/
theorem planChecked_of_fits {height : Nat} {extent : JsonExtent} {body : JsonValue}
    (hash : ∀ text, isDigest (sha256 text) = true) (fits : Fits height extent body)
    (shallow : height ≤ 24) (few : extent.nodes ≤ 8192) (texts : extent.textBytes ≤ 65536)
    (small : extent.size ≤ 65536) :
    planChecked sha256 body (sha256 (stableJson body)) = .ok () := by
  simp [planChecked, creativeProjectDigest, hash,
    extensionCanonicalJson_of_fits fits shallow few texts small]

/-- A plan with its digest. -/
def digestedPlan (sha256 : JsString → JsString) (body : ProjectTextPlanBody) : ProjectTextPlan :=
  { body with contentDigest := sha256 (stableJson (.object body.fields)) }

/-- A valid plan is created. -/
theorem createProjectTextPlan_of_valid {body : ProjectTextPlanBody}
    (hash : ∀ text, isDigest (sha256 text) = true) (valid : ValidPlan body) :
    createProjectTextPlan sha256 body = .ok (digestedPlan sha256 body) := by
  have fields := fields_of_validPlan valid
  have fits := fits_record fields (by decide)
  have digest : Fits 0 digestExtent (.string (sha256 (stableJson (.object body.fields)))) :=
    fits_digest (by simp [creativeProjectDigest, hash])
  have last : FieldFits 1 (fieldExtent digestExtent)
      ("contentDigest", .string (sha256 (stableJson (.object body.fields)))) :=
    field_of_fits digest (by decide)
  have record := fits_record (List.rel_append fields (.cons last .nil)) (by decide)
  have canonical := extensionCanonicalJson_of_fits fits (by decide) (by decide) (by decide)
    (by decide)
  have parsed : parseProjectTextPlan sha256 (digestedPlan sha256 body) = .ok () := by
    refine parseProjectTextPlan_eq_ok.mpr ⟨?_, valid, ?_⟩
    · exact creativeProjectRecord_of_fits record (by decide) (by decide) (by decide) (by decide)
    · exact planChecked_of_fits hash fits (by decide) (by decide) (by decide) (by decide)
  simp only [createProjectTextPlan, canonical, ok_bind]
  show (parseProjectTextPlan sha256 (digestedPlan sha256 body) >>= fun _ => _) = _
  rw [parsed]
  rfl

/-- What is created is the given body, and valid. -/
theorem createProjectTextPlan_eq_ok {body : ProjectTextPlanBody} {plan : ProjectTextPlan}
    (created : createProjectTextPlan sha256 body = .ok plan) :
    plan.toProjectTextPlanBody = body ∧ ValidPlan body := by
  simp only [createProjectTextPlan, bind_eq_ok, exists_unit, pure_eq_ok] at created
  obtain ⟨text, _, parsed, rfl⟩ := created
  exact ⟨rfl, (parseProjectTextPlan_eq_ok.mp parsed).2.1⟩

/-- What sources take. -/
def sourcesExtent : JsonExtent :=
  recordExtent [
    fieldExtent (recordExtent [fieldExtent numberExtent, fieldExtent digestExtent]),
    fieldExtent (recordExtent [fieldExtent idExtent, fieldExtent numberExtent,
      fieldExtent digestExtent])]

/-- Sources take their extent. -/
theorem fits_sources {sources : ProjectStageSources} (valid : planSources sources = .ok ()) :
    Fits 2 sourcesExtent sources.json := by
  simp only [planSources, bind_eq_ok, exists_unit, whenPresent_eq_ok] at valid
  obtain ⟨_, brief, outline, _⟩ := valid
  refine fits_record (.cons (field_of_option (by decide) (by decide) ?_ (by decide)) <|
    .cons (field_of_option (by decide) (by decide) ?_ (by decide)) .nil) (by decide)
  · intro source present
    obtain ⟨_, revision, digest⟩ := brief source present
    exact fits_record (.cons (field_of_fits (fits_revision revision) (by decide)) <|
      .cons (field_of_fits (fits_digest digest) (by decide)) .nil) (by decide)
  · intro source present
    obtain ⟨_, artifact, revision, digest⟩ := outline source present
    exact fits_record (.cons (field_of_fits (fits_id artifact) (by decide)) <|
      .cons (field_of_fits (fits_revision revision) (by decide)) <|
      .cons (field_of_fits (fits_digest digest) (by decide)) .nil) (by decide)

/-- What a baseline takes. -/
def baselineExtent : JsonExtent :=
  recordExtent [fieldExtent nameExtent, fieldExtent idExtent, fieldExtent idExtent,
    fieldExtent numberExtent, fieldExtent numberExtent, fieldExtent ⟨1, 0, 5⟩]

/-- A baseline takes its extent. -/
theorem fits_baseline {baseline : ProjectTextPlanHeadBaseline}
    (valid : parseProjectTextPlanBaseline baseline = .ok ()) :
    Fits 1 baselineExtent baseline.json := by
  simp only [parseProjectTextPlanBaseline, bind_eq_ok, exists_unit, whenPresent_eq_ok] at valid
  obtain ⟨_, episode, artifact, revision, selected, _⟩ := valid
  have kind : Fits 0 nameExtent (jsonName baseline.kind.text) := by
    cases baseline.kind <;> exact fits_name (by decide)
  refine fits_record ?_ (by decide)
  exact .cons (field_of_fits kind (by decide)) <|
    .cons (field_of_optionalId episode (by decide)) <|
    .cons (field_of_optionalId artifact (by decide)) <|
    .cons (field_of_fits (fits_revision revision) (by decide)) <|
    .cons (field_of_optionalRevision selected (by decide)) <|
    .cons (field_of_fits (fits_bool baseline.locked) (by decide)) .nil

/-- What an input takes. Its content takes no more than twice its bytes, as it has no controls. -/
def inputExtent : JsonExtent :=
  recordExtent [fieldExtent ⟨1, 9999, 20000⟩, fieldExtent idExtent, fieldExtent numberExtent]

/-- The fields of an input are valid. -/
structure ValidInput (input : ProjectTextPlanStepInput) : Prop where
  content : ¬ (input.content.isBlank = true ∨ 9999 < input.content.byteLength ∨
    input.content.units.any JsString.isTextControl = true ∨
    input.content.hasLoneSurrogate = true)
  idempotencyKey : projectTextOpaqueId input.idempotencyKey = .ok ()
  expectedThreadRevision : creativeProjectRevision input.expectedThreadRevision 1 = .ok ()

/-- An input takes its extent. -/
theorem fits_input {input : ProjectTextPlanStepInput} (valid : ValidInput input) :
    Fits 1 inputExtent input.json := by
  have content := valid.content
  simp only [not_or, Bool.not_eq_true, not_lt] at content
  obtain ⟨_, short, plain, whole⟩ := content
  have quoted := quotedWidth_le_bytes plain whole
  have text : Fits 0 ⟨1, 9999, 20000⟩ (.string input.content) :=
    fits_string whole short (by omega)
  refine fits_record ?_ (by decide)
  exact .cons (field_of_fits text (by decide)) <|
    .cons (field_of_fits (fits_id valid.idempotencyKey) (by decide)) <|
    .cons (field_of_fits (fits_revision valid.expectedThreadRevision) (by decide)) .nil

/-- What the parser accepts as an input. -/
theorem parseProjectTextPlanStepInput_eq_ok {input : ProjectTextPlanStepInput} :
    parseProjectTextPlanStepInput input = .ok () ↔ ValidInput input := by
  constructor
  · intro parsed
    simp only [parseProjectTextPlanStepInput, bind_eq_ok, exists_unit, rejectIf_eq_ok] at parsed
    exact ⟨parsed.2.1, parsed.2.2.1, parsed.2.2.2⟩
  · intro valid
    have record := creativeProjectRecord_of_fits (fits_input valid) (by decide) (by decide)
      (by decide) (by decide)
    simp only [parseProjectTextPlanStepInput, bind_eq_ok, exists_unit, rejectIf_eq_ok]
    exact ⟨record, valid.content, valid.idempotencyKey, valid.expectedThreadRevision⟩

/-- What a run takes. -/
def runExtent : JsonExtent :=
  recordExtent [fieldExtent idExtent, fieldExtent digestExtent, fieldExtent digestExtent]

/-- The fields of a run are valid. -/
structure ValidRun (run : ProjectTextPlanStepRun) : Prop where
  runId : projectTextOpaqueId run.runId = .ok ()
  stageAdmissionDigest : creativeProjectDigest run.stageAdmissionDigest = .ok ()
  planAdmissionDigest : creativeProjectDigest run.planAdmissionDigest = .ok ()

/-- A run takes its extent. -/
theorem fits_run {run : ProjectTextPlanStepRun} (valid : ValidRun run) :
    Fits 1 runExtent run.json := by
  refine fits_record ?_ (by decide)
  exact .cons (field_of_fits (fits_id valid.runId) (by decide)) <|
    .cons (field_of_fits (fits_digest valid.stageAdmissionDigest) (by decide)) <|
    .cons (field_of_fits (fits_digest valid.planAdmissionDigest) (by decide)) .nil

/-- What the parser accepts as a run. -/
theorem parseProjectTextPlanStepRun_eq_ok {run : ProjectTextPlanStepRun} :
    parseProjectTextPlanStepRun run = .ok () ↔ ValidRun run := by
  constructor
  · intro parsed
    simp only [parseProjectTextPlanStepRun, bind_eq_ok, exists_unit] at parsed
    exact ⟨parsed.2.1, parsed.2.2.1, parsed.2.2.2⟩
  · intro valid
    have record := creativeProjectRecord_of_fits (fits_run valid) (by decide) (by decide)
      (by decide) (by decide)
    simp only [parseProjectTextPlanStepRun, bind_eq_ok, exists_unit]
    exact ⟨record, valid.runId, valid.stageAdmissionDigest, valid.planAdmissionDigest⟩

/-- What a result takes. -/
def resultExtent : JsonExtent :=
  recordExtent [fieldExtent nameExtent, fieldExtent idExtent, fieldExtent digestExtent,
    fieldExtent idExtent, fieldExtent idExtent, fieldExtent digestExtent,
    fieldExtent numberExtent, fieldExtent idExtent, fieldExtent numberExtent,
    fieldExtent numberExtent, fieldExtent digestExtent]

/-- A result takes its extent. -/
theorem fits_result {result : ProjectTextPlanResultReference}
    (valid : parseProjectTextPlanResultReference result = .ok ()) :
    Fits 1 resultExtent result.json := by
  simp only [parseProjectTextPlanResultReference, bind_eq_ok, exists_unit,
    whenPresent_eq_ok] at valid
  obtain ⟨_, brief, artifact, artifactRevision, contentRevision, _, key, request, run, receipt,
    tool, content⟩ := valid
  have kind : Fits 0 nameExtent (jsonName result.kind.text) := by
    cases result.kind <;> exact fits_name (by decide)
  refine fits_record ?_ (by decide)
  exact .cons (field_of_fits kind (by decide)) <|
    .cons (field_of_fits (fits_id key) (by decide)) <|
    .cons (field_of_fits (fits_digest request) (by decide)) <|
    .cons (field_of_fits (fits_id run) (by decide)) <|
    .cons (field_of_fits (fits_id receipt) (by decide)) <|
    .cons (field_of_fits (fits_digest tool) (by decide)) <|
    .cons (field_of_optionalRevision brief (by decide)) <|
    .cons (field_of_optionalId artifact (by decide)) <|
    .cons (field_of_optionalRevision artifactRevision (by decide)) <|
    .cons (field_of_optionalRevision contentRevision (by decide)) <|
    .cons (field_of_fits (fits_digest content) (by decide)) .nil

/-- What a selection takes. -/
def selectionExtent : JsonExtent :=
  recordExtent [fieldExtent nameExtent, fieldExtent idExtent, fieldExtent digestExtent,
    fieldExtent idExtent, fieldExtent numberExtent, fieldExtent numberExtent,
    fieldExtent digestExtent]

/-- A selection takes its extent. -/
theorem fits_selection {selection : ProjectTextPlanSelectionReference}
    (valid : parseProjectTextPlanSelectionReference selection = .ok ()) :
    Fits 1 selectionExtent selection.json := by
  simp only [parseProjectTextPlanSelectionReference, bind_eq_ok, exists_unit] at valid
  obtain ⟨_, key, request, artifact, artifactRevision, contentRevision, content⟩ := valid
  have mode : Fits 0 nameExtent (jsonName selection.mode.text) := by
    cases selection.mode <;> exact fits_name (by decide)
  refine fits_record ?_ (by decide)
  exact .cons (field_of_fits mode (by decide)) <|
    .cons (field_of_fits (fits_id key) (by decide)) <|
    .cons (field_of_fits (fits_digest request) (by decide)) <|
    .cons (field_of_fits (fits_id artifact) (by decide)) <|
    .cons (field_of_fits (fits_revision artifactRevision) (by decide)) <|
    .cons (field_of_fits (fits_revision contentRevision) (by decide)) <|
    .cons (field_of_fits (fits_digest content) (by decide)) .nil

/-- What a terminal event takes. -/
def terminalExtent : JsonExtent :=
  recordExtent [fieldExtent idExtent, fieldExtent numberExtent, fieldExtent numberExtent,
    fieldExtent nameExtent]

/-- A terminal event takes its extent. -/
theorem fits_terminal {terminal : ProjectTextPlanTerminal}
    (valid : parseProjectTextPlanTerminal terminal = .ok ()) :
    Fits 1 terminalExtent terminal.json := by
  simp only [parseProjectTextPlanTerminal, bind_eq_ok, exists_unit] at valid
  obtain ⟨_, event, sequence, revision⟩ := valid
  have status : Fits 0 nameExtent (jsonName terminal.status.text) := by
    cases terminal.status <;> exact fits_name (by decide)
  refine fits_record ?_ (by decide)
  exact .cons (field_of_fits (fits_id event) (by decide)) <|
    .cons (field_of_fits (fits_revision sequence) (by decide)) <|
    .cons (field_of_fits (fits_revision revision) (by decide)) <|
    .cons (field_of_fits status (by decide)) .nil

/-- What the parser checks of a step, apart from its bounds and its digest. -/
structure ValidStep (step : ProjectTextPlanStepBody) : Prop where
  schema : step.schemaVersion = projectTextPlanStepSchema
  episodeId : ∀ episodeId ∈ step.episodeId, projectTextOpaqueId episodeId = .ok ()
  sources : ∀ sources ∈ step.sources, planSources sources = .ok ()
  baseline : ∀ baseline ∈ step.baseline, parseProjectTextPlanBaseline baseline = .ok ()
  input : ∀ input ∈ step.input, parseProjectTextPlanStepInput input = .ok ()
  run : ∀ run ∈ step.run, parseProjectTextPlanStepRun run = .ok ()
  result : ∀ result ∈ step.result, parseProjectTextPlanResultReference result = .ok ()
  selection : ∀ selection ∈ step.selection,
    parseProjectTextPlanSelectionReference selection = .ok ()
  terminal : ∀ terminal ∈ step.terminal, parseProjectTextPlanTerminal terminal = .ok ()
  shape : ¬ step.misshapen
  planId : projectTextOpaqueId step.planId = .ok ()
  planRevision : creativeProjectRevision step.planRevision 1 = .ok ()
  stepId : projectTextOpaqueId step.stepId = .ok ()
  ordinal : planInteger step.ordinal 1 18 = .ok ()
  attempt : creativeProjectRevision step.attempt 1 = .ok ()
  revision : creativeProjectRevision step.revision 1 = .ok ()
  times : planTimes step.createdAt step.updatedAt = .ok ()

/-- The extents of the fields of a step. -/
def stepExtents : List JsonExtent :=
  [fieldExtent nameExtent, fieldExtent idExtent, fieldExtent numberExtent, fieldExtent idExtent,
    fieldExtent numberExtent, fieldExtent nameExtent, fieldExtent idExtent,
    fieldExtent numberExtent, fieldExtent numberExtent, fieldExtent nameExtent,
    fieldExtent sourcesExtent, fieldExtent baselineExtent, fieldExtent inputExtent,
    fieldExtent runExtent, fieldExtent resultExtent, fieldExtent selectionExtent,
    fieldExtent terminalExtent, fieldExtent (textExtent 24), fieldExtent (textExtent 24)]

/-- A record that may be absent, as a field of a step. -/
theorem field_of_part {α : Type} {extent : JsonExtent} {name : String} {write : α → JsonValue}
    {value : Option α} (one : 1 ≤ extent.nodes) (null : 4 ≤ extent.size)
    (fits : ∀ present ∈ value, Fits 1 extent (write present)) (named : NameFits name) :
    FieldFits 2 (fieldExtent extent) (name, .ofOption write value) := by
  refine field_of_option one null ?_ named
  intro present held
  exact (fits present held).mono (by decide) le_rfl le_rfl le_rfl

/-- The fields of a valid step take their extents. -/
theorem fields_of_validStep {step : ProjectTextPlanStepBody} (valid : ValidStep step) :
    List.Forall₂ (FieldFits 2) stepExtents step.fields := by
  have times := planTimes_eq_ok.mp valid.times
  have schema : Fits 0 nameExtent (.string step.schemaVersion) := by
    rw [valid.schema]
    exact fits_text (by decide) (by decide)
  have kind : Fits 0 nameExtent (jsonName step.kind.text) := by
    cases step.kind <;> exact fits_name (by decide)
  have state : Fits 0 nameExtent (jsonName step.state.text) := by
    cases step.state <;> exact fits_name (by decide)
  have ordinal : Fits 0 numberExtent (.number step.ordinal) := by
    have checked := valid.ordinal
    simp only [planInteger, rejectIf_eq_ok, not_or, Bool.not_eq_false] at checked
    exact fits_number checked.1
  have input : ∀ input ∈ step.input, Fits 1 inputExtent input.json :=
    fun input held => fits_input (parseProjectTextPlanStepInput_eq_ok.mp (valid.input input held))
  have run : ∀ run ∈ step.run, Fits 1 runExtent run.json :=
    fun run held => fits_run (parseProjectTextPlanStepRun_eq_ok.mp (valid.run run held))
  exact .cons (field_of_fits schema (by decide)) <|
    .cons (field_of_fits (fits_id valid.planId) (by decide)) <|
    .cons (field_of_fits (fits_revision valid.planRevision) (by decide)) <|
    .cons (field_of_fits (fits_id valid.stepId) (by decide)) <|
    .cons (field_of_fits ordinal (by decide)) <|
    .cons (field_of_fits kind (by decide)) <|
    .cons (field_of_optionalId valid.episodeId (by decide)) <|
    .cons (field_of_fits (fits_revision valid.attempt) (by decide)) <|
    .cons (field_of_fits (fits_revision valid.revision) (by decide)) <|
    .cons (field_of_fits state (by decide)) <|
    .cons (field_of_option (by decide) (by decide)
      (fun sources held => fits_sources (valid.sources sources held)) (by decide)) <|
    .cons (field_of_part (by decide) (by decide)
      (fun baseline held => fits_baseline (valid.baseline baseline held)) (by decide)) <|
    .cons (field_of_part (by decide) (by decide) input (by decide)) <|
    .cons (field_of_part (by decide) (by decide) run (by decide)) <|
    .cons (field_of_part (by decide) (by decide)
      (fun result held => fits_result (valid.result result held)) (by decide)) <|
    .cons (field_of_part (by decide) (by decide)
      (fun selection held => fits_selection (valid.selection selection held)) (by decide)) <|
    .cons (field_of_part (by decide) (by decide)
      (fun terminal held => fits_terminal (valid.terminal terminal held)) (by decide)) <|
    .cons (field_of_fits (fits_timestamp times.1) (by decide)) <|
    .cons (field_of_fits (fits_timestamp times.2.1) (by decide)) .nil

/-- What the parser accepts as a step. -/
theorem parseProjectTextPlanStep_eq_ok {step : ProjectTextPlanStep} :
    parseProjectTextPlanStep sha256 step = .ok () ↔
      creativeProjectRecord
          (.object (step.fields ++ [("contentDigest", .string step.contentDigest)])) = .ok () ∧
        ValidStep step.toProjectTextPlanStepBody ∧
          planChecked sha256 (.object step.fields) step.contentDigest = .ok () := by
  simp only [parseProjectTextPlanStep, bind_eq_ok, exists_unit, rejectIf_eq_ok, whenPresent_eq_ok,
    not_not]
  constructor
  · rintro ⟨record, schema, episode, sources, baseline, input, run, result, selection, terminal,
      shape, planId, planRevision, stepId, ordinal, attempt, revision, times, checked⟩
    exact ⟨record, ⟨schema, episode, sources, baseline, input, run, result, selection, terminal,
      shape, planId, planRevision, stepId, ordinal, attempt, revision, times⟩, checked⟩
  · rintro ⟨record, valid, checked⟩
    exact ⟨record, valid.schema, valid.episodeId, valid.sources, valid.baseline, valid.input,
      valid.run, valid.result, valid.selection, valid.terminal, valid.shape, valid.planId,
      valid.planRevision, valid.stepId, valid.ordinal, valid.attempt, valid.revision, valid.times,
      checked⟩

/-- A step with its digest. -/
def digestedStep (sha256 : JsString → JsString) (body : ProjectTextPlanStepBody) :
    ProjectTextPlanStep :=
  { body with contentDigest := sha256 (stableJson (.object body.fields)) }

/-- A valid step is created. -/
theorem createProjectTextPlanStep_of_valid {body : ProjectTextPlanStepBody}
    (hash : ∀ text, isDigest (sha256 text) = true) (valid : ValidStep body) :
    createProjectTextPlanStep sha256 body = .ok (digestedStep sha256 body) := by
  have fields := fields_of_validStep valid
  have fits := fits_record fields (by decide)
  have digest : Fits 0 digestExtent (.string (sha256 (stableJson (.object body.fields)))) :=
    fits_digest (by simp [creativeProjectDigest, hash])
  have last : FieldFits 2 (fieldExtent digestExtent)
      ("contentDigest", .string (sha256 (stableJson (.object body.fields)))) :=
    field_of_fits digest (by decide)
  have record := fits_record (List.rel_append fields (.cons last .nil)) (by decide)
  have canonical := extensionCanonicalJson_of_fits fits (by decide) (by decide) (by decide)
    (by decide)
  have parsed : parseProjectTextPlanStep sha256 (digestedStep sha256 body) = .ok () := by
    refine parseProjectTextPlanStep_eq_ok.mpr ⟨?_, valid, ?_⟩
    · exact creativeProjectRecord_of_fits record (by decide) (by decide) (by decide) (by decide)
    · exact planChecked_of_fits hash fits (by decide) (by decide) (by decide) (by decide)
  simp only [createProjectTextPlanStep, canonical, ok_bind]
  show (parseProjectTextPlanStep sha256 (digestedStep sha256 body) >>= fun _ => _) = _
  rw [parsed]
  rfl

/-- What is created is the given body, and valid. -/
theorem createProjectTextPlanStep_eq_ok {body : ProjectTextPlanStepBody}
    {step : ProjectTextPlanStep} (created : createProjectTextPlanStep sha256 body = .ok step) :
    step.toProjectTextPlanStepBody = body ∧ ValidStep body := by
  simp only [createProjectTextPlanStep, bind_eq_ok, exists_unit, pure_eq_ok] at created
  obtain ⟨text, _, parsed, rfl⟩ := created
  exact ⟨rfl, (parseProjectTextPlanStep_eq_ok.mp parsed).2.1⟩

/-- What the rules of change ask of a plan, apart from its owner. -/
structure PlanChange (previous next : ProjectTextPlanBody) : Prop where
  revision : next.revision = previous.revision + 1
  current : previous.currentPlanRevision ≤ next.currentPlanRevision ∧
    next.currentPlanRevision ≤ previous.currentPlanRevision + 1
  wake : previous.wakeRevision ≤ next.wakeRevision
  later : isEarlier next.updatedAt previous.updatedAt = false
  alive : previous.state ≠ .revoked
  identity : next.planId = previous.planId ∧ next.profileId = previous.profileId ∧
    next.projectId = previous.projectId ∧ next.threadId = previous.threadId ∧
      next.bindingId = previous.bindingId ∧ next.workspaceId = previous.workspaceId ∧
        next.createdAt = previous.createdAt

/-- What the rules of change accept as a change of a plan. -/
theorem assertProjectTextPlanChange_eq_ok {previous next : ProjectTextPlan} :
    assertProjectTextPlanChange previous next = .ok () ↔
      PlanChange previous.toProjectTextPlanBody next.toProjectTextPlanBody ∧
        jsonText next.owner.json = jsonText previous.owner.json := by
  simp only [assertProjectTextPlanChange, bind_eq_ok, exists_unit, rejectIf_eq_ok, not_or, not_not,
    not_lt, Bool.not_eq_true]
  constructor
  · rintro ⟨⟨revision, low, high, wake, later, alive⟩, identity, owner⟩
    exact ⟨⟨revision, ⟨low, high⟩, wake, later, alive, identity⟩, owner⟩
  · rintro ⟨change, owner⟩
    exact ⟨⟨change.revision, change.current.1, change.current.2, change.wake, change.later,
      change.alive⟩, change.identity, owner⟩

/-- The body that an update makes of a plan. -/
def updatedPlan (plan : ProjectTextPlan) (patch : ProjectTextPlanBody → ProjectTextPlanBody)
    (time : JsString) : ProjectTextPlanBody :=
  { patch plan.toProjectTextPlanBody with
    schemaVersion := projectTextPlanSchema
    revision := plan.revision + 1
    updatedAt := time }

/-- A valid change of a plan is made. -/
theorem updatePlan_of_valid {plan : ProjectTextPlan}
    {patch : ProjectTextPlanBody → ProjectTextPlanBody} {time : JsString}
    (hash : ∀ text, isDigest (sha256 text) = true) (valid : ValidPlan (updatedPlan plan patch time))
    (change : PlanChange plan.toProjectTextPlanBody (updatedPlan plan patch time))
    (owner : (patch plan.toProjectTextPlanBody).owner = plan.owner) :
    updatePlan sha256 plan patch time =
      .ok (digestedPlan sha256 (updatedPlan plan patch time)) := by
  have accepted : assertProjectTextPlanChange plan
      (digestedPlan sha256 (updatedPlan plan patch time)) = .ok () := by
    refine assertProjectTextPlanChange_eq_ok.mpr ⟨change, ?_⟩
    exact congrArg (fun actor => jsonText actor.json) owner
  have created := createProjectTextPlan_of_valid hash valid
  unfold updatedPlan at created accepted
  simp only [updatePlan, created, ok_bind, accepted]
  rfl

/-- What an update makes of a plan. -/
theorem updatePlan_eq_ok {plan next : ProjectTextPlan}
    {patch : ProjectTextPlanBody → ProjectTextPlanBody} {time : JsString}
    (updated : updatePlan sha256 plan patch time = .ok next) :
    next.toProjectTextPlanBody = updatedPlan plan patch time ∧
      ValidPlan next.toProjectTextPlanBody ∧
        PlanChange plan.toProjectTextPlanBody next.toProjectTextPlanBody := by
  simp only [updatePlan, bind_eq_ok, exists_unit, pure_eq_ok] at updated
  obtain ⟨made, created, accepted, rfl⟩ := updated
  obtain ⟨same, valid⟩ := createProjectTextPlan_eq_ok created
  exact ⟨same, same ▸ valid, (assertProjectTextPlanChange_eq_ok.mp accepted).1⟩

/-- What the rules of change ask of a step, apart from its evidence. -/
structure StepChange (previous next : ProjectTextPlanStepBody) : Prop where
  revision : next.revision = previous.revision + 1
  attempt : next.attempt = previous.attempt
  later : isEarlier next.updatedAt previous.updatedAt = false
  identity : next.planId = previous.planId ∧ next.planRevision = previous.planRevision ∧
    next.stepId = previous.stepId ∧ next.ordinal = previous.ordinal ∧
      next.kind = previous.kind ∧ next.episodeId = previous.episodeId ∧
        next.createdAt = previous.createdAt

/-- The evidence of a step is kept. -/
structure EvidenceKept (previous next : ProjectTextPlanStepBody) : Prop where
  input : previous.input ≠ none → next.input = previous.input
  sources : previous.sources ≠ none → next.sources = previous.sources
  baseline : previous.baseline ≠ none → next.baseline = previous.baseline
  run : previous.run ≠ none → next.run = previous.run
  result : previous.result ≠ none → next.result = previous.result
  selection : previous.selection ≠ none → next.selection = previous.selection
  terminal : previous.terminal ≠ none → next.terminal = previous.terminal

/-- Evidence that is kept passes its rule. -/
theorem assertEvidence_of_kept {α : Type} {write : α → JsonValue} {previous next : Option α}
    (kept : previous ≠ none → next = previous) : assertEvidence write previous next = .ok () := by
  simp only [assertEvidence, rejectIf_eq_ok, not_and, not_not]
  intro present
  rw [kept present]

/-- A change of a step that keeps its evidence is accepted. -/
theorem assertProjectTextPlanStepChange_of_kept {previous next : ProjectTextPlanStep}
    (change : StepChange previous.toProjectTextPlanStepBody next.toProjectTextPlanStepBody)
    (kept : EvidenceKept previous.toProjectTextPlanStepBody next.toProjectTextPlanStepBody) :
    assertProjectTextPlanStepChange previous next = .ok () := by
  simp only [assertProjectTextPlanStepChange, bind_eq_ok, exists_unit, rejectIf_eq_ok, not_or,
    not_not, Bool.not_eq_true]
  exact ⟨⟨change.revision, change.attempt, change.later⟩, change.identity,
    assertEvidence_of_kept kept.input, assertEvidence_of_kept kept.sources,
    assertEvidence_of_kept kept.baseline, assertEvidence_of_kept kept.run,
    assertEvidence_of_kept kept.result, assertEvidence_of_kept kept.selection,
    assertEvidence_of_kept kept.terminal⟩

/-- The body that an update makes of a step. -/
def updatedStep (step : ProjectTextPlanStep)
    (patch : ProjectTextPlanStepBody → ProjectTextPlanStepBody) (time : JsString) :
    ProjectTextPlanStepBody :=
  { patch step.toProjectTextPlanStepBody with
    schemaVersion := projectTextPlanStepSchema
    revision := step.revision + 1
    updatedAt := time }

/-- A valid change of a step is made. -/
theorem updateStep_of_valid {step : ProjectTextPlanStep}
    {patch : ProjectTextPlanStepBody → ProjectTextPlanStepBody} {time : JsString}
    (hash : ∀ text, isDigest (sha256 text) = true) (valid : ValidStep (updatedStep step patch time))
    (change : StepChange step.toProjectTextPlanStepBody (updatedStep step patch time))
    (kept : EvidenceKept step.toProjectTextPlanStepBody (updatedStep step patch time)) :
    updateStep sha256 step patch time =
      .ok (digestedStep sha256 (updatedStep step patch time)) := by
  have accepted : assertProjectTextPlanStepChange step
      (digestedStep sha256 (updatedStep step patch time)) = .ok () :=
    assertProjectTextPlanStepChange_of_kept change kept
  have created := createProjectTextPlanStep_of_valid hash valid
  unfold updatedStep at created accepted
  simp only [updateStep, created, ok_bind, accepted]
  rfl

/-- What an update makes of a step. -/
theorem updateStep_eq_ok {step next : ProjectTextPlanStep}
    {patch : ProjectTextPlanStepBody → ProjectTextPlanStepBody} {time : JsString}
    (updated : updateStep sha256 step patch time = .ok next) :
    next.toProjectTextPlanStepBody = updatedStep step patch time ∧
      ValidStep next.toProjectTextPlanStepBody ∧
        StepChange step.toProjectTextPlanStepBody next.toProjectTextPlanStepBody := by
  simp only [updateStep, bind_eq_ok, exists_unit, pure_eq_ok] at updated
  obtain ⟨made, created, accepted, rfl⟩ := updated
  obtain ⟨same, valid⟩ := createProjectTextPlanStep_eq_ok created
  simp only [assertProjectTextPlanStepChange, bind_eq_ok, exists_unit, rejectIf_eq_ok, not_or,
    not_not, Bool.not_eq_true] at accepted
  obtain ⟨⟨revision, attempt, later⟩, identity, _⟩ := accepted
  exact ⟨same, same ▸ valid, revision, attempt, later, identity⟩

end Crewon.Verif.ProjectTextPlan
