import Crewon.Lib.CursorPaging
import Crewon.Lib.StableSort
import Crewon.Store.RecordListing
import Mathlib

/-!
# Reading the lists of runs and automations page by page

A reader asks for one page after the other, each behind the last record of the page before it. The
pages are sorted by the comparison of the host's locale, but cut off by the order of the units of
the texts. They are complete exactly when the two orders agree on the records that are listed.
-/

namespace Crewon.Verif.RecordListing

open Crewon.Js Crewon.Lib Crewon.Domain Crewon.Checked Crewon.Store

/-- The order of the cursors. -/
def rank (cursor : ListCursor) : JsString ×ₗ JsString := toLex (cursor.updatedAt, cursor.id)

/-- A record is listed behind a cursor when its rank is less. -/
theorem isBeforeCursor_iff (record : ListCursor) (cursor : Option ListCursor) :
    isBeforeCursor record cursor = true ↔ ∀ bound ∈ cursor, rank record < rank bound := by
  cases cursor with
  | none => simp [isBeforeCursor]
  | some bound =>
    have order : rank record < rank bound ↔ record.updatedAt < bound.updatedAt ∨
        record.updatedAt = bound.updatedAt ∧ record.id < bound.id := Prod.Lex.lt_iff
    simp [isBeforeCursor, order, JsString.before_iff]

section Comparison

variable (collation : Collation)

/-- The comparison is negative, or it is zero. -/
theorem compareNewestFirst_nonpos (left right : ListCursor) :
    compareNewestFirst collation left right ≤ 0 ↔
      collation.localeCompare right.updatedAt left.updatedAt < 0 ∨
        collation.localeCompare right.updatedAt left.updatedAt = 0 ∧
          collation.localeCompare right.id left.id ≤ 0 := by
  unfold compareNewestFirst
  dsimp only
  split_ifs with same
  · simp [same]
  · simp only [same, false_and, or_false]
    omega

/-- One of two records may stand first. -/
theorem compareNewestFirst_total (left right : ListCursor) :
    compareNewestFirst collation left right ≤ 0 ∨ compareNewestFirst collation right left ≤ 0 := by
  rw [compareNewestFirst_nonpos, compareNewestFirst_nonpos]
  have times := collation.exchanged right.updatedAt left.updatedAt
  have timesBack := collation.exchanged left.updatedAt right.updatedAt
  have ids := collation.exchanged left.id right.id
  have idsBack := collation.exchanged right.id left.id
  omega

/-- The order in which records may stand is transitive. -/
theorem compareNewestFirst_trans {first second third : ListCursor}
    (front : compareNewestFirst collation first second ≤ 0)
    (back : compareNewestFirst collation second third ≤ 0) :
    compareNewestFirst collation first third ≤ 0 := by
  rw [compareNewestFirst_nonpos] at front back ⊢
  have times := collation.transitive third.updatedAt second.updatedAt first.updatedAt
  have ids := collation.transitive third.id second.id first.id
  -- should the outer two be equally new, then the middle one is as new as each
  have newer := collation.transitive first.updatedAt third.updatedAt second.updatedAt
  have older := collation.transitive second.updatedAt first.updatedAt third.updatedAt
  have outer := collation.exchanged first.updatedAt third.updatedAt
  have outerBack := collation.exchanged third.updatedAt first.updatedAt
  have upper := collation.exchanged first.updatedAt second.updatedAt
  have lower := collation.exchanged second.updatedAt third.updatedAt
  have upperBack := collation.exchanged second.updatedAt first.updatedAt
  have lowerBack := collation.exchanged third.updatedAt second.updatedAt
  omega

end Comparison

section Reading

variable {α : Type} (collation : Collation) (position : α → ListCursor)

/-- The newest record first, by the comparison of the locale. -/
def Comes (left right : α) : Prop :=
  compareNewestFirst collation (position left) (position right) ≤ 0

instance : DecidableRel (Comes collation position) :=
  fun _ _ => inferInstanceAs (Decidable (compareNewestFirst collation _ _ ≤ 0))

instance : IsTrans α (Comes collation position) :=
  ⟨fun _ _ _ => compareNewestFirst_trans collation⟩

instance : Std.Total (Comes collation position) :=
  ⟨fun _ _ => compareNewestFirst_total collation _ _⟩

/-- The comparison of the locale agrees with the order of the cursors on all listed records: of any
two, the one that the comparison puts first (when it finds no difference, the one that was added
first) has the greater cursor. -/
def OrdersAgree (listed : List α) : Prop :=
  listed.Pairwise fun first second =>
    if compareNewestFirst collation (position first) (position second) ≤ 0 then
      rank (position second) < rank (position first)
    else rank (position first) < rank (position second)

/-- Reading page after page returns every listed record once, in one order for all sizes of pages,
and no page is refused. -/
def ReadsAll (listed : List α) (most : Nat)
    (page : Nat → Option ListCursor → Checked (List α)) : Prop :=
  ∃ order : List α, order.Perm listed ∧ ∀ limit, 1 ≤ limit → limit ≤ most → ∀ rounds,
    listed.length < rounds → readCheckedPages position (page limit) rounds none = .ok order

/-- Reading is complete exactly when the orders agree. -/
theorem readsAll_iff {listed : List α} (distinct : listed.Nodup) {most : Nat} (room : 1 ≤ most)
    {page : Nat → Option ListCursor → Checked (List α)}
    (answers : ∀ limit cursor, 1 ≤ limit → limit ≤ most →
      (∀ bound ∈ cursor, ∃ item ∈ listed, position item = bound) →
      page limit cursor = .ok (((listed.filter fun item =>
        isBeforeCursor (position item) cursor).insertionSort (Comes collation position)).take
          limit)) :
    ReadsAll position listed most page ↔ OrdersAgree collation position listed := by
  have permuted := List.perm_insertionSort (Comes collation position) listed
  have pages : ∀ (limit : Nat) (cursor : Option ListCursor), 1 ≤ limit → limit ≤ most →
      ((listed.filter fun item => isBeforeCursor (position item) cursor).insertionSort
        (Comes collation position)).take limit =
      ((listed.insertionSort (Comes collation position)).filter fun item =>
        ∀ bound ∈ cursor, rank (position item) < rank bound).take limit := by
    intro limit cursor _ _
    rw [insertionSort_filter]
    congr 2
    funext item
    rw [Bool.eq_iff_iff, isBeforeCursor_iff, decide_eq_true_iff]
  have read : ∀ limit, 1 ≤ limit → limit ≤ most → ∀ rounds,
      readCheckedPages position (page limit) rounds none = .ok (readPages position (fun cursor =>
        ((listed.filter fun item => isBeforeCursor (position item) cursor).insertionSort
          (Comes collation position)).take limit) rounds none) := by
    intro limit positive few rounds
    refine readCheckedPages_eq_ok (fun cursor item member => ?_)
      (fun cursor known => answers limit cursor positive few known) (by simp)
    have sorted := (List.mem_insertionSort _).mp (List.mem_of_mem_take member)
    exact List.mem_of_mem_filter sorted
  have asymmetric : ∀ first second : ListCursor, rank second < rank first →
      ¬ rank first < rank second := fun first second less => lt_asymm less
  have transitive : ∀ first second third : ListCursor, rank second < rank first →
      rank third < rank second → rank third < rank first :=
    fun first second third front back => back.trans front
  have complete := @readPages_complete_iff _ _ position
    (fun bound cursor => rank cursor < rank bound) _ asymmetric transitive (listed.insertionSort (Comes collation position)) most room _ pages
  rw [insertionSort_pairwise_iff distinct] at complete
  refine Iff.trans ⟨?_, ?_⟩ complete
  · rintro ⟨order, same, all⟩
    refine ⟨order, same.trans permuted.symm, fun limit positive few rounds enough => ?_⟩
    have known := all limit positive few rounds (permuted.length_eq ▸ enough)
    rw [read limit positive few rounds] at known
    exact Except.ok.inj known
  · rintro ⟨order, same, all⟩
    refine ⟨order, same.trans permuted, fun limit positive few rounds enough => ?_⟩
    rw [read limit positive few rounds,
      all limit positive few rounds (permuted.length_eq ▸ enough)]

end Reading

section Lists

/-- The runs of a thread. -/
def threadRuns {parse : JsString → Option Int} (table : RunTable parse)
    (tenantId spaceId threadId : JsString) : List RunState :=
  table.runs.filter fun run =>
    run.tenantId = tenantId ∧ run.spaceId = spaceId ∧ run.threadId = threadId

/-- The automations of a space. -/
def spaceAutomations {Content : Type}
    {validateAutomationRecord : AutomationDefinitionRecord Content → Checked Unit}
    (table : AutomationTable validateAutomationRecord) (tenantId spaceId : JsString) :
    List (AutomationDefinitionRecord Content) :=
  table.automations.filter fun record => record.tenantId = tenantId ∧ record.spaceId = spaceId

/-- A page of runs behind a listed run is not refused. -/
theorem listThreadRuns_eq_ok (collation : Collation) {parse : JsString → Option Int}
    (table : RunTable parse) {tenantId spaceId threadId : JsString}
    (tenant : tenantId.isBlank = false) (space : spaceId.isBlank = false)
    (thread : threadId.isBlank = false) {limit : Nat} (positive : 1 ≤ limit) (few : limit ≤ 1000)
    {cursor : Option ListCursor}
    (known : ∀ bound ∈ cursor, ∃ run ∈ threadRuns table tenantId spaceId threadId,
      runCursor run = bound) :
    listThreadRuns collation table ⟨tenantId, spaceId, threadId, cursor, limit⟩ =
      .ok ((((threadRuns table tenantId spaceId threadId).filter fun run =>
        isBeforeCursor (runCursor run) cursor).insertionSort (Comes collation runCursor)).take
          limit) := by
  have size : isSafeInteger (limit : Int) = true ∧ ¬ limit = 0 ∧ (limit : Int) ≤ maxPageSize := by
    refine ⟨isSafeInteger_iff.mpr ⟨?_, ?_⟩, by omega, ?_⟩
    · unfold maxSafeInteger
      omega
    · unfold maxSafeInteger
      omega
    · unfold maxPageSize
      omega
  have bound : ∀ last, cursor = some last →
      (∃ timestamp, parseQueueTimestamp parse last.updatedAt "run_cursor_invalid" =
        Except.ok timestamp) ∧ last.id.isBlank = false := by
    intro last here
    obtain ⟨run, listed, rfl⟩ := known last here
    obtain ⟨named, read⟩ := table.admitted run (List.mem_of_mem_filter listed)
    exact ⟨read, named⟩
  have accepted : validateThreadRunListQuery parse ⟨tenantId, spaceId, threadId, cursor, limit⟩ =
      .ok () := by
    simpa [validateThreadRunListQuery, requireNonEmpty, validateLimit, tenant, space, thread] using
      ⟨size, bound⟩
  have scope : (table.runs.filter fun run => run.tenantId = tenantId ∧ run.spaceId = spaceId ∧
      run.threadId = threadId ∧ isBeforeRunCursor run cursor) =
      (threadRuns table tenantId spaceId threadId).filter fun run =>
        isBeforeCursor (runCursor run) cursor := by
    rw [threadRuns, List.filter_filter]
    refine List.filter_congr fun run _ => ?_
    rw [Bool.eq_iff_iff, Bool.and_eq_true, decide_eq_true_iff, decide_eq_true_iff]
    unfold isBeforeRunCursor
    tauto
  rw [listThreadRuns, accepted, ok_bind]
  dsimp only
  rw [scope]
  rfl

/-- A page of automations behind a listed automation is not refused. -/
theorem listAutomations_eq_ok (collation : Collation) {Content : Type}
    {validateAutomationRecord : AutomationDefinitionRecord Content → Checked Unit}
    (table : AutomationTable validateAutomationRecord) {tenantId spaceId : JsString}
    (tenant : tenantId.isBlank = false) (space : spaceId.isBlank = false) {limit : Nat}
    (positive : 1 ≤ limit) (few : limit ≤ 100) (cursor : Option ListCursor) :
    listAutomations collation table ⟨tenantId, spaceId, cursor, limit⟩ =
      .ok ((((spaceAutomations table tenantId spaceId).filter fun record =>
        isBeforeCursor (automationCursor record) cursor).insertionSort
          (Comes collation automationCursor)).take limit) := by
  have scope : (table.automations.filter fun record => record.tenantId = tenantId ∧
      record.spaceId = spaceId ∧ isBeforeCursor (automationCursor record) cursor) =
      (spaceAutomations table tenantId spaceId).filter fun record =>
        isBeforeCursor (automationCursor record) cursor := by
    rw [spaceAutomations, List.filter_filter]
    refine List.filter_congr fun record _ => ?_
    rw [Bool.eq_iff_iff, Bool.and_eq_true, decide_eq_true_iff, decide_eq_true_iff]
    tauto
  have size : isSafeInteger (limit : Int) = true ∧ ¬ limit = 0 ∧ limit ≤ 100 := by
    refine ⟨isSafeInteger_iff.mpr ⟨?_, ?_⟩, by omega, few⟩
    · unfold maxSafeInteger
      omega
    · unfold maxSafeInteger
      omega
  unfold listAutomations
  dsimp only
  rw [scope]
  have valid : forEach ((((spaceAutomations table tenantId spaceId).filter fun record =>
      isBeforeCursor (automationCursor record) cursor).insertionSort
        (Comes collation automationCursor)).take limit) validateAutomationRecord = .ok () := by
    rw [forEach_eq_ok]
    intro record member
    have sorted := (List.mem_insertionSort _).mp (List.mem_of_mem_take member)
    have stored := List.mem_of_mem_filter (List.mem_of_mem_filter sorted)
    exact table.admitted record stored
  have limited : (limit : Int).toNat = limit := Int.toNat_natCast limit
  have tenantNamed : requireNonEmpty tenantId (runStoreError "tenant_id_invalid") = .ok () := by
    simp [requireNonEmpty, tenant]
  have spaceNamed : requireNonEmpty spaceId (runStoreError "space_id_invalid") = .ok () := by
    simp [requireNonEmpty, space]
  have sized : rejectIf (isSafeInteger (limit : Int) = false ∨ (limit : Int) < 1 ∨
      100 < (limit : Int)) (runStoreError "automation_limit_invalid") = .ok () := by
    simpa using size
  rw [mapError_eq_ok, tenantNamed, ok_bind, spaceNamed, ok_bind, sized, ok_bind, limited]
  exact bind_eq_ok.mpr ⟨(), valid, rfl⟩

/-- Whatever runs and automations are stored: the runs of a thread and the automations of a space
are read completely, page by page and for every size of pages, exactly when on these records the
comparison of the locale agrees with the order of the cursors. -/
theorem readsAll_iff_ordersAgree (collation : Collation) :
    (∀ (parse : JsString → Option Int) (table : RunTable parse)
        (tenantId spaceId threadId : JsString),
      tenantId.isBlank = false → spaceId.isBlank = false → threadId.isBlank = false →
      (ReadsAll runCursor (threadRuns table tenantId spaceId threadId) 1000 (fun limit before =>
          listThreadRuns collation table ⟨tenantId, spaceId, threadId, before, limit⟩) ↔
        OrdersAgree collation runCursor (threadRuns table tenantId spaceId threadId))) ∧
    ∀ (Content : Type)
        (validateAutomationRecord : AutomationDefinitionRecord Content → Checked Unit)
        (table : AutomationTable validateAutomationRecord) (tenantId spaceId : JsString),
      tenantId.isBlank = false → spaceId.isBlank = false →
      (ReadsAll automationCursor (spaceAutomations table tenantId spaceId) 100 (fun limit before =>
          listAutomations collation table ⟨tenantId, spaceId, before, limit⟩) ↔
        OrdersAgree collation automationCursor (spaceAutomations table tenantId spaceId)) := by
  constructor
  · intro parse table tenantId spaceId threadId tenant space thread
    have distinct : (threadRuns table tenantId spaceId threadId).Nodup :=
      (List.Nodup.of_map _ table.distinct).filter _
    exact readsAll_iff collation runCursor distinct (by omega)
      fun limit cursor positive few known =>
        listThreadRuns_eq_ok collation table tenant space thread positive few known
  · intro Content validateAutomationRecord table tenantId spaceId tenant space
    have distinct : (spaceAutomations table tenantId spaceId).Nodup :=
      (List.Nodup.of_map _ table.distinct).filter _
    exact readsAll_iff collation automationCursor distinct (by omega)
      fun limit cursor positive few _ =>
        listAutomations_eq_ok collation table tenant space positive few cursor

end Lists

section Sample

/-- A run of the sample thread. -/
def sampleRun (runId : JsString) : RunState where
  runId := runId
  threadId := js "thread"
  tenantId := js "tenant"
  spaceId := js "space"
  createdByActorId := js "actor"
  authorityId := js "authority"
  runtimeGeneration := js "generation"
  agentVersionId := js "agent"
  policySnapshotId := js "policy"
  workspaceBindingId := none
  workflowVersionBinding := none
  collaborationMode := .default
  toolPermissionMode := none
  purpose := none
  origin := none
  goalBinding := none
  goalContinuationMode := none
  goalAccounting := none
  plan := none
  usage := .zero
  status := .completed
  revision := 3
  lastSequence := 3
  cancelRequested := false
  waitingApproval := none
  suspensionReasonCode := none
  reconciliationReceiptId := none
  outputRef := none
  failure := none
  createdAt := js "2026-01-01T00:00:00Z"
  updatedAt := js "2026-01-01T00:00:00Z"
  terminalAt := some (js "2026-01-01T00:00:00Z")

/-- The instant of the sample. -/
def sampleParse (_ : JsString) : Option Int := some 1767225600000

/-- Two runs of one instant with a small letter and a capital one as ids. -/
def sampleRuns : RunTable sampleParse where
  runs := [sampleRun (js "a"), sampleRun (js "B")]
  distinct := by decide_cbv
  admitted := by
    intro run member
    simp only [List.mem_cons, List.not_mem_nil, or_false] at member
    rcases member with rfl | rfl
    · exact ⟨by decide_cbv, 1767225600000, by decide_cbv⟩
    · exact ⟨by decide_cbv, 1767225600000, by decide_cbv⟩

/-- The same two ids name automations. -/
def sampleAutomations : AutomationTable fun _ : AutomationDefinitionRecord Unit => .ok () where
  automations := [
    ⟨js "a", js "tenant", js "space", js "2026-01-01T00:00:00Z", (), js "digest"⟩,
    ⟨js "B", js "tenant", js "space", js "2026-01-01T00:00:00Z", (), js "digest"⟩]
  distinct := by decide_cbv
  admitted := fun _ _ => rfl

/-- Pages of one record list the capital letter first and then nothing: the small letter lies behind
no cursor that is ever returned. -/
theorem small_letter_never_listed :
    readCheckedPages runCursor (fun before => listThreadRuns .dictionary sampleRuns
      ⟨js "tenant", js "space", js "thread", before, 1⟩) 3 none = .ok [sampleRun (js "B")] ∧
    ¬ ReadsAll runCursor (threadRuns sampleRuns (js "tenant") (js "space") (js "thread")) 1000
      (fun limit before => listThreadRuns .dictionary sampleRuns
        ⟨js "tenant", js "space", js "thread", before, limit⟩) ∧
    ¬ ReadsAll automationCursor (spaceAutomations sampleAutomations (js "tenant") (js "space")) 100
      (fun limit before => listAutomations .dictionary sampleAutomations
        ⟨js "tenant", js "space", before, limit⟩) := by
  have runs : readCheckedPages runCursor (fun before => listThreadRuns .dictionary sampleRuns
      ⟨js "tenant", js "space", js "thread", before, 1⟩) 3 none = .ok [sampleRun (js "B")] := by
    decide_cbv
  have automations : (readCheckedPages automationCursor (fun before =>
      listAutomations .dictionary sampleAutomations ⟨js "tenant", js "space", before, 1⟩) 3
        none).map List.length = .ok 1 := by
    decide_cbv
  refine ⟨runs, ?_, ?_⟩
  · rintro ⟨order, same, complete⟩
    have read := complete 1 (by omega) (by omega) 3 (by decide_cbv)
    have all : order.length = 2 := by
      rw [same.length_eq]
      decide_cbv
    have one : [sampleRun (js "B")] = order := Except.ok.inj (runs.symm.trans read)
    rw [← one] at all
    exact absurd all (by decide)
  · rintro ⟨order, same, complete⟩
    have read := complete 1 (by omega) (by omega) 3 (by decide_cbv)
    have all : order.length = 2 := by
      rw [same.length_eq]
      decide_cbv
    have one : order.length = 1 :=
      Except.ok.inj ((congrArg (Except.map List.length) read).symm.trans automations)
    omega

/-- Automations of one instant whose ids differ in a digit. -/
def sampleNumbered : AutomationTable fun _ : AutomationDefinitionRecord Unit => .ok () where
  automations := [
    ⟨js "a1", js "tenant", js "space", js "2026-01-01T00:00:00Z", (), js "digest"⟩,
    ⟨js "a2", js "tenant", js "space", js "2026-01-01T00:00:00Z", (), js "digest"⟩]
  distinct := by decide_cbv
  admitted := fun _ _ => rfl

theorem readsAll_sample :
    ReadsAll automationCursor (spaceAutomations sampleNumbered (js "tenant") (js "space")) 100
      (fun limit before => listAutomations .dictionary sampleNumbered
        ⟨js "tenant", js "space", before, limit⟩) :=
  ((readsAll_iff_ordersAgree .dictionary).2 Unit (fun _ => .ok ()) sampleNumbered (js "tenant")
    (js "space") (by decide_cbv) (by decide_cbv)).mpr (by
      unfold OrdersAgree
      decide_cbv)

end Sample

end Crewon.Verif.RecordListing
