import Crewon.Js.Collation
import Crewon.Store.ModelHistoryContext
import Crewon.Store.RunCreation
import Mathlib.Data.List.Sort

/-!
# Lists of runs and automations

The in-memory stores list the runs of a thread and the automations of a space page by page, the
newest first. A page is cut out of what lies behind the cursor in the order of the units of the
texts, and sorted by the comparison of the host's locale.
-/

namespace Crewon.Store

open Crewon.Js Crewon.Domain Crewon.Checked

/-- The place of a record in a list, and the cursor behind it. -/
structure ListCursor where
  updatedAt : JsString
  id : JsString
deriving DecidableEq

/-- The place of the newer record first; of two equally new ones that of the greater id. -/
def compareNewestFirst (collation : Collation) (left right : ListCursor) : Int :=
  let byTime := collation.localeCompare right.updatedAt left.updatedAt
  if byTime = 0 then collation.localeCompare right.id left.id else byTime

/-- A record is listed behind a cursor. -/
def isBeforeCursor (record : ListCursor) (cursor : Option ListCursor) : Bool :=
  cursor.all fun bound => record.updatedAt.before bound.updatedAt ||
    (record.updatedAt = bound.updatedAt && record.id.before bound.id)

section Runs

/-- The cursor behind a run; its `id` is the `runId`. -/
def runCursor (run : RunState) : ListCursor := ⟨run.updatedAt, run.runId⟩

/-- The newest run first. -/
def compareRunsNewestFirst (collation : Collation) (left right : RunState) : Int :=
  compareNewestFirst collation (runCursor left) (runCursor right)

/-- A run is listed behind a cursor. -/
def isBeforeRunCursor (run : RunState) (cursor : Option ListCursor) : Bool :=
  isBeforeCursor (runCursor run) cursor

/-- A page of the runs of a thread. -/
structure ThreadRunListQuery where
  tenantId : JsString
  spaceId : JsString
  threadId : JsString
  before : Option ListCursor
  limit : Int
deriving DecidableEq

/-- The checks of a page. -/
def validateThreadRunListQuery (parse : JsString → Option Int) (query : ThreadRunListQuery) :
    Checked Unit := do
  requireNonEmpty query.tenantId (runStoreError "tenant_id_invalid")
  requireNonEmpty query.spaceId (runStoreError "space_id_invalid")
  requireNonEmpty query.threadId (runStoreError "thread_id_invalid")
  validateLimit query.limit
  whenPresent query.before fun cursor => do
    let _ ← parseQueueTimestamp parse cursor.updatedAt "run_cursor_invalid"
    requireNonEmpty cursor.id (runStoreError "run_cursor_invalid")

/-- The stored runs, in the order in which they were added. They are found by their ids, and their
creation has checked the id and the instant. -/
structure RunTable (parse : JsString → Option Int) where
  runs : List RunState
  distinct : (runs.map (·.runId)).Nodup
  admitted : ∀ run ∈ runs, run.runId.isBlank = false ∧
    ∃ timestamp, parseQueueTimestamp parse run.updatedAt "run_cursor_invalid" = .ok timestamp

/-- A page of the runs of a thread. -/
def listThreadRuns (collation : Collation) {parse : JsString → Option Int} (table : RunTable parse)
    (query : ThreadRunListQuery) : Checked (List RunState) := do
  validateThreadRunListQuery parse query
  let listed := table.runs.filter fun run =>
    run.tenantId = query.tenantId ∧ run.spaceId = query.spaceId ∧ run.threadId = query.threadId ∧
      isBeforeRunCursor run query.before
  let sorted := listed.insertionSort fun left right =>
    compareRunsNewestFirst collation left right ≤ 0
  return sorted.take query.limit.toNat

end Runs

section Automations

/-- A stored automation: what its list reads of the definition, the rest of the definition, and the
digest. -/
structure AutomationDefinitionRecord (Content : Type) where
  automationId : JsString
  tenantId : JsString
  spaceId : JsString
  updatedAt : JsString
  content : Content
  definitionDigest : JsString
deriving DecidableEq

/-- A page of the automations of a space. -/
structure AutomationListQuery where
  tenantId : JsString
  spaceId : JsString
  before : Option ListCursor
  limit : Int
deriving DecidableEq

variable {Content : Type}

/-- The cursor behind an automation; its `id` is the `automationId`. -/
def automationCursor (record : AutomationDefinitionRecord Content) : ListCursor :=
  ⟨record.updatedAt, record.automationId⟩

/-- The stored automations, in the order in which they were added. They are found by their ids, and
their creation has validated them. -/
structure AutomationTable
    (validateAutomationRecord : AutomationDefinitionRecord Content → Checked Unit) where
  automations : List (AutomationDefinitionRecord Content)
  distinct : (automations.map (·.automationId)).Nodup
  admitted : ∀ record ∈ automations, validateAutomationRecord record = .ok ()

/-- A page of the automations of a space. -/
def listAutomations (collation : Collation)
    {validateAutomationRecord : AutomationDefinitionRecord Content → Checked Unit}
    (table : AutomationTable validateAutomationRecord) (query : AutomationListQuery) :
    Checked (List (AutomationDefinitionRecord Content)) :=
  Except.mapError normalizeAutomationStoreError do
    requireNonEmpty query.tenantId (runStoreError "tenant_id_invalid")
    requireNonEmpty query.spaceId (runStoreError "space_id_invalid")
    rejectIf (isSafeInteger query.limit = false ∨ query.limit < 1 ∨ 100 < query.limit)
      (runStoreError "automation_limit_invalid")
    let listed := table.automations.filter fun record =>
      record.tenantId = query.tenantId ∧ record.spaceId = query.spaceId ∧
        isBeforeCursor (automationCursor record) query.before
    let sorted := listed.insertionSort fun left right =>
      compareNewestFirst collation (automationCursor left) (automationCursor right) ≤ 0
    let page := sorted.take query.limit.toNat
    forEach page validateAutomationRecord
    return page

end Automations

end Crewon.Store
