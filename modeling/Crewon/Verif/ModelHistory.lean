import Crewon.Store.ModelHistoryAppend
import Crewon.Domain.ThreadRollback

/-!
# Stored histories

What an accepted append is known to be: valid items of its thread, numbered one after the other.
A history built by accepted appends is therefore numbered from one, and its last sequence is its
length.
-/

namespace Crewon.Verif.ModelHistory

open Crewon.Js Crewon.Checked Crewon.Domain Crewon.Lib Crewon.Store

/-- A valid item of a thread. -/
structure StoredItem (locator : ThreadLocator) (item : ModelHistoryItem) : Prop where
  valid : validateModelHistoryItem item = .ok ()
  tenantId : item.tenantId = locator.tenantId
  threadId : item.threadId = locator.threadId

/-- The items are numbered one after the other. -/
def Numbered : Int → List ModelHistoryItem → Prop
  | _, [] => True
  | next, item :: rest => item.sequence = next ∧ Numbered (next + 1) rest

/-- A history of a thread, numbered from one. -/
structure StoredHistory (locator : ThreadLocator) (history : List ModelHistoryItem) : Prop where
  items : ∀ item ∈ history, StoredItem locator item
  numbered : Numbered 1 history

/-- Two numbered parts, the second one going on where the first one ends. -/
theorem numbered_append {next : Int} {before after : List ModelHistoryItem} :
    Numbered next (before ++ after) ↔
      Numbered next before ∧ Numbered (next + before.length) after := by
  induction before generalizing next with
  | nil => simp [Numbered]
  | cons item rest hypothesis =>
    have shift : next + 1 + (rest.length : Int) = next + ((rest.length + 1 : Nat) : Int) := by
      omega
    simp only [List.cons_append, Numbered, hypothesis, and_assoc, List.length_cons, shift]

/-- An item of a numbered list has the number of its place. -/
theorem Numbered.sequence {next : Int} {items : List ModelHistoryItem}
    (numbered : Numbered next items) {index : Nat} {item : ModelHistoryItem}
    (found : items[index]? = some item) : item.sequence = next + index := by
  induction items generalizing next index with
  | nil => simp at found
  | cons first rest hypothesis =>
    cases index with
    | zero =>
      rw [List.getElem?_cons_zero, Option.some.injEq] at found
      have here := numbered.1
      rw [← found]
      omega
    | succ index =>
      rw [List.getElem?_cons_succ] at found
      have later := hypothesis numbered.2 found
      omega

/-- Numbered items ascend. -/
theorem Numbered.ascending {next : Int} {items : List ModelHistoryItem}
    (numbered : Numbered next items) :
    items.Pairwise fun first second => first.sequence < second.sequence := by
  rw [List.pairwise_iff_getElem]
  intro first second firstBound secondBound ordered
  have firstNumber := numbered.sequence (List.getElem?_eq_getElem firstBound)
  have secondNumber := numbered.sequence (List.getElem?_eq_getElem secondBound)
  omega

variable {locator : ThreadLocator}

/-- The number of the last item is the length of the history. -/
theorem StoredHistory.last {history : List ModelHistoryItem}
    (stored : StoredHistory locator history) :
    (history.getLast?.map (·.sequence)).getD 0 = history.length := by
  cases final : history.getLast? with
  | none =>
    rw [List.getLast?_eq_none_iff] at final
    simp [final]
  | some item =>
    rw [List.getLast?_eq_getElem?] at final
    have number := stored.numbered.sequence final
    have positive : 0 < history.length := by
      by_contra none
      have empty : history = [] := List.length_eq_zero_iff.mp (by omega)
      simp [empty] at final
    simp only [Option.map_some, Option.getD_some]
    omega

/-- The empty history. -/
theorem stored_empty : StoredHistory locator [] :=
  ⟨fun _ member => absurd member List.not_mem_nil, trivial⟩

/-- A history with further items behind it. -/
theorem StoredHistory.append {history items : List ModelHistoryItem}
    (stored : StoredHistory locator history) (valid : ∀ item ∈ items, StoredItem locator item)
    (numbered : Numbered (history.length + 1) items) : StoredHistory locator (history ++ items) := by
  constructor
  · intro item member
    cases List.mem_append.mp member with
    | inl old => exact stored.items item old
    | inr new => exact valid item new
  · refine numbered_append.mpr ⟨stored.numbered, ?_⟩
    rw [Int.add_comm]
    exact numbered

/-- A history is a stored one in front of each of its items. -/
theorem StoredHistory.before {before after : List ModelHistoryItem}
    (stored : StoredHistory locator (before ++ after)) : StoredHistory locator before :=
  ⟨fun item member => stored.items item (List.mem_append_left _ member),
    (numbered_append.mp stored.numbered).1⟩

/-- The items of an accepted append. -/
theorem validateAppendedItems_eq_ok {itemIdExists : JsString → Bool} {itemIds : List JsString}
    {next : Int} {items : List ModelHistoryItem} {result : Unit}
    (accepted : validateAppendedItems locator itemIdExists itemIds next items = .ok result) :
    (∀ item ∈ items, StoredItem locator item) ∧ Numbered next items := by
  induction items generalizing itemIds next with
  | nil => exact ⟨fun _ member => absurd member List.not_mem_nil, trivial⟩
  | cons item rest hypothesis =>
    simp only [validateAppendedItems, bind_eq_ok, exists_unit, mapError_eq_ok,
      rejectIf_eq_ok, not_not] at accepted
    obtain ⟨valid, tenantId, threadId, sequence, _, _, later⟩ := accepted
    obtain ⟨stored, numbered⟩ := hypothesis later
    refine ⟨?_, sequence, numbered⟩
    intro found member
    cases List.mem_cons.mp member with
    | inl here => exact here ▸ ⟨valid, tenantId, threadId⟩
    | inr there => exact stored found there

/-- What an accepted shape says. -/
theorem validateModelHistoryAppendShape_eq_ok {append : ModelHistoryAppend} {last : Int}
    {itemIdExists : JsString → Bool} {result : Unit}
    (accepted : validateModelHistoryAppendShape append locator last itemIdExists = .ok result) :
    (0 ≤ last ∧ last ≤ maxSafeInteger) ∧ (∀ item ∈ append.items, StoredItem locator item) ∧
      Numbered (last + 1) append.items := by
  simp only [validateModelHistoryAppendShape, bind_eq_ok, exists_unit, rejectIf_eq_ok,
    Bool.not_eq_false, isNonNegativeInteger_iff] at accepted
  obtain ⟨_, _, bounds, _, items⟩ := accepted
  exact ⟨bounds, validateAppendedItems_eq_ok items⟩

/-- A valid item has a safe number. -/
theorem StoredItem.safe {item : ModelHistoryItem} (stored : StoredItem locator item) :
    1 ≤ item.sequence ∧ item.sequence ≤ maxSafeInteger := by
  have valid := stored.valid
  simp only [validateModelHistoryItem, bind_eq_ok, exists_unit,
    requirePositiveInteger_eq_ok] at valid
  exact valid.2.2.2.2.1

/-- The checks of what a valid item says. -/
theorem StoredItem.body {item : ModelHistoryItem} (stored : StoredItem locator item) :
    validateModelHistoryBody item = .ok () := by
  have valid := stored.valid
  simp only [validateModelHistoryItem, bind_eq_ok, exists_unit] at valid
  exact valid.2.2.2.2.2.2.2.2.2

/-- A valid tool item belongs to a segment of a run. -/
theorem StoredItem.execution {item : ModelHistoryItem} (stored : StoredItem locator item)
    {callId : JsString} (tool : item.callId = some callId) :
    ∃ runId segmentId, item.runId = some runId ∧ item.segmentId = some segmentId := by
  have valid := stored.body
  have identified : requireExecutionIdentity item = .ok () := by
    cases said : item.body with
    | toolCall kind callId name input =>
      simp only [validateModelHistoryBody, said, bind_eq_ok, exists_unit] at valid
      exact valid.2.2.2
    | toolResult kind callId output isError status =>
      simp only [validateModelHistoryBody, said, bind_eq_ok, exists_unit] at valid
      exact valid.2.2.2
    | message | compaction | rollback => simp [ModelHistoryItem.callId, said] at tool
  simp only [requireExecutionIdentity, rejectIf_eq_ok, not_or] at identified
  exact ⟨_, _, Option.eq_some_of_isSome (Option.isSome_iff_ne_none.mpr identified.1),
    Option.eq_some_of_isSome (Option.isSome_iff_ne_none.mpr identified.2)⟩

/-- A stored marker names the sequence before its own. -/
theorem StoredItem.through {item : ModelHistoryItem} (stored : StoredItem locator item)
    {rollbackId threadEventId : JsString} {requestedTurns removedTurns : Int}
    {fromSequence : Option Int} {through : Int}
    (said : item.body = .rollback rollbackId threadEventId requestedTurns removedTurns fromSequence
      through) : through = item.sequence - 1 := by
  have valid := stored.body
  simp only [validateModelHistoryBody, said, bind_eq_ok, exists_unit, rejectIf_eq_ok, not_or,
    not_not] at valid
  exact valid.2.2.2.2.2.2.2.2.2.1

/-- Numbered valid items have safe numbers throughout. -/
theorem numbered_safe {next : Int} {items : List ModelHistoryItem}
    (valid : ∀ item ∈ items, StoredItem locator item) (numbered : Numbered next items)
    (nonempty : items ≠ []) : next + items.length ≤ maxSafeInteger + 1 := by
  have final : items[items.length - 1]? = some (items.getLast nonempty) := by
    rw [← List.getLast?_eq_getElem?, List.getLast?_eq_some_getLast nonempty]
  have number := numbered.sequence final
  have safe := (valid _ (List.getLast_mem nonempty)).safe
  have positive : 0 < items.length := List.length_pos_iff.mpr nonempty
  omega

/-- A call is known by its run and its id in the run. -/
abbrev CallKey := Option JsString × JsString

/-- The ledger of the calls of a thread. -/
abbrev CallLedger := Ledger CallKey ToolCallDetail

/-- What an item does to the ledger of calls. -/
abbrev move (item : ModelHistoryItem) : LedgerMove CallKey ToolCallDetail := callMove Prod.mk item

/-- The calls that items are about. -/
def callKeys (items : List ModelHistoryItem) : List CallKey :=
  items.filterMap fun item => (move item).key

/-- The items that open a call. -/
theorem move_eq_opens {item : ModelHistoryItem} {key : CallKey} {detail : ToolCallDetail}
    (opens : move item = .opens key detail) : ∃ kind callId name input,
      item.body = .toolCall kind callId name input ∧ key = (item.runId, callId) ∧
        detail = ⟨kind, item.segmentId⟩ := by
  unfold move callMove at opens
  cases said : item.body with
  | toolCall kind callId name input =>
    simp only [said, LedgerMove.opens.injEq] at opens
    exact ⟨kind, callId, name, input, rfl, opens.1.symm, opens.2.symm⟩
  | toolResult | message | compaction | rollback => simp [said] at opens

/-- A thread for the concrete histories of this development. -/
def sampleLocator : ThreadLocator := ⟨js "tenant-1", js "thread-1"⟩

/-- An item of that thread. -/
def sampleItem (sequence : Int) (itemId : String) (runId : Option JsString)
    (body : ModelHistoryBody) : ModelHistoryItem where
  schemaVersion := js "crewon.model-history-item.v0"
  itemId := js itemId
  tenantId := sampleLocator.tenantId
  threadId := sampleLocator.threadId
  sequence := sequence
  runId := runId
  segmentId := runId.map fun _ => js "segment-1"
  createdAt := js "2026-01-01T00:00:00Z"
  body := body

/-- A user instruction. -/
def sampleInstruction (sequence : Int) (itemId : String) : ModelHistoryItem :=
  sampleItem sequence itemId none
    (.message .user .threadMessage (js "go on") (uniformDigest 'a') none)

/-- A tool call of a run. -/
def sampleCall (sequence : Int) (itemId : String) (runId callId : JsString) : ModelHistoryItem :=
  sampleItem sequence itemId (some runId) (.toolCall .function callId (js "search") (js "term"))

/-- The result of a tool call of a run. -/
def sampleResult (sequence : Int) (itemId : String) (runId callId : JsString) :
    ModelHistoryItem :=
  sampleItem sequence itemId (some runId)
    (.toolResult .function callId (js "found") false .completed)

end Crewon.Verif.ModelHistory
