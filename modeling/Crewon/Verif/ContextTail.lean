import Crewon.Verif.ContextRepair
import Mathlib.Algebra.Order.BigOperators.Group.List

/-!
# The newest items within the bounds

A list of items that exceeds the bounds is cut down to its newest ones, fewer than the bound and
with room for a result of every call, and then repaired.
-/

namespace Crewon.Verif.ContextTail

open Crewon.Js Crewon.Checked Crewon.Domain Crewon.Lib Crewon.Context
open Crewon.Verif.ModelHistoryProjection Crewon.Verif.ContextRepair

/-- The bytes of items. -/
def bytesOf (items : List ContextHistoryItem) : Int := (items.map itemBytes).sum

/-- The bytes of items with a result for every call. -/
def reservedOf (items : List ContextHistoryItem) : Int :=
  (items.map fun item => itemBytes item + reservedBytes item).sum

/-- The items stay inside the bounds as they are. -/
def Within (maxItems maxBytes : Int) (items : List ContextHistoryItem) : Prop :=
  items.length ≤ maxItems ∧ bytesOf items ≤ maxBytes

/-- The items leave room for one more item, and for a result of every call. -/
structure Reserves (maxItems maxBytes : Int) (items : List ContextHistoryItem) : Prop where
  fewer : items.length ≤ maxItems - 1
  bytes : reservedOf items ≤ maxBytes

/-- What is kept of items: all of them within the bounds, else the longest newest part that leaves
room. -/
structure IsTail (maxItems maxBytes : Int) (input kept : List ContextHistoryItem) : Prop where
  whole : Within maxItems maxBytes input → kept = input
  suffix : kept <:+ input
  room : ¬ Within maxItems maxBytes input → Reserves maxItems maxBytes kept
  longest : ¬ Within maxItems maxBytes input → ∀ other, other <:+ input →
    Reserves maxItems maxBytes other → other <:+ kept

/-- The items as they are shown. -/
def shownItems (items : List ContextHistoryItem) : List ContextHistoryItem :=
  (shown [] (projectionEntries 0 items)).map (·.item)

/-- The ids of the calls among items. -/
def calledIds (items : List ContextHistoryItem) : List JsString :=
  items.filterMap fun item => calledId ⟨0, item⟩

variable {maxItems maxBytes : Int}

/-- No item has fewer than no bytes. -/
theorem itemBytes_nonneg (item : ContextHistoryItem) : 0 ≤ itemBytes item := by
  cases item <;> simp [itemBytes]

/-- No item reserves fewer than no bytes. -/
theorem reservedBytes_nonneg (item : ContextHistoryItem) : 0 ≤ reservedBytes item := by
  cases item <;> simp [reservedBytes]

/-- Fewer items reserve fewer bytes. -/
theorem reservedOf_append (first last : List ContextHistoryItem) :
    reservedOf last ≤ reservedOf (first ++ last) := by
  have front : 0 ≤ reservedOf first := by
    refine List.sum_nonneg fun bytes listed => ?_
    obtain ⟨item, _, rfl⟩ := List.mem_map.mp listed
    exact add_nonneg (itemBytes_nonneg item) (reservedBytes_nonneg item)
  rw [reservedOf, reservedOf, List.map_append, List.sum_append]
  exact le_add_of_nonneg_left front

/-- A newest part of items that leave room leaves room. -/
theorem Reserves.suffix {items part : List ContextHistoryItem}
    (reserves : Reserves maxItems maxBytes items) (newest : part <:+ items) :
    Reserves maxItems maxBytes part := by
  obtain ⟨first, rfl⟩ := newest
  obtain ⟨count, bytes⟩ := reserves
  rw [List.length_append, Nat.cast_add] at count
  exact ⟨by omega, (reservedOf_append first part).trans bytes⟩

/-- The item is valid. -/
def ValidItem (item : ContextHistoryItem) : Prop := validateItem item = .ok (itemBytes item)

/-- The lengths of valid items are added up. -/
theorem itemLengths_valid {items : List ContextHistoryItem}
    (valid : ∀ item ∈ items, ValidItem item) (total : Int) :
    itemLengths total items = .ok (total + bytesOf items) := by
  induction items generalizing total with
  | nil => simp [itemLengths, bytesOf]
  | cons item rest hypothesis =>
    have later := hypothesis (fun found member => valid found (List.mem_cons_of_mem _ member))
      (total + itemBytes item)
    have sum : total + itemBytes item + bytesOf rest = total + bytesOf (item :: rest) := by
      simp [bytesOf, add_assoc]
    rw [itemLengths, valid item List.mem_cons_self, ok_bind, later, sum]

/-- The newest items are the longest newest part that leaves room. -/
theorem newestItems_spec {older kept : List ContextHistoryItem}
    (valid : ∀ item ∈ older, ValidItem item) (room : Reserves maxItems maxBytes kept) :
    ∃ tail, newestItems maxItems maxBytes (reservedOf kept) kept older = .ok tail ∧
      tail <:+ older.reverse ++ kept ∧ Reserves maxItems maxBytes tail ∧
      ∀ other, other <:+ older.reverse ++ kept → Reserves maxItems maxBytes other →
        other <:+ tail := by
  induction older generalizing kept with
  | nil => exact ⟨kept, rfl, by simp, room, fun _ newest _ => by simpa using newest⟩
  | cons next older hypothesis =>
    have whole : (next :: older).reverse ++ kept = older.reverse ++ next :: kept := by simp
    have own : validateItem next = .ok (itemBytes next) := valid next List.mem_cons_self
    have sum : reservedOf kept + (itemBytes next + reservedBytes next) =
        reservedOf (next :: kept) := by
      simp only [reservedOf, List.map_cons, List.sum_cons]
      omega
    -- what cannot be kept with the next item is at most what is kept
    have stops (full : ¬ Reserves maxItems maxBytes (next :: kept)) :
        ∀ other, other <:+ older.reverse ++ next :: kept → Reserves maxItems maxBytes other →
          other <:+ kept := by
      intro other newest reserves
      rcases List.suffix_or_suffix_of_suffix newest (List.suffix_append _ _) with shorter | longer
      · rcases List.suffix_cons_iff.mp shorter with rfl | shorter
        · exact absurd reserves full
        · exact shorter
      · exact absurd (reserves.suffix longer) full
    have inside : kept <:+ older.reverse ++ next :: kept :=
      (List.suffix_cons next kept).trans (List.suffix_append _ _)
    rw [whole, newestItems]
    split
    case isTrue few =>
      rw [own, ok_bind]
      dsimp only
      split
      case isTrue many =>
        have full : ¬ Reserves maxItems maxBytes (next :: kept) := by
          intro reserves
          have bytes := reserves.bytes
          omega
        exact ⟨kept, rfl, inside, room, stops full⟩
      case isFalse fits =>
        have next' : Reserves maxItems maxBytes (next :: kept) := by
          refine ⟨?_, by omega⟩
          rw [List.length_cons, Nat.cast_add]
          omega
        rw [sum]
        exact hypothesis (fun item member => valid item (List.mem_cons_of_mem _ member)) next'
    case isFalse many =>
      have full : ¬ Reserves maxItems maxBytes (next :: kept) := by
        intro reserves
        have count := reserves.fewer
        rw [List.length_cons, Nat.cast_add] at count
        omega
      exact ⟨kept, rfl, inside, room, stops full⟩

/-- The entries of items have the items. -/
theorem projectionEntries_items (index : Int) (items : List ContextHistoryItem) :
    (projectionEntries index items).map (·.item) = items := by
  induction items generalizing index with
  | nil => rfl
  | cons item rest hypothesis => rw [projectionEntries, List.map_cons, hypothesis]

/-- The entries of items are numbered from the index on. -/
theorem projectionEntries_sequence {index : Int} {items : List ContextHistoryItem}
    {entry : ContextProjectionEntry} (member : entry ∈ projectionEntries index items) :
    index < entry.sourceSequence ∧ entry.sourceSequence ≤ index + items.length := by
  induction items generalizing index with
  | nil => simp [projectionEntries] at member
  | cons item rest hypothesis =>
    rw [List.length_cons, Nat.cast_add]
    rcases List.mem_cons.mp member with rfl | later
    · exact ⟨by simp, by simp⟩
    · obtain ⟨above, below⟩ := hypothesis later
      exact ⟨by omega, by omega⟩

/-- The entries of items call what the items call. -/
theorem calledIds_eq (items : List ContextHistoryItem) :
    (projectionEntries 0 items).filterMap calledId = calledIds items := by
  conv_rhs => rw [calledIds, ← projectionEntries_items 0 items, List.filterMap_map]
  refine List.filterMap_congr fun entry _ => ?_
  cases said : entry.item <;> simp [calledId, said]

/-- Entries without changes are shown as they are. -/
theorem shown_of_unchanged {before rest : List ContextProjectionEntry}
    (unchanged : changes before rest = []) : shown before rest = rest := by
  induction rest generalizing before with
  | nil => rfl
  | cons entry rest hypothesis =>
    rw [changes, List.append_eq_nil_iff] at unchanged
    rw [shown, hypothesis unchanged.2]
    have here : shownOf before entry rest = [entry] := by
      have own := unchanged.1
      cases said : entry.item with
      | message => simp [shownOf, said]
      | toolCall | toolResult =>
        simp only [changeOf, said] at own
        split at own <;> simp_all [shownOf]
    rw [here]
    rfl

/-- What is shown has at most the bytes that are reserved. -/
theorem shown_bytes_le (before rest : List ContextProjectionEntry) :
    entryBytes (shown before rest) ≤ reservedOf (rest.map (·.item)) := by
  induction rest generalizing before with
  | nil => simp [shown, entryBytes, reservedOf]
  | cons entry rest hypothesis =>
    have later := hypothesis (before ++ [entry])
    have sum : entryBytes (shown before (entry :: rest)) =
        entryBytes (shownOf before entry rest) + entryBytes (shown (before ++ [entry]) rest) := by
      simp [shown, entryBytes]
    have here : entryBytes (shownOf before entry rest) ≤
        itemBytes entry.item + reservedBytes entry.item := by
      have nonneg := itemBytes_nonneg entry.item
      have free := reservedBytes_nonneg entry.item
      cases said : entry.item with
      | message => simp [shownOf, said, entryBytes, reservedBytes]
      | toolCall kind callId name input =>
        rw [said] at nonneg free
        simp only [shownOf, said]
        split
        · simpa [entryBytes, said] using free
        · simp [entryBytes, said, itemBytes, reservedBytes]
      | toolResult kind callId output =>
        rw [said] at nonneg free
        simp only [shownOf, said]
        split
        · simp [entryBytes, said, reservedBytes]
        · simpa [entryBytes, reservedBytes] using nonneg
    rw [sum]
    have parts : reservedOf ((entry :: rest).map (·.item)) =
        (itemBytes entry.item + reservedBytes entry.item) + reservedOf (rest.map (·.item)) := by
      simp [reservedOf]
    omega

/-- What a list of items is normalised to. -/
def normalOf (items : List ContextHistoryItem) : NormalizedContextHistory where
  items := shownItems items
  sourceSequences := (shown [] (projectionEntries 0 items)).map (·.sourceSequence)
  repairs := changes [] (projectionEntries 0 items)
  historyRewritten := changes [] (projectionEntries 0 items) ≠ []
  byteLength := bytesOf (shownItems items)

/-- Items stay inside the bounds when they are shown. -/
structure Showable (maxItems maxBytes : Int) (items : List ContextHistoryItem) : Prop where
  nonempty : items ≠ []
  distinct : (calledIds items).Nodup
  within : Within maxItems maxBytes items
  shownWithin : Within maxItems maxBytes (shownItems items)

/-- The bytes of entries are those of their items. -/
theorem entryBytes_eq (entries : List ContextProjectionEntry) :
    entryBytes entries = bytesOf (entries.map (·.item)) := by
  simp [entryBytes, bytesOf, Function.comp_def]

/-- Valid items have valid entries. -/
theorem projectionEntries_valid {items : List ContextHistoryItem}
    (valid : ∀ item ∈ items, ValidItem item) (bounded : items.length ≤ 10000) :
    ∀ entry ∈ projectionEntries 0 items, ValidEntry entry := by
  intro entry member
  obtain ⟨above, below⟩ := projectionEntries_sequence member
  have listed : entry.item ∈ items := by
    have inside : entry.item ∈ (projectionEntries 0 items).map (·.item) :=
      List.mem_map_of_mem member
    rwa [projectionEntries_items] at inside
  have safe : entry.sourceSequence ≤ maxSafeInteger := by
    have large : (10000 : Int) ≤ maxSafeInteger := by decide
    omega
  exact ⟨isPositiveInteger_iff.mpr ⟨by omega, safe⟩, valid entry.item listed⟩

/-- Valid items are normalised exactly when they can be shown, and then they are shown. -/
theorem normalizeContextHistory_eq_ok {items : List ContextHistoryItem}
    (valid : ∀ item ∈ items, ValidItem item)
    (limits : validateLimits maxItems maxBytes = .ok ()) {normalized : NormalizedContextHistory} :
    normalizeContextHistory items ⟨some maxItems, some maxBytes⟩ = .ok normalized ↔
      Showable maxItems maxBytes items ∧ normalized = normalOf items := by
  have empty : projectionEntries 0 items = [] ↔ items = [] := by
    cases items <;> simp [projectionEntries]
  have length : (projectionEntries 0 items).length = items.length := by
    rw [← List.length_map (fun entry : ContextProjectionEntry => entry.item),
      projectionEntries_items]
  have bytes : entryBytes (projectionEntries 0 items) = bytesOf items := by
    rw [entryBytes_eq, projectionEntries_items]
  have shownLength : (shown [] (projectionEntries 0 items)).length = (shownItems items).length := by
    rw [shownItems, List.length_map]
  have shownBytes : entryBytes (shown [] (projectionEntries 0 items)) =
      bytesOf (shownItems items) := entryBytes_eq _
  -- items that are kept as they are are the items that are shown
  have result : (if (normalOf items).historyRewritten = true then normalOf items
      else { normalOf items with items := items }) = normalOf items := by
    split
    case isTrue => rfl
    case isFalse unchanged =>
      have none : changes [] (projectionEntries 0 items) = [] := by
        simpa [normalOf] using unchanged
      have same : shownItems items = items := by
        rw [shownItems, shown_of_unchanged none, projectionEntries_items]
      simp [normalOf, same]
  simp only [normalizeContextHistory, bind_eq_ok, pure_eq_ok, normalizeContextHistoryEntries_eq_ok]
  constructor
  · rintro ⟨found, ⟨⟨nonempty, _, distinct, within⟩, rfl⟩, rfl⟩
    have pairedIs : paired (projectionEntries 0 items) = shown [] (projectionEntries 0 items) := by
      rw [paired, repairEntries_whole distinct]
    obtain ⟨_, count, size, shownCount, shownSize⟩ := within
    rw [pairedIs] at shownCount shownSize
    rw [calledIds_eq] at distinct
    refine ⟨⟨mt empty.mpr nonempty, distinct, ⟨length ▸ count, bytes ▸ size⟩,
      ⟨shownLength ▸ shownCount, shownBytes ▸ shownSize⟩⟩, ?_⟩
    rw [shownBytes]
    exact result
  · rintro ⟨⟨nonempty, distinct, ⟨count, size⟩, shownCount, shownSize⟩, rfl⟩
    rw [← calledIds_eq] at distinct
    have pairedIs : paired (projectionEntries 0 items) = shown [] (projectionEntries 0 items) := by
      rw [paired, repairEntries_whole distinct]
    have bounded : items.length ≤ 10000 := by
      simp only [validateLimits, bind_eq_ok, exists_unit, rejectIf_eq_ok] at limits
      omega
    refine ⟨normalOf items, ⟨⟨mt empty.mp nonempty, projectionEntries_valid valid bounded,
      distinct, limits, ?_, ?_, ?_, ?_⟩, ?_⟩, result⟩
    · rw [length]
      exact count
    · rw [bytes]
      exact size
    · rw [pairedIs, shownLength]
      exact shownCount
    · rw [pairedIs, shownBytes]
      exact shownSize
    · rw [shownBytes]
      rfl

/-- A checked limit leaves room for nothing. -/
theorem reserves_nil (limits : validateLimits maxItems maxBytes = .ok ()) :
    Reserves maxItems maxBytes [] := by
  simp only [validateLimits, bind_eq_ok, exists_unit, rejectIf_eq_ok, not_or, Bool.not_eq_false,
    isPositiveInteger_iff] at limits
  refine ⟨?_, ?_⟩
  · rw [List.length_nil]
    omega
  · show (0 : Int) ≤ maxBytes
    omega

/-- What is kept is the tail, and it is returned as it is shown exactly when it can be shown. -/
theorem boundedContextTail_eq_ok {input : List ContextHistoryItem}
    (valid : ∀ item ∈ input, ValidItem item)
    (limits : validateLimits maxItems maxBytes = .ok ()) :
    ∃ kept, IsTail maxItems maxBytes input kept ∧
      ∀ normalized, boundedContextTail input maxItems (some maxBytes) = .ok normalized ↔
        Showable maxItems maxBytes kept ∧ ∃ rewritten,
          (rewritten = true ↔ (normalOf kept).historyRewritten = true ∨
            ¬ Within maxItems maxBytes input) ∧
          normalized = { normalOf kept with historyRewritten := rewritten } := by
  have lengths := itemLengths_valid valid 0
  rw [zero_add] at lengths
  by_cases within : Within maxItems maxBytes input
  · refine ⟨input, ⟨fun _ => rfl, List.suffix_rfl, absurd within, absurd within⟩, ?_⟩
    intro normalized
    have whole : input.length ≤ maxItems ∧ bytesOf input ≤ maxBytes := within
    simp only [boundedContextTail, Option.getD_some, limits, ok_bind, lengths, whole, and_self,
      ↓reduceIte, normalizeContextHistory_eq_ok valid limits]
    refine and_congr_right fun _ => ⟨?_, ?_⟩
    · rintro rfl
      exact ⟨(normalOf input).historyRewritten,
        by simp only [within, not_true_eq_false, or_false], rfl⟩
    · rintro ⟨rewritten, same, rfl⟩
      have equal : rewritten = (normalOf input).historyRewritten := by
        rw [Bool.eq_iff_iff, same]
        simp [within]
      rw [equal]
  · have backwards : ∀ item ∈ input.reverse, ValidItem item := by simpa using valid
    obtain ⟨kept, found, suffix, room, longest⟩ :=
      newestItems_spec backwards (reserves_nil limits)
    rw [List.reverse_reverse, List.append_nil] at suffix longest
    have keptValid : ∀ item ∈ kept, ValidItem item := fun item member =>
      valid item (suffix.subset member)
    refine ⟨kept, ⟨fun inside => absurd inside within, suffix, fun _ => room, fun _ => longest⟩, ?_⟩
    intro normalized
    have cut : ¬ (input.length ≤ maxItems ∧ bytesOf input ≤ maxBytes) := within
    have start : newestItems maxItems maxBytes 0 [] input.reverse = .ok kept := found
    simp only [boundedContextTail, Option.getD_some, limits, ok_bind, lengths, cut, ↓reduceIte,
      start, bind_eq_ok, normalizeContextHistory_eq_ok keptValid limits, pure_eq_ok]
    constructor
    · rintro ⟨_, ⟨showable, rfl⟩, rfl⟩
      exact ⟨showable, true, by simp [within], rfl⟩
    · rintro ⟨showable, rewritten, same, rfl⟩
      have equal : rewritten = true := same.mpr (.inr within)
      exact ⟨_, ⟨showable, rfl⟩, by rw [equal]⟩

/-- What leaves room stays inside the bounds as it is. -/
theorem Reserves.within {items : List ContextHistoryItem}
    (reserves : Reserves maxItems maxBytes items) : Within maxItems maxBytes items := by
  have less : bytesOf items ≤ reservedOf items := by
    refine List.sum_le_sum fun item _ => ?_
    exact le_add_of_nonneg_right (reservedBytes_nonneg item)
  exact ⟨reserves.fewer.trans (by omega), less.trans reserves.bytes⟩

/-- Items that are valid and not empty are cut down to a tail: all of them within the bounds, else
the longest newest part of fewer items than the bound, with room for a result of every call. The
tail is returned as soon as it is not empty, calls distinct ids and is shown within the bounds; for
a part that was cut off this concerns the number of items only. What is returned is always the tail
as it is shown, within the bounds. -/
theorem boundedContextTail_newest {input : List ContextHistoryItem}
    (valid : ∀ item ∈ input, ValidItem item)
    (limits : validateLimits maxItems maxBytes = .ok ()) :
    ∃ kept, IsTail maxItems maxBytes input kept ∧
      (kept ≠ [] → (calledIds kept).Nodup → (shownItems kept).length ≤ maxItems →
        (Within maxItems maxBytes input → bytesOf (shownItems kept) ≤ maxBytes) →
        ∃ normalized, boundedContextTail input maxItems (some maxBytes) = .ok normalized) ∧
      ∀ normalized, boundedContextTail input maxItems (some maxBytes) = .ok normalized →
        normalized.items = shownItems kept ∧
          normalized.repairs = changes [] (projectionEntries 0 kept) ∧
          normalized.byteLength = bytesOf normalized.items ∧
          Within maxItems maxBytes normalized.items ∧
          (normalized.historyRewritten = true ↔
            normalized.repairs ≠ [] ∨ ¬ Within maxItems maxBytes input) := by
  obtain ⟨kept, tail, returns⟩ := boundedContextTail_eq_ok valid limits
  refine ⟨kept, tail, ?_, ?_⟩
  · intro nonempty distinct count size
    have showable : Showable maxItems maxBytes kept := by
      by_cases within : Within maxItems maxBytes input
      · exact ⟨nonempty, distinct, tail.whole within ▸ within, count, size within⟩
      · have room := tail.room within
        refine ⟨nonempty, distinct, room.within, count, ?_⟩
        have bytes := shown_bytes_le [] (projectionEntries 0 kept)
        rw [entryBytes_eq, projectionEntries_items] at bytes
        exact bytes.trans room.bytes
    by_cases rewritten : (normalOf kept).historyRewritten = true ∨ ¬ Within maxItems maxBytes input
    · exact ⟨_, (returns _).mpr ⟨showable, true, by simp only [rewritten], rfl⟩⟩
    · exact ⟨_, (returns _).mpr
        ⟨showable, false, by simp only [rewritten, Bool.false_eq_true], rfl⟩⟩
  · intro normalized returned
    obtain ⟨showable, rewritten, same, rfl⟩ := (returns normalized).mp returned
    refine ⟨rfl, rfl, rfl, showable.shownWithin, ?_⟩
    simpa [normalOf] using same

/-- A message of a user. -/
def sampleMessage (content : String) : ContextHistoryItem := .message .user (js content)

/-- A call. -/
def sampleCall (callId : String) : ContextHistoryItem :=
  .toolCall .function (js callId) (js "f") (js "x")

/-- A result of a call. -/
def sampleResult (callId : String) : ContextHistoryItem :=
  .toolResult .function (js callId) (js "r")

theorem boundedContextTail_newest_sample :
    ∃ kept, IsTail 3 9 [sampleMessage "o", sampleCall "a"] kept := by
  have valid : ∀ item ∈ [sampleMessage "o", sampleCall "a"], ValidItem item := by
    intro item member
    rcases List.mem_cons.mp member with rfl | member
    · exact (by decide_cbv : validateItem (sampleMessage "o") = .ok (itemBytes (sampleMessage "o")))
    · obtain rfl := List.mem_singleton.mp member
      exact (by decide_cbv : validateItem (sampleCall "a") = .ok (itemBytes (sampleCall "a")))
  have limits : validateLimits 3 9 = .ok () := by decide
  obtain ⟨kept, tail, _⟩ := boundedContextTail_newest valid limits
  exact ⟨kept, tail⟩

/-- The tail is not the longest part that is shown within the bounds, and there need not be one:
fewer items are kept than could be, two calls without results have no room, and no item is fewer
than one. -/
theorem tail_is_not_maximal :
    ((boundedContextTail [sampleMessage "o", sampleCall "a", sampleResult "a", sampleMessage "n"] 3
        none).map (·.items) = .ok [sampleMessage "n"] ∧
      shownItems [sampleCall "a", sampleResult "a", sampleMessage "n"] =
        [sampleCall "a", sampleResult "a", sampleMessage "n"]) ∧
    (boundedContextTail [sampleCall "a", sampleCall "b"] 3 none =
        .error (contextHistoryError "normalized_context_item_limit_exceeded") ∧
      (shownItems [sampleCall "b"]).length = 2) ∧
    (boundedContextTail [sampleMessage "o", sampleMessage "n"] 1 none =
        .error (contextHistoryError "context_history_empty") ∧
      (shownItems [sampleMessage "n"]).length = 1) := by
  refine ⟨⟨?_, ?_⟩, ⟨?_, ?_⟩, ⟨?_, ?_⟩⟩ <;> decide_cbv

end Crewon.Verif.ContextTail
