import Crewon.Context.ProjectModelHistory
import Crewon.Lib.Places
import Crewon.Verif.ThreadRollback

/-!
# Reading back what was accepted

A history that the store accepted is valid item by item. What can still keep it from being
projected is a marker that no plan made, a window without content, two visible calls with one id,
and the limits of the reader. Without these every accepted history is projected.
-/

namespace Crewon.Verif.ModelHistoryProjection

open Crewon.Js Crewon.Checked Crewon.Domain Crewon.Lib Crewon.Store Crewon.Context
open Crewon.Verif.ModelHistory Crewon.Verif.ThreadRollback

/-- The histories built from nothing by accepted appends. -/
inductive Accepted (locator : ThreadLocator) : List ModelHistoryItem → Prop where
  | empty : Accepted locator []
  | append {history : List ModelHistoryItem} (append : ModelHistoryAppend)
      (itemIdExists : JsString → Bool) (before : Accepted locator history)
      (accepted : validateModelHistoryAppend append locator history itemIdExists = .ok ()) :
      Accepted locator (history ++ append.items)

/-- The item is a message of a tool. -/
def isToolMessage (item : ModelHistoryItem) : Bool :=
  match item.body with
  | .message .tool _ _ _ _ => true
  | _ => false

/-- Every rollback marker carries the boundary that is planned for the history before it. -/
def MarkersPlanned (history : List ModelHistoryItem) : Prop :=
  ∀ before marker after rollbackId threadEventId requestedTurns removedTurns fromSequence through,
    history = before ++ marker :: after →
      marker.body = .rollback rollbackId threadEventId requestedTurns removedTurns fromSequence
        through →
        ∃ boundary, planModelHistoryRollback before requestedTurns = .ok boundary ∧
          removedTurns = boundary.removedTurns ∧ fromSequence = boundary.historyFromSequence

/-- The item as a model sees it, if it sees it. -/
def presented (item : ModelHistoryItem) : Option ContextProjectionEntry :=
  (projectItem item).toOption.map fun projected => ⟨item.sequence, projected⟩

/-- The entries of a window. -/
def visibleEntries (window : ModelHistoryWindow) : List ContextProjectionEntry :=
  (window.lastCompaction.map compactionEntries).getD [] ++ window.items.filterMap presented

/-- The id of the call an entry makes. -/
def calledId (entry : ContextProjectionEntry) : Option JsString :=
  match entry.item with
  | .toolCall _ callId _ _ => some callId
  | _ => none

/-- The bytes of an item that a model sees. -/
def itemBytes : ContextHistoryItem → Int
  | .message _ content => content.byteLength
  | .toolCall _ _ _ input => input.byteLength
  | .toolResult _ _ output => output.byteLength

/-- The bytes of entries. -/
def entryBytes (entries : List ContextProjectionEntry) : Int :=
  (entries.map fun entry => itemBytes entry.item).sum

/-- The calls of entries by their ids. -/
def callsFrom : Nat → IndexedCalls → List ContextProjectionEntry → IndexedCalls
  | _, calls, [] => calls
  | index, calls, entry :: rest =>
    match entry.item with
    | .toolCall kind callId _ _ => callsFrom (index + 1) (calls.set callId ⟨index, kind⟩) rest
    | _ => callsFrom (index + 1) calls rest

/-- Entries with every tool call paired. -/
def paired (entries : List ContextProjectionEntry) : List ContextProjectionEntry :=
  (repairEntries (matchResults (callsFrom 0 .empty entries) 0 ⟨[], []⟩ entries) 0 entries).1

/-- The entries stay inside the limits of the reader, before and after their repair. -/
structure WithinLimits (options : ContextNormalizationOptions)
    (entries : List ContextProjectionEntry) : Prop where
  limits : validateLimits (options.maxItems.getD defaultMaxItems)
    (options.maxBytes.getD maxContextBytes) = .ok ()
  items : entries.length ≤ options.maxItems.getD defaultMaxItems
  bytes : entryBytes entries ≤ options.maxBytes.getD maxContextBytes
  pairedItems : (paired entries).length ≤ options.maxItems.getD defaultMaxItems
  pairedBytes : entryBytes (paired entries) ≤ options.maxBytes.getD maxContextBytes

/-- A window that a model can be shown. -/
structure Presentable (options : ContextNormalizationOptions) (window : ModelHistoryWindow) :
    Prop where
  nonempty : visibleEntries window ≠ []
  distinct : ((visibleEntries window).filterMap calledId).Nodup
  within : WithinLimits options (visibleEntries window)

variable {locator : ThreadLocator} {history : List ModelHistoryItem}

/-- An accepted history is stored. -/
theorem Accepted.stored (accepted : Accepted locator history) : StoredHistory locator history := by
  induction accepted with
  | empty => exact stored_empty
  | append append itemIdExists before accepted stored =>
    simp only [validateModelHistoryAppend, bind_eq_ok, exists_unit, stored.last] at accepted
    obtain ⟨_, items, numbered⟩ := validateModelHistoryAppendShape_eq_ok accepted.1
    exact stored.append items numbered

/-- A history whose markers are planned is replayed. -/
theorem replay_of_planned (stored : StoredHistory locator history)
    (planned : MarkersPlanned history) :
    ∃ replay, replayEffectiveItems ⟨[], []⟩ history = .ok replay := by
  induction history using List.reverseRecOn with
  | nil => exact ⟨⟨[], []⟩, rfl⟩
  | append_singleton before item hypothesis =>
    have earlier : MarkersPlanned before := by
      intro first marker after rollbackId threadEventId requestedTurns removedTurns fromSequence
        through split said
      refine planned first marker (after ++ [item]) rollbackId threadEventId requestedTurns
        removedTurns fromSequence through ?_ said
      rw [split]
      simp
    obtain ⟨replay, replayed⟩ := hypothesis stored.before earlier
    rw [replayEffectiveItems_append, replayed]
    cases said : item.body with
    | message | toolCall | toolResult | compaction =>
      exact ⟨⟨replay.items ++ [item], replay.rollbackMarkers⟩, by
        simp [replayEffectiveItems, replayEffectiveItem, said]⟩
    | rollback rollbackId threadEventId requestedTurns removedTurns fromSequence through =>
      have own := stored.items item (by simp)
      have number : item.sequence = before.length + 1 := by
        have place : item.sequence = 1 + (before.length : Int) :=
          stored.numbered.sequence (show (before ++ [item])[before.length]? = some item by simp)
        omega
      have reaches : through = before.length := by
        have names := own.through said
        omega
      obtain ⟨boundary, plans, sameTurns, sameFrom⟩ := planned before item [] rollbackId
        threadEventId requestedTurns removedTurns fromSequence through rfl said
      rw [planModelHistoryRollback, replayEffectiveHistory_stored stored.before, replayed] at plans
      have plan : planFromEffectiveItems replay.items requestedTurns through = .ok boundary := by
        rw [reaches]
        exact plans
      have marker := (planFromEffectiveItems_eq_ok plan).marker
      have sameSequence : item.sequence = boundary.markerHistorySequence := by omega
      obtain ⟨after, step⟩ : ∃ after, replayEffectiveItem replay item = .ok after := by
        simp only [replayEffectiveItem, said, plan, ok_bind, rejectIf, sameTurns, sameFrom,
          sameSequence, ne_eq, not_true_eq_false, or_self, ↓reduceIte]
        exact ⟨_, rfl⟩
      simp only [ok_bind, replayEffectiveItems, step]
      exact ⟨_, rfl⟩

/-- An item of the thread passes the checks of a window that reaches far enough. -/
theorem validateWindowItem_stored {through : Int} {identity : Option ModelHistoryItem}
    {item : ModelHistoryItem} (known : ∀ first, identity = some first → StoredItem locator first)
    (stored : StoredItem locator item) (reached : item.sequence ≤ through) :
    ∃ first, validateWindowItem through identity item = .ok (some first) ∧
      StoredItem locator first := by
  have first : StoredItem locator (identity.getD item) := by
    cases identity with
    | none => exact stored
    | some found => exact known found rfl
  refine ⟨identity.getD item, ?_, first⟩
  have inside : ¬ through < item.sequence := not_lt.mpr reached
  simp only [validateWindowItem, stored.valid, ok_bind, rejectIf, first.tenantId,
    stored.tenantId, first.threadId, stored.threadId, ne_eq, not_true_eq_false, inside, or_self,
    ↓reduceIte]
  rfl

/-- Ascending items of the thread pass the checks of a window that reaches far enough. -/
theorem validateWindowItems_stored {through cursor : Int} {identity : Option ModelHistoryItem}
    {items : List ModelHistoryItem}
    (known : ∀ first, identity = some first → StoredItem locator first)
    (stored : ∀ item ∈ items, StoredItem locator item)
    (reached : ∀ item ∈ items, item.sequence ≤ through)
    (behind : ∀ item ∈ items, cursor < item.sequence)
    (ascending : items.Pairwise fun first second => first.sequence < second.sequence) :
    validateWindowItems through identity cursor items = .ok () := by
  induction items generalizing identity cursor with
  | nil => rfl
  | cons item rest hypothesis =>
    obtain ⟨first, checked, own⟩ := validateWindowItem_stored known
      (stored item List.mem_cons_self) (reached item List.mem_cons_self)
    have after : ¬ item.sequence ≤ cursor := not_le.mpr (behind item List.mem_cons_self)
    obtain ⟨ahead, later⟩ := List.pairwise_cons.mp ascending
    have rest := hypothesis (fun found same => Option.some.inj same ▸ own)
      (fun found member => stored found (List.mem_cons_of_mem _ member))
      (fun found member => reached found (List.mem_cons_of_mem _ member)) ahead later
    simp only [validateWindowItems, checked, ok_bind, rejectIf, after, ↓reduceIte, rest]

/-- What a model can be shown as an entry. -/
structure ValidEntry (entry : ContextProjectionEntry) : Prop where
  sequence : isPositiveInteger entry.sourceSequence = true
  item : validateItem entry.item = .ok (itemBytes entry.item)

/-- A message whose text is bounded is accepted with its length. -/
theorem validateItem_message {role : ContextMessageRole} {content : JsString}
    (bounded : isBoundedString content (64 * 1024) = true) :
    validateItem (.message role content) = .ok (itemBytes (.message role content)) := by
  rw [validateItem, if_pos bounded]
  rfl

/-- A text that is not blank is not empty. -/
theorem length_pos_of_not_blank {text : JsString} (notBlank : text.isBlank = false) :
    0 < text.length := by
  by_contra empty
  have none : text.units = [] := List.length_eq_zero_iff.mp (by
    have zero : text.length = 0 := by omega
    exact zero)
  simp [JsString.isBlank, JsString.trim, JsString.length, none] at notBlank

/-- A checked text is bounded, under every larger bound as well. -/
theorem isBoundedString_of_checked {text : JsString} {checked shown : Nat} {code : String}
    (passed : requireItemBounded text checked code = .ok ()) (larger : checked ≤ shown) :
    isBoundedString text shown = true := by
  rw [requireItemBounded, requireBoundedNonEmpty, rejectIf_eq_ok, not_or, Bool.not_eq_true,
    Bool.not_eq_false, JsString.fitsBytes, decide_eq_true_eq] at passed
  have nonempty := length_pos_of_not_blank passed.1
  simp only [isBoundedString, Bool.and_eq_true, decide_eq_true_eq]
  exact ⟨nonempty, passed.2.trans larger⟩

/-- The entry of an item of the history is valid. -/
theorem presented_valid {item : ModelHistoryItem} (stored : StoredItem locator item)
    {entry : ContextProjectionEntry} (shown : presented item = some entry) : ValidEntry entry := by
  have safe : isPositiveInteger item.sequence = true := isPositiveInteger_iff.mpr stored.safe
  have valid := stored.body
  cases said : item.body with
  | message role source content contentDigest origin =>
    simp only [validateModelHistoryBody, said, bind_eq_ok, exists_unit] at valid
    have largest : maxContentBytes source ≤ 64 * 1024 := by cases source <;> decide
    have bounded := isBoundedString_of_checked valid.1 largest
    cases role with
    | tool => simp [presented, projectItem, said, Except.toOption] at shown
    | user | assistant | system =>
      simp only [presented, projectItem, said, Except.toOption, Option.map_some,
        Option.some.injEq] at shown
      rw [← shown]
      exact ⟨safe, validateItem_message bounded⟩
  | toolCall kind callId name input =>
    simp only [validateModelHistoryBody, said, bind_eq_ok, exists_unit] at valid
    have boundedId := isBoundedString_of_checked valid.1 (le_refl 512)
    have boundedName := isBoundedString_of_checked valid.2.1 (le_refl 256)
    have boundedInput : input.byteLength ≤ 32 * 1024 := by
      have passed := valid.2.2.1
      simpa [requireItemStringAtMost, requireBoundedString, JsString.fitsBytes] using passed
    simp only [presented, projectItem, said, Except.toOption, Option.map_some,
      Option.some.injEq] at shown
    rw [← shown]
    exact ⟨safe, by simp [validateItem, boundedId, boundedName, boundedInput, itemBytes]⟩
  | toolResult kind callId output isError status =>
    simp only [validateModelHistoryBody, said, bind_eq_ok, exists_unit] at valid
    have boundedId := isBoundedString_of_checked valid.1 (le_refl 512)
    have boundedOutput : output.byteLength ≤ 40000 := by
      have passed := valid.2.1
      simpa [requireItemStringAtMost, requireBoundedString, JsString.fitsBytes] using passed
    simp only [presented, projectItem, said, Except.toOption, Option.map_some,
      Option.some.injEq] at shown
    rw [← shown]
    exact ⟨safe, by simp [validateItem, boundedId, boundedOutput, itemBytes]⟩
  | compaction | rollback => simp [presented, projectItem, said, Except.toOption] at shown

set_option maxRecDepth 4000 in
/-- The introduction of a summary is short. -/
theorem summaryPrefix_bound : contextCompactionSummaryPrefix.byteLength ≤ 4096 :=
  (byteLength_js_le _).trans (by decide +kernel)

/-- The entries of a stored compaction are valid. -/
theorem compactionEntries_valid {item : ModelHistoryItem} (stored : StoredItem locator item)
    {entry : ContextProjectionEntry} (member : entry ∈ compactionEntries item) :
    ValidEntry entry := by
  have safe : isPositiveInteger item.sequence = true := isPositiveInteger_iff.mpr stored.safe
  have valid := stored.body
  cases said : item.body with
  | compaction mode replaces sourceDigest summary summaryDigest retained =>
    simp only [validateModelHistoryBody, said, bind_eq_ok, exists_unit, forEach_eq_ok] at valid
    simp only [compactionEntries, said, List.mem_append, List.mem_map, List.mem_singleton] at member
    rcases member with ⟨message, kept, rfl⟩ | rfl
    · have checks := valid.2.2.2.2.1 message kept
      simp only [validateRetainedUserMessage, bind_eq_ok, exists_unit] at checks
      have bounded := isBoundedString_of_checked checks.1 (show 32 * 1024 ≤ 64 * 1024 by decide)
      exact ⟨safe, validateItem_message bounded⟩
    · have summaryBound : summary.byteLength ≤ 32 * 1024 := by
        have bounded := isBoundedString_of_checked valid.2.1 (le_refl (32 * 1024))
        simp only [isBoundedString, Bool.and_eq_true, decide_eq_true_eq] at bounded
        exact bounded.2
      have head := summaryPrefix_bound
      have newline : (⟨[unit '\n']⟩ : JsString).byteLength ≤ 3 := JsString.byteLength_le_length _
      have headJoined := JsString.byteLength_append_le contextCompactionSummaryPrefix
        ⟨[unit '\n']⟩
      have joined := JsString.byteLength_append_le
        (contextCompactionSummaryPrefix ++ ⟨[unit '\n']⟩) summary
      have nonempty : 0 <
          (contextCompactionSummaryPrefix ++ ⟨[unit '\n']⟩ ++ summary : JsString).length := by
        simp [JsString.length]
      have bounded : isBoundedString (contextCompactionSummaryPrefix ++ ⟨[unit '\n']⟩ ++ summary)
          (64 * 1024) = true := by
        simp only [isBoundedString, Bool.and_eq_true, decide_eq_true_eq]
        exact ⟨nonempty, by omega⟩
      exact ⟨safe, validateItem_message bounded⟩
  | message | toolCall | toolResult | rollback => simp [compactionEntries, said] at member

/-- Valid entries with distinct calls are collected. -/
theorem collectCalls_valid {entries : List ContextProjectionEntry}
    (valid : ∀ entry ∈ entries, ValidEntry entry) {calls : IndexedCalls}
    (fresh : ∀ callId ∈ entries.filterMap calledId, calls.find callId = none)
    (distinct : (entries.filterMap calledId).Nodup) (index : Nat) (total : Int) :
    collectCalls index calls total entries =
      .ok (callsFrom index calls entries, total + entryBytes entries) := by
  induction entries generalizing calls index total with
  | nil => simp [collectCalls, callsFrom, entryBytes]
  | cons entry rest hypothesis =>
    have own := valid entry List.mem_cons_self
    have validRest : ∀ entry ∈ rest, ValidEntry entry :=
      fun found member => valid found (List.mem_cons_of_mem _ member)
    have sum : total + itemBytes entry.item + entryBytes rest =
        total + entryBytes (entry :: rest) := by
      simp [entryBytes, add_assoc]
    cases said : entry.item with
    | toolCall kind callId name input =>
      have called : calledId entry = some callId := by simp [calledId, said]
      rw [List.filterMap_cons_some called] at fresh distinct
      obtain ⟨notAgain, distinctRest⟩ := List.nodup_cons.mp distinct
      have unused : calls.find callId = none := fresh callId List.mem_cons_self
      have freshRest : ∀ other ∈ rest.filterMap calledId,
          (calls.set callId ⟨index, kind⟩).find other = none := by
        intro other member
        have different : other ≠ callId := fun same => notAgain (same ▸ member)
        rw [OrderedMap.find_set_of_ne different]
        exact fresh other (List.mem_cons_of_mem _ member)
      have later := hypothesis validRest freshRest distinctRest (index + 1)
        (total + itemBytes entry.item)
      rw [sum] at later
      have checks := own.item
      rw [said] at checks later
      simp only [collectCalls, own.sequence, ok_bind, said, checks, unused, Option.isSome_none,
        rejectIf, Bool.true_eq_false, Bool.false_eq_true, ↓reduceIte, callsFrom, later]
    | message | toolResult =>
      have called : calledId entry = none := by simp [calledId, said]
      rw [List.filterMap_cons_none called] at fresh distinct
      have later := hypothesis validRest fresh distinct (index + 1) (total + itemBytes entry.item)
      rw [sum] at later
      have checks := own.item
      rw [said] at checks later
      simp only [collectCalls, own.sequence, ok_bind, said, checks, rejectIf,
        Bool.true_eq_false, ↓reduceIte, callsFrom, later]

/-- The repair of valid entries yields valid entries. -/
theorem repairEntries_valid {matching : MatchedTools} {entries : List ContextProjectionEntry}
    (valid : ∀ entry ∈ entries, ValidEntry entry) (index : Nat) :
    ∀ entry ∈ (repairEntries matching index entries).1, ValidEntry entry := by
  induction entries generalizing index with
  | nil => exact fun _ member => absurd member List.not_mem_nil
  | cons first rest hypothesis =>
    have own := valid first List.mem_cons_self
    have later := hypothesis (fun found member => valid found (List.mem_cons_of_mem _ member))
      (index + 1)
    intro entry member
    cases List.mem_append.mp member with
    | inr behind => exact later entry behind
    | inl here =>
      cases said : first.item with
      | message role content =>
        simp only [repairEntry, said, List.mem_singleton] at here
        exact here ▸ own
      | toolResult kind callId output =>
        simp only [repairEntry, said] at here
        split at here
        · exact List.mem_singleton.mp here ▸ own
        · exact absurd here List.not_mem_nil
      | toolCall kind callId name input =>
        simp only [repairEntry, said] at here
        split at here
        · exact List.mem_singleton.mp here ▸ own
        · rcases List.mem_cons.mp here with same | inserted
          · exact same ▸ own
          · rw [List.mem_singleton.mp inserted]
            have checks := own.item
            rw [said] at checks
            have boundedId : isBoundedString callId 512 = true := by
              by_contra unbounded
              simp [validateItem, unbounded] at checks
            have short : missingToolResultOutput.byteLength ≤ 40000 :=
              (byteLength_js_le _).trans (by decide)
            exact ⟨own.sequence, by simp [validateItem, boundedId, short, itemBytes]⟩

/-- Valid entries are added up. -/
theorem addLengths_valid {entries : List ContextProjectionEntry}
    (valid : ∀ entry ∈ entries, ValidEntry entry) (total : Int) :
    addLengths total entries = .ok (total + entryBytes entries) := by
  induction entries generalizing total with
  | nil => simp [addLengths, entryBytes]
  | cons entry rest hypothesis =>
    have later := hypothesis (fun found member => valid found (List.mem_cons_of_mem _ member))
      (total + itemBytes entry.item)
    have sum : total + itemBytes entry.item + entryBytes rest =
        total + entryBytes (entry :: rest) := by
      simp [entryBytes, add_assoc]
    rw [addLengths, (valid entry List.mem_cons_self).item, ok_bind, later, sum]

/-- Valid entries with distinct calls inside the limits are normalised. -/
theorem normalizeContextHistoryEntries_valid {options : ContextNormalizationOptions}
    {entries : List ContextProjectionEntry} (valid : ∀ entry ∈ entries, ValidEntry entry)
    (nonempty : entries ≠ []) (distinct : (entries.filterMap calledId).Nodup)
    (within : WithinLimits options entries) :
    ∃ normalized, normalizeContextHistoryEntries entries options = .ok normalized := by
  have collected := collectCalls_valid valid
    (fun callId _ => (rfl : (OrderedMap.empty : IndexedCalls).find callId = none)) distinct 0 0
  have kept : ∀ entry ∈ (repairEntries
      (matchResults (callsFrom 0 .empty entries) 0 ⟨[], []⟩ entries) 0 entries).1,
      ValidEntry entry := repairEntries_valid valid 0
  have repaired := addLengths_valid kept 0
  have items := not_lt.mpr within.items
  have bytes := not_lt.mpr within.bytes
  have pairedItems := not_lt.mpr within.pairedItems
  have pairedBytes := not_lt.mpr within.pairedBytes
  unfold paired at pairedItems pairedBytes
  rw [zero_add] at collected repaired
  simp only [normalizeContextHistoryEntries, within.limits, ok_bind, rejectIf, nonempty, items,
    collected, bytes, pairedItems, repaired, pairedBytes, ↓reduceIte]
  exact ⟨_, rfl⟩

/-- Items that a model sees are projected one by one. -/
theorem itemEntries_visible {items : List ModelHistoryItem}
    (visible : ∀ item ∈ items, item.isCompaction = false ∧ item.isRollback = false ∧
      isToolMessage item = false) : itemEntries items = .ok (items.filterMap presented) := by
  induction items with
  | nil => rfl
  | cons item rest hypothesis =>
    have later := hypothesis fun found member => visible found (List.mem_cons_of_mem _ member)
    have own := visible item List.mem_cons_self
    obtain ⟨projected, projects⟩ : ∃ projected, projectItem item = .ok projected := by
      cases said : item.body with
      | message role =>
        cases role with
        | tool => simp [isToolMessage, said] at own
        | user | assistant | system =>
          simp only [projectItem, said]
          exact ⟨_, rfl⟩
      | toolCall | toolResult =>
        simp only [projectItem, said]
        exact ⟨_, rfl⟩
      | compaction => simp [ModelHistoryItem.isCompaction, said] at own
      | rollback => simp [ModelHistoryItem.isRollback, said] at own
    have shown : presented item = some ⟨item.sequence, projected⟩ := by
      simp only [presented, projects, Except.toOption, Option.map_some]
    simp only [itemEntries, projects, ok_bind, later, List.filterMap_cons_some shown]
    rfl

/-- A stored history is numbered as the projection expects. -/
theorem validateHistorySequence_stored (stored : StoredHistory locator history)
    (nonempty : history ≠ []) : validateHistorySequence history = .ok () := by
  simp only [validateHistorySequence, bind_eq_ok, exists_unit, forEach_eq_ok, rejectIf_eq_ok,
    not_not]
  refine ⟨nonempty, ?_⟩
  intro entry member
  have number := stored.numbered.sequence (List.mem_zipIdx_iff_getElem?.mp member)
  omega

/-- What the replay of a stored history is projected to. -/
theorem projectEffectiveModelHistory_stored {replay : EffectiveReplay}
    (stored : StoredHistory locator history)
    (replayed : replayEffectiveItems ⟨[], []⟩ history = .ok replay) :
    projectEffectiveModelHistory history = .ok {
      items := replay.items
      rollbackMarkers := replay.rollbackMarkers
      latestRollback := replay.rollbackMarkers.getLast?
      throughHistorySequence := history.length } := by
  rw [projectEffectiveModelHistory, replayEffectiveHistory_stored stored, replayed]
  rfl

/-- A window in which everything comes from one stored history. -/
structure WindowOf (locator : ThreadLocator) (history : List ModelHistoryItem)
    (window : ModelHistoryWindow) : Prop where
  items : window.items.Sublist history
  plain : ∀ item ∈ window.items, item.isCompaction = false ∧ item.isRollback = false
  behind : ∀ item ∈ window.items, replacedThrough window.lastCompaction < item.sequence
  lastCompaction : ∀ compaction, window.lastCompaction = some compaction →
    compaction ∈ history ∧ compaction.isCompaction = true
  latestRollback : ∀ marker, window.latestRollback = some marker →
    marker ∈ history ∧ marker.isRollback = true
  through : window.throughHistorySequence = history.length

/-- The window of the replay of a history comes from the history. -/
theorem windowOf_replay {replay : EffectiveReplay} (of : ReplayOf history replay) :
    WindowOf locator history (effectiveWindow {
      items := replay.items
      rollbackMarkers := replay.rollbackMarkers
      latestRollback := replay.rollbackMarkers.getLast?
      throughHistorySequence := history.length }) where
  items := (List.filter_sublist.trans List.filter_sublist).trans of.sublist
  plain := by
    intro item member
    obtain ⟨inEffect, notCompaction⟩ := List.mem_filter.mp (List.mem_of_mem_filter member)
    exact ⟨by simpa using notCompaction, of.effective item inEffect⟩
  behind := fun item member => of_decide_eq_true (List.mem_filter.mp member).2
  lastCompaction := by
    intro compaction last
    obtain ⟨inEffect, isCompaction⟩ := List.mem_filter.mp (List.mem_of_getLast? last)
    exact ⟨of.sublist.subset inEffect, isCompaction⟩
  latestRollback := fun marker last => of.markers marker (List.mem_of_getLast? last)
  through := rfl

/-- The item is inside its history. -/
theorem sequence_le_length (stored : StoredHistory locator history) {item : ModelHistoryItem}
    (member : item ∈ history) : item.sequence ≤ history.length := by
  obtain ⟨index, bound, found⟩ := List.getElem_of_mem member
  have number := stored.numbered.sequence (List.getElem?_eq_some_iff.mpr ⟨bound, found⟩)
  omega

/-- An item of the history passes the checks in front of a window. -/
theorem validateFrontItem_stored (stored : StoredHistory locator history)
    {identity front : Option ModelHistoryItem}
    (known : ∀ first, identity = some first → StoredItem locator first)
    (here : ∀ item, front = some item → item ∈ history) :
    ∃ first, validateFrontItem history.length identity front = .ok first ∧
      ∀ item, first = some item → StoredItem locator item := by
  cases front with
  | none => exact ⟨identity, rfl, known⟩
  | some item =>
    have member := here item rfl
    obtain ⟨first, checked, own⟩ := validateWindowItem_stored known (stored.items item member)
      (sequence_le_length stored member)
    exact ⟨some first, checked, fun found same => Option.some.inj same ▸ own⟩

/-- A window of a stored history that a model can be shown is projected. -/
theorem projectModelHistoryWindow_stored {options : ContextNormalizationOptions}
    {window : ModelHistoryWindow} (stored : StoredHistory locator history)
    (of : WindowOf locator history window) (nonempty : history ≠ [])
    (spoken : ∀ item ∈ history, isToolMessage item = false)
    (shown : Presentable options window) :
    ∃ projection, projectModelHistoryWindow window options = .ok projection := by
  have compactionIs : window.lastCompaction.all (·.isCompaction) = true := by
    cases last : window.lastCompaction with
    | none => rfl
    | some compaction => exact (of.lastCompaction compaction last).2
  have markerIs : window.latestRollback.all (·.isRollback) = true := by
    cases last : window.latestRollback with
    | none => rfl
    | some marker => exact (of.latestRollback marker last).2
  have positive : isPositiveInteger history.length = true := by
    have safe := numbered_safe stored.items stored.numbered nonempty
    have length := List.length_pos_iff.mpr nonempty
    rw [isPositiveInteger_iff]
    omega
  obtain ⟨afterCompaction, compactionChecked, compactionKnown⟩ := validateFrontItem_stored stored
    (fun first (absent : none = some first) => by cases absent)
    (fun item last => (of.lastCompaction item last).1)
  obtain ⟨afterRollback, markerChecked, markerKnown⟩ := validateFrontItem_stored stored
    compactionKnown (fun item last => (of.latestRollback item last).1)
  have itemsChecked : validateWindowItems history.length afterRollback
      (replacedThrough window.lastCompaction) window.items = .ok () :=
    validateWindowItems_stored markerKnown
      (fun item member => stored.items item (of.items.subset member))
      (fun item member => sequence_le_length stored (of.items.subset member)) of.behind
      (stored.numbered.ascending.sublist of.items)
  have projected : itemEntries window.items = .ok (window.items.filterMap presented) :=
    itemEntries_visible fun item member =>
      ⟨(of.plain item member).1, (of.plain item member).2, spoken item (of.items.subset member)⟩
  have valid : ∀ entry ∈ visibleEntries window, ValidEntry entry := by
    intro entry member
    cases List.mem_append.mp member with
    | inl fromCompaction =>
      cases last : window.lastCompaction with
      | none => simp [last] at fromCompaction
      | some compaction =>
        rw [last] at fromCompaction
        exact compactionEntries_valid
          (stored.items compaction (of.lastCompaction compaction last).1) fromCompaction
    | inr fromItems =>
      obtain ⟨item, inWindow, shows⟩ := List.mem_filterMap.mp fromItems
      exact presented_valid (stored.items item (of.items.subset inWindow)) shows
  obtain ⟨normalized, normalizes⟩ :=
    normalizeContextHistoryEntries_valid valid shown.nonempty shown.distinct shown.within
  unfold visibleEntries at normalizes
  simp only [projectModelHistoryWindow, of.through, compactionIs, markerIs, positive, ok_bind,
    rejectIf, Bool.true_eq_false, or_self, ↓reduceIte, compactionChecked, markerChecked,
    itemsChecked, projected, normalizes]
  exact ⟨_, rfl⟩

/-- Whatever the store accepts is projected, as long as the markers are planned ones and a model
can be shown what is left. -/
theorem projectModelHistory_of_accepted (options : ContextNormalizationOptions)
    (accepted : Accepted locator history)
    (spoken : ∀ item ∈ history, isToolMessage item = false) (planned : MarkersPlanned history)
    (visible : ∀ effective, projectEffectiveModelHistory history = .ok effective →
      Presentable options (effectiveWindow effective)) :
    ∃ projection, projectModelHistory history options = .ok projection := by
  have stored := accepted.stored
  obtain ⟨replay, replayed⟩ := replay_of_planned stored planned
  have effective := projectEffectiveModelHistory_stored stored replayed
  have shown := visible _ effective
  have nonempty : history ≠ [] := by
    intro none
    rw [none] at replayed
    obtain rfl := Except.ok.inj replayed
    exact shown.nonempty rfl
  have checked := validateHistorySequence_stored stored nonempty
  obtain ⟨projection, projects⟩ := projectModelHistoryWindow_stored stored
    (windowOf_replay (replayEffectiveItems_of replayed)) nonempty spoken shown
  refine ⟨projection, ?_⟩
  rw [projectModelHistory, checked, ok_bind, effective, ok_bind]
  exact projects

/-- A marker that is planned keeps the markers planned, and so does any other item. -/
theorem MarkersPlanned.concat (planned : MarkersPlanned history) {item : ModelHistoryItem}
    (own : ∀ rollbackId threadEventId requestedTurns removedTurns fromSequence through,
      item.body = .rollback rollbackId threadEventId requestedTurns removedTurns fromSequence
        through →
        ∃ boundary, planModelHistoryRollback history requestedTurns = .ok boundary ∧
          removedTurns = boundary.removedTurns ∧ fromSequence = boundary.historyFromSequence) :
    MarkersPlanned (history ++ [item]) := by
  intro before marker after rollbackId threadEventId requestedTurns removedTurns fromSequence
    through split said
  rcases concat_eq_append_cons split with ⟨rfl, rfl⟩ | ⟨between, shorter⟩
  · exact own rollbackId threadEventId requestedTurns removedTurns fromSequence through said
  · exact planned before marker between rollbackId threadEventId requestedTurns removedTurns
      fromSequence through shorter said

/-- A rollback marker. -/
def sampleMarker (sequence : Int) (itemId : String) (removedTurns : Int)
    (fromSequence : Option Int) : ModelHistoryItem :=
  sampleItem sequence itemId none
    (.rollback (js "rollback-1") (js "event-1") 1 removedTurns fromSequence (sequence - 1))

/-- A turn with a tool call, and a second turn. -/
def turnsHistory : List ModelHistoryItem :=
  [sampleInstruction 1 "a", sampleCall 2 "b" (js "run-1") (js "call-1"),
    sampleResult 3 "c" (js "run-1") (js "call-1"), sampleInstruction 4 "d"]

/-- A history whose last turn is rolled back. -/
def rolledBackHistory : List ModelHistoryItem := turnsHistory ++ [sampleMarker 5 "e" 1 (some 4)]

/-- What a single append puts into an empty history. -/
theorem accepted_single {items : List ModelHistoryItem}
    (accepted : validateModelHistoryAppend ⟨0, items⟩ sampleLocator [] (fun _ => false) = .ok ()) :
    Accepted sampleLocator items :=
  Accepted.append ⟨0, items⟩ (fun _ => false) .empty accepted

/-- The default limits leave room for the history above. -/
theorem projectModelHistory_of_accepted_rolledBack :
    ∃ projection, projectModelHistory rolledBackHistory ⟨none, none⟩ = .ok projection := by
  have accepted : Accepted sampleLocator rolledBackHistory :=
    accepted_single (by decide +kernel)
  have plain : MarkersPlanned turnsHistory := by
    have none : ∀ item ∈ turnsHistory, item.isRollback = false := by decide +kernel
    intro before marker after rollbackId threadEventId requestedTurns removedTurns fromSequence
      through split said
    have absent := none marker (by rw [split]; simp)
    simp [ModelHistoryItem.isRollback, said] at absent
  have planned : MarkersPlanned rolledBackHistory := by
    refine plain.concat ?_
    intro rollbackId threadEventId requestedTurns removedTurns fromSequence through said
    simp only [sampleMarker, sampleItem, ModelHistoryBody.rollback.injEq] at said
    obtain ⟨-, -, rfl, rfl, rfl, -⟩ := said
    exact ⟨⟨1, 1, some 4, 4, 5⟩, by decide +kernel, rfl, rfl⟩
  have effective : projectEffectiveModelHistory rolledBackHistory =
      .ok ⟨turnsHistory.take 3, [sampleMarker 5 "e" 1 (some 4)],
        some (sampleMarker 5 "e" 1 (some 4)), 5⟩ := by decide +kernel
  refine projectModelHistory_of_accepted ⟨none, none⟩ accepted (by decide +kernel) planned ?_
  intro found same
  obtain rfl := Except.ok.inj (effective.symm.trans same)
  exact ⟨by decide +kernel, by decide +kernel, ⟨by decide +kernel, by decide +kernel,
    by decide +kernel, by decide +kernel, by decide +kernel⟩⟩

/-- Two runs that use one call id. -/
def twoRunsHistory : List ModelHistoryItem :=
  [sampleCall 1 "a" (js "run-1") (js "call-1"), sampleResult 2 "b" (js "run-1") (js "call-1"),
    sampleCall 3 "c" (js "run-2") (js "call-1"), sampleResult 4 "d" (js "run-2") (js "call-1")]

/-- A history of which nothing is left. -/
def emptiedHistory : List ModelHistoryItem :=
  [sampleInstruction 1 "a", sampleMarker 2 "b" 1 (some 1)]

/-- A history with a marker that removes no turn although there is one. -/
def unplannedHistory : List ModelHistoryItem := [sampleInstruction 1 "a", sampleMarker 2 "b" 0 none]

/-- An accepted history without tool messages whose projection fails. -/
structure Unreadable (history : List ModelHistoryItem) (failure : Failure) : Prop where
  accepted : Accepted sampleLocator history
  spoken : ∀ item ∈ history, isToolMessage item = false
  fails : projectModelHistory history ⟨none, none⟩ = .error failure

/-- The store accepts histories that are not projected. -/
theorem accepted_unreadable :
    Unreadable twoRunsHistory (contextHistoryError "context_tool_call_duplicate") ∧
      Unreadable emptiedHistory (contextHistoryError "context_history_empty") ∧
        Unreadable unplannedHistory
          ⟨.modelHistory, "model_history_rollback_boundary_mismatch"⟩ := by
  refine ⟨⟨accepted_single ?_, ?_, ?_⟩, ⟨accepted_single ?_, ?_, ?_⟩,
    ⟨accepted_single ?_, ?_, ?_⟩⟩ <;> decide +kernel

end Crewon.Verif.ModelHistoryProjection
