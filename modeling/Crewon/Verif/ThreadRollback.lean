import Crewon.Verif.ModelHistory

/-!
# Where a rollback cuts

A rollback cuts the items still in effect in front of a user message: the instruction that began
the earliest removed turn, or an update of the context right in front of it.
-/

namespace Crewon.Verif.ThreadRollback

open Crewon.Js Crewon.Checked Crewon.Domain Crewon.Lib Crewon.Store Crewon.Verif.ModelHistory

/-- The number of instructions among items. -/
abbrev turns (items : List ModelHistoryItem) : Nat :=
  items.countP isModelHistoryInstructionBoundary

/-- Reversed items have as many instructions. -/
theorem turns_reverse (items : List ModelHistoryItem) : turns items.reverse = turns items :=
  List.countP_reverse

/-- A list is what stands before a place, the item there, and what stands behind it. -/
theorem split_at_place {items : List ModelHistoryItem} {place : Nat} {item : ModelHistoryItem}
    (found : items[place]? = some item) :
    items = items.take place ++ item :: items.drop (place + 1) := by
  obtain ⟨bound, here⟩ := List.getElem?_eq_some_iff.mp found
  rw [← here, List.getElem_cons_drop, List.take_append_drop]

/-- The walk back over reversed items stops at an instruction: it makes the turns enough, or it is
the first one of all. -/
structure StopsAt (requestedTurns : Int) (reversed : List ModelHistoryItem) (removed : Int)
    (result : Nat × Int) (later : List ModelHistoryItem) (item : ModelHistoryItem)
    (earlier : List ModelHistoryItem) : Prop where
  split : reversed = later ++ item :: earlier
  isBoundary : isModelHistoryInstructionBoundary item = true
  index : result.1 = earlier.length
  counted : result.2 = removed + turns later + 1
  bounded : result.2 ≤ requestedTurns
  enough : result.2 = requestedTurns ∨ turns earlier = 0

/-- The walk back finds no instruction, or stops at one. -/
theorem scanTurns_spec (requestedTurns : Int) (reversed : List ModelHistoryItem) (index : Nat)
    (removed : Int) (more : removed < requestedTurns) :
    (turns reversed = 0 ∧ scanTurns requestedTurns reversed (index, removed) = (index, removed)) ∨
      ∃ later item earlier, StopsAt requestedTurns reversed removed
        (scanTurns requestedTurns reversed (index, removed)) later item earlier := by
  induction reversed generalizing index removed with
  | nil => exact .inl ⟨rfl, rfl⟩
  | cons first rest hypothesis =>
    by_cases isBoundary : isModelHistoryInstructionBoundary first = true
    · right
      by_cases last : removed + 1 = requestedTurns
      · have stops : scanTurns requestedTurns (first :: rest) (index, removed) =
            (rest.length, removed + 1) := by
          simp [scanTurns, isBoundary, last]
        rw [stops]
        exact ⟨[], first, rest, rfl, isBoundary, rfl, by simp [turns], last.le, .inl last⟩
      · have goes : scanTurns requestedTurns (first :: rest) (index, removed) =
            scanTurns requestedTurns rest (rest.length, removed + 1) := by
          simp [scanTurns, isBoundary, last]
        rw [goes]
        rcases hypothesis rest.length (removed + 1) (by omega) with
          ⟨absent, ends⟩ | ⟨later, item, earlier, stops⟩
        · rw [ends]
          exact ⟨[], first, rest, rfl, isBoundary, rfl, by simp [turns],
            show removed + 1 ≤ requestedTurns by omega, .inr absent⟩
        · have one : turns (first :: later) = turns later + 1 := List.countP_cons_of_pos isBoundary
          have counted := stops.counted
          refine ⟨first :: later, item, earlier, ?_, stops.isBoundary, stops.index, ?_,
            stops.bounded, stops.enough⟩
          · rw [stops.split]
            rfl
          · rw [one]
            push_cast
            omega
    · have goes : scanTurns requestedTurns (first :: rest) (index, removed) =
          scanTurns requestedTurns rest (index, removed) := by
        simp [scanTurns, isBoundary]
      have same (items : List ModelHistoryItem) : turns (first :: items) = turns items :=
        List.countP_cons_of_neg isBoundary
      rw [goes]
      rcases hypothesis index removed more with ⟨absent, ends⟩ | ⟨later, item, earlier, stops⟩
      · exact .inl ⟨(same rest).trans absent, ends⟩
      · refine .inr ⟨first :: later, item, earlier, ?_, stops.isBoundary, stops.index, ?_,
          stops.bounded, stops.enough⟩
        · rw [stops.split]
          rfl
        · rw [same]
          exact stops.counted

/-- An instruction is a message. -/
theorem isMessage_of_boundary {item : ModelHistoryItem}
    (isBoundary : isModelHistoryInstructionBoundary item = true) : item.isMessage = true := by
  unfold isModelHistoryInstructionBoundary at isBoundary
  unfold ModelHistoryItem.isMessage
  cases said : item.body <;> simp [said] at isBoundary ⊢

/-- A contextual update is a message. -/
theorem isMessage_of_contextual {item : ModelHistoryItem}
    (contextual : isContextualUpdate item = true) : item.isMessage = true := by
  unfold isContextualUpdate at contextual
  unfold ModelHistoryItem.isMessage
  cases said : item.body <;> simp [said] at contextual ⊢

/-- Moving back over contextual updates ends at the start or at a contextual update. -/
theorem retreat_spec (items : List ModelHistoryItem) (bound index : Nat) :
    retreat items bound index ≤ index ∧ (retreat items bound index = index ∨
      ∃ item, items[retreat items bound index]? = some item ∧ isContextualUpdate item = true) := by
  induction index with
  | zero => exact ⟨le_refl _, .inl rfl⟩
  | succ index hypothesis =>
    unfold retreat
    split
    case isTrue condition =>
      refine ⟨Nat.le_succ_of_le hypothesis.1, .inr ?_⟩
      rcases hypothesis.2 with stays | further
      · rw [stays]
        exact (Option.any_eq_true _ _).mp condition.2
      · exact further
    case isFalse => exact ⟨le_refl _, .inl rfl⟩

/-- What a plan cuts off, as a function of the walk back. -/
structure Planned (items : List ModelHistoryItem) (requestedTurns through : Int)
    (boundary : ThreadRollbackBoundary) : Prop where
  inRange : 1 ≤ requestedTurns ∧ requestedTurns ≤ maxModelHistoryRollbackTurns
  repeats : boundary.requestedTurns = requestedTurns
  reaches : boundary.historyThroughSequence = through
  marker : boundary.markerHistorySequence = through + 1
  cut : boundary.removedTurns = 0 ∧ boundary.historyFromSequence = none ∧ turns items = 0 ∨
    ∃ earlier instruction later cutItem, items = earlier ++ instruction :: later ∧
      isModelHistoryInstructionBoundary instruction = true ∧
        boundary.removedTurns = turns later + 1 ∧
          boundary.removedTurns ≤ requestedTurns ∧
            (boundary.removedTurns = requestedTurns ∨ turns earlier = 0) ∧
              items[retreat items (items.findIdx isModelHistoryInstructionBoundary)
                earlier.length]? = some cutItem ∧
                boundary.historyFromSequence = some cutItem.sequence

/-- What an accepted plan is. -/
theorem planFromEffectiveItems_eq_ok {items : List ModelHistoryItem}
    {requestedTurns through : Int} {boundary : ThreadRollbackBoundary}
    (planned : planFromEffectiveItems items requestedTurns through = .ok boundary) :
    Planned items requestedTurns through boundary := by
  simp only [planFromEffectiveItems, bind_eq_ok, exists_unit, rejectIf_eq_ok, not_or,
    Bool.not_eq_false, isPositiveInteger_iff, not_lt, pure_eq_ok] at planned
  obtain ⟨⟨positive, limit⟩, rfl⟩ := planned
  have more : (0 : Int) < requestedTurns := by omega
  refine ⟨⟨positive.1, limit⟩, rfl, rfl, rfl, ?_⟩
  rcases scanTurns_spec requestedTurns items.reverse items.length 0 more with
    ⟨absent, ends⟩ | ⟨later, instruction, earlier, stops⟩
  · rw [ends]
    refine .inl ⟨rfl, by simp, ?_⟩
    rwa [turns_reverse] at absent
  · right
    generalize scanTurns requestedTurns items.reverse (items.length, 0) = scanned at stops
    obtain ⟨cutIndex, removed⟩ := scanned
    obtain ⟨split, isBoundary, index, counted, bounded, enough⟩ := stops
    dsimp only at index counted bounded enough ⊢
    have forward : items = earlier.reverse ++ instruction :: later.reverse := by
      rw [← List.reverse_reverse items, split]
      simp
    have positiveTurns : 0 < removed := by omega
    have bound : cutIndex < items.length := by
      rw [index, forward]
      simp
    obtain ⟨notPast, _⟩ := retreat_spec items (items.findIdx isModelHistoryInstructionBoundary)
      cutIndex
    have inside : retreat items (items.findIdx isModelHistoryInstructionBoundary) cutIndex <
        items.length := by omega
    obtain ⟨cutItem, here⟩ : ∃ cutItem,
        items[retreat items (items.findIdx isModelHistoryInstructionBoundary) cutIndex]? =
          some cutItem := ⟨_, List.getElem?_eq_getElem inside⟩
    refine ⟨earlier.reverse, instruction, later.reverse, cutItem, forward, isBoundary, ?_, bounded,
      ?_, ?_, ?_⟩
    · rw [turns_reverse]
      omega
    · rw [turns_reverse]
      exact enough
    · rw [List.length_reverse, ← index]
      exact here
    · have nonzero : removed ≠ 0 := by omega
      rw [if_neg nonzero, if_pos positiveTurns, here]
      rfl

/-- A plan is made for every number of turns that a marker may ask for. -/
theorem planFromEffectiveItems_total (items : List ModelHistoryItem) {requestedTurns : Int}
    (inRange : 1 ≤ requestedTurns ∧ requestedTurns ≤ maxModelHistoryRollbackTurns)
    (through : Int) : ∃ boundary, planFromEffectiveItems items requestedTurns through =
      .ok boundary := by
  have safe : isPositiveInteger requestedTurns = true := by
    have small : maxModelHistoryRollbackTurns ≤ maxSafeInteger := by decide
    rw [isPositiveInteger_iff]
    omega
  have inside := not_lt.mpr inRange.2
  simp only [planFromEffectiveItems, safe, inside, rejectIf, Bool.true_eq_false, or_self,
    ↓reduceIte, ok_bind]
  exact ⟨_, rfl⟩

/-- A rollback cuts in front of a message. -/
theorem Planned.message {items : List ModelHistoryItem} {requestedTurns through : Int}
    {boundary : ThreadRollbackBoundary} (planned : Planned items requestedTurns through boundary)
    {fromSequence : Int} (cuts : boundary.historyFromSequence = some fromSequence) :
    ∃ kept cutItem dropped, items = kept ++ cutItem :: dropped ∧ cutItem.isMessage = true ∧
      cutItem.sequence = fromSequence := by
  rcases planned.cut with ⟨_, none, _⟩ | ⟨earlier, instruction, later, cutItem, split, isBoundary,
    _, _, _, found, names⟩
  · rw [none] at cuts
    cases cuts
  · rw [names, Option.some.injEq] at cuts
    refine ⟨_, cutItem, _, split_at_place found, ?_, cuts⟩
    obtain ⟨_, stays | ⟨item, there, contextual⟩⟩ := retreat_spec items
      (items.findIdx isModelHistoryInstructionBoundary) earlier.length
    · have isInstruction : items[earlier.length]? = some instruction := by
        rw [split]
        simp
      rw [stays, isInstruction, Option.some.injEq] at found
      rw [← found]
      exact isMessage_of_boundary isBoundary
    · rw [there, Option.some.injEq] at found
      rw [← found]
      exact isMessage_of_contextual contextual

/-- Dropping what an ascending list has from a sequence on keeps what stands before it. -/
theorem filter_before {kept dropped : List ModelHistoryItem} {cutItem : ModelHistoryItem}
    (ascending : (kept ++ cutItem :: dropped).Pairwise fun first second =>
      first.sequence < second.sequence) :
    (kept ++ cutItem :: dropped).filter (·.sequence < cutItem.sequence) = kept := by
  obtain ⟨_, behind, across⟩ := List.pairwise_append.mp ascending
  rw [List.filter_append, List.filter_eq_self.mpr, List.filter_eq_nil_iff.mpr, List.append_nil]
  · intro item member
    rw [decide_eq_true_eq, not_lt]
    cases List.mem_cons.mp member with
    | inl here => rw [here]
    | inr later => exact (List.rel_of_pairwise_cons behind later).le
  · intro item member
    rw [decide_eq_true_eq]
    exact across item member cutItem List.mem_cons_self

/-- Items without a marker are all in effect. -/
theorem replayEffectiveItems_unmarked {items : List ModelHistoryItem}
    (unmarked : ∀ item ∈ items, item.isRollback = false) (replay : EffectiveReplay) :
    replayEffectiveItems replay items = .ok { replay with items := replay.items ++ items } := by
  induction items generalizing replay with
  | nil => simp [replayEffectiveItems]
  | cons item rest hypothesis =>
    have first := unmarked item List.mem_cons_self
    have kept : replayEffectiveItem replay item =
        .ok { replay with items := replay.items ++ [item] } := by
      unfold ModelHistoryItem.isRollback at first
      unfold replayEffectiveItem
      cases said : item.body <;> simp [said] at first ⊢
    rw [replayEffectiveItems, kept, ok_bind,
      hypothesis fun found member => unmarked found (List.mem_cons_of_mem item member)]
    simp

/-- What a replay has in hand comes from the history. -/
structure ReplayOf (history : List ModelHistoryItem) (replay : EffectiveReplay) : Prop where
  sublist : replay.items.Sublist history
  effective : ∀ item ∈ replay.items, item.isRollback = false
  markers : ∀ item ∈ replay.rollbackMarkers, item ∈ history ∧ item.isRollback = true

/-- Replaying one more item adds nothing but the item. -/
theorem ReplayOf.item {history : List ModelHistoryItem} {replay after : EffectiveReplay}
    (of : ReplayOf history replay) {item : ModelHistoryItem}
    (replayed : replayEffectiveItem replay item = .ok after) :
    ReplayOf (history ++ [item]) after := by
  have older : history.Sublist (history ++ [item]) := List.sublist_append_left history [item]
  have markers (found : ModelHistoryItem) (member : found ∈ replay.rollbackMarkers) :
      found ∈ history ++ [item] ∧ found.isRollback = true :=
    ⟨older.subset (of.markers found member).1, (of.markers found member).2⟩
  cases said : item.body with
  | rollback rollbackId threadEventId requestedTurns removedTurns fromSequence through =>
    simp only [replayEffectiveItem, said, bind_eq_ok, exists_unit, pure_eq_ok] at replayed
    obtain ⟨boundary, _, _, rfl⟩ := replayed
    have isMarker : item.isRollback = true := by simp [ModelHistoryItem.isRollback, said]
    have allMarkers : ∀ found ∈ replay.rollbackMarkers ++ [item],
        found ∈ history ++ [item] ∧ found.isRollback = true := by
      intro found member
      cases List.mem_append.mp member with
      | inl before => exact markers found before
      | inr last =>
        rw [List.mem_singleton.mp last]
        exact ⟨by simp, isMarker⟩
    cases boundary.historyFromSequence with
    | none => exact ⟨of.sublist.trans older, of.effective, allMarkers⟩
    | some fromSequence =>
      exact ⟨(List.filter_sublist.trans of.sublist).trans older,
        fun found member => of.effective found (List.mem_of_mem_filter member), allMarkers⟩
  | message | toolCall | toolResult | compaction =>
    simp only [replayEffectiveItem, said, Except.ok.injEq] at replayed
    rw [← replayed]
    refine ⟨of.sublist.append (List.Sublist.refl _), ?_, markers⟩
    intro found member
    cases List.mem_append.mp member with
    | inl before => exact of.effective found before
    | inr last =>
      rw [List.mem_singleton.mp last]
      simp [ModelHistoryItem.isRollback, said]

/-- What the replay of a history has in hand comes from the history. -/
theorem replayEffectiveItems_of {history : List ModelHistoryItem} {replay : EffectiveReplay}
    (replayed : replayEffectiveItems ⟨[], []⟩ history = .ok replay) : ReplayOf history replay := by
  induction history using List.reverseRecOn generalizing replay with
  | nil =>
    obtain rfl := Except.ok.inj replayed
    exact ⟨List.Sublist.refl _, fun _ member => absurd member List.not_mem_nil,
      fun _ member => absurd member List.not_mem_nil⟩
  | append_singleton before item hypothesis =>
    rw [replayEffectiveItems_append, bind_eq_ok] at replayed
    obtain ⟨between, earlier, rest⟩ := replayed
    simp only [replayEffectiveItems, bind_eq_ok] at rest
    obtain ⟨after, here, equal⟩ := rest
    obtain rfl := Except.ok.inj equal
    exact (hypothesis earlier).item here

/-- The checks of a stored history pass. -/
theorem validateRawHistoryFrom_stored {locator : ThreadLocator} {items : List ModelHistoryItem}
    {index : Int} (stored : ∀ item ∈ items, StoredItem locator item)
    (numbered : Numbered (index + 1) items) :
    validateRawHistoryFrom locator.tenantId locator.threadId index items = .ok () := by
  induction items generalizing index with
  | nil => rfl
  | cons item rest hypothesis =>
    have own := stored item List.mem_cons_self
    have later := hypothesis (fun found member => stored found (List.mem_cons_of_mem _ member))
      numbered.2
    simp only [validateRawHistoryFrom, own.valid, ok_bind, rejectIf, numbered.1, ne_eq,
      not_true_eq_false, ↓reduceIte, own.tenantId, own.threadId, or_self, later]

/-- The checks of a stored history pass. -/
theorem validateRawHistory_stored {locator : ThreadLocator} {history : List ModelHistoryItem}
    (stored : StoredHistory locator history) : validateRawHistory history = .ok () := by
  cases history with
  | nil => rfl
  | cons first rest =>
    have own := stored.items first List.mem_cons_self
    have checks : validateRawHistoryFrom locator.tenantId locator.threadId 0 (first :: rest) =
        .ok () := validateRawHistoryFrom_stored stored.items stored.numbered
    rw [validateRawHistory, own.tenantId, own.threadId]
    exact checks

/-- Items that pass the checks of a stored history are stored. -/
theorem validateRawHistoryFrom_eq_ok {locator : ThreadLocator} {items : List ModelHistoryItem}
    {index : Int} (valid : validateRawHistoryFrom locator.tenantId locator.threadId index items =
      .ok ()) : (∀ item ∈ items, StoredItem locator item) ∧ Numbered (index + 1) items := by
  induction items generalizing index with
  | nil => exact ⟨fun _ member => absurd member List.not_mem_nil, trivial⟩
  | cons item rest hypothesis =>
    simp only [validateRawHistoryFrom, bind_eq_ok, exists_unit, rejectIf_eq_ok, not_or,
      not_not] at valid
    obtain ⟨validItem, number, owned, validRest⟩ := valid
    obtain ⟨stored, numbered⟩ := hypothesis validRest
    refine ⟨?_, number, numbered⟩
    intro found member
    cases List.mem_cons.mp member with
    | inl here => exact here ▸ ⟨validItem, owned.1, owned.2⟩
    | inr there => exact stored found there

/-- A history that passes the checks is stored in the thread of its first item. -/
theorem validateRawHistory_eq_ok {locator : ThreadLocator} {history : List ModelHistoryItem}
    (own : ∀ first ∈ history.head?,
      first.tenantId = locator.tenantId ∧ first.threadId = locator.threadId)
    (valid : validateRawHistory history = .ok ()) : StoredHistory locator history := by
  cases history with
  | nil => exact stored_empty
  | cons first rest =>
    obtain ⟨tenant, thread⟩ := own first rfl
    rw [validateRawHistory, tenant, thread] at valid
    obtain ⟨items, numbered⟩ := validateRawHistoryFrom_eq_ok valid
    exact ⟨items, numbered⟩

/-- The effective history of a stored history is its replay. -/
theorem replayEffectiveHistory_stored {locator : ThreadLocator} {history : List ModelHistoryItem}
    (stored : StoredHistory locator history) :
    replayEffectiveHistory history =
      (replayEffectiveItems ⟨[], []⟩ history).map fun replay => {
        items := replay.items
        rollbackMarkers := replay.rollbackMarkers
        latestRollback := replay.rollbackMarkers.getLast?
        throughHistorySequence := history.length } := by
  simp only [replayEffectiveHistory, validateRawHistory_stored stored, ok_bind, stored.last]
  cases replayEffectiveItems ⟨[], []⟩ history <;> rfl

/-- The items in effect behind a marker. -/
def cutAt (items : List ModelHistoryItem) (boundary : Option Int) : List ModelHistoryItem :=
  match boundary with
  | none => items
  | some fromSequence => items.filter (·.sequence < fromSequence)

/-- What a cut leaves is a part of the items. -/
theorem cutAt_sublist (items : List ModelHistoryItem) (boundary : Option Int) :
    (cutAt items boundary).Sublist items := by
  cases boundary with
  | none => exact List.Sublist.refl items
  | some fromSequence => exact List.filter_sublist

/-- A marker that repeats the plan of a history is replayed: behind it, the items in effect are cut
where it says. -/
theorem replay_of_plan {replay : EffectiveReplay} {marker : ModelHistoryRollbackMarker}
    {through : Int} {expected : ThreadRollbackBoundary}
    (planned : planFromEffectiveItems replay.items marker.requestedTurns through = .ok expected)
    (sequence : marker.sequence = expected.markerHistorySequence)
    (removed : marker.removedTurns = expected.removedTurns)
    (fromSequence : marker.historyFromSequence = expected.historyFromSequence)
    (reaches : marker.historyThroughSequence = expected.historyThroughSequence) :
    replayEffectiveItem replay marker.item =
      .ok ⟨cutAt replay.items marker.historyFromSequence,
        replay.rollbackMarkers ++ [marker.item]⟩ := by
  have same := (planFromEffectiveItems_eq_ok planned).reaches
  simp only [ModelHistoryRollbackMarker.item, replayEffectiveItem, reaches, same, planned,
    ok_bind, sequence, removed, fromSequence]
  simp only [rejectIf, ne_eq, not_true_eq_false, or_self, ↓reduceIte]
  cases expected.historyFromSequence <;> rfl

/-- An accepted rollback is one that the replay of its history accepts: behind its marker, the
items in effect are cut where it says. -/
theorem replay_of_artifacts {locator : ThreadLocator} {history : List ModelHistoryItem}
    {artifacts : ThreadRollbackArtifacts} {replay : EffectiveReplay}
    (stored : StoredHistory locator history)
    (replayed : replayEffectiveItems ⟨[], []⟩ history = .ok replay)
    (accepted : validateThreadRollbackArtifacts history artifacts = .ok ()) :
    replayEffectiveItems ⟨[], []⟩ (history ++ [artifacts.marker.item]) =
      .ok ⟨cutAt replay.items artifacts.marker.historyFromSequence,
        replay.rollbackMarkers ++ [artifacts.marker.item]⟩ := by
  simp only [validateThreadRollbackArtifacts, bind_eq_ok, exists_unit, rejectIf_eq_ok, not_or,
    not_not, planModelHistoryRollback, replayEffectiveHistory_stored stored, replayed,
    Except.map, Except.ok.injEq, exists_eq_left'] at accepted
  obtain ⟨_, _, expected, planned, repeats, _, _⟩ := accepted
  obtain ⟨_, sequence, removed, fromSequence, through, _⟩ := repeats
  have marked := replay_of_plan planned sequence removed fromSequence through
  rw [replayEffectiveItems_append, replayed, ok_bind]
  simp only [replayEffectiveItems, marked, ok_bind]

end Crewon.Verif.ThreadRollback
