import Crewon.Verif.ThreadRollback

/-!
# Rollbacks remove turns

Creating a rollback counts turns in what is still in effect, and replaying its marker cuts the same
items off: a rollback of some turns removes as many, or all there are. Two rollbacks in a row
remove what one of all their turns removes.
-/

namespace Crewon.Verif.RollbackTurns

open Crewon.Js Crewon.Checked Crewon.Domain Crewon.Store Crewon.Verif.ModelHistory
open Crewon.Verif.ThreadRollback

/-- An update of the context starts no turn. -/
theorem isBoundary_of_contextual {item : ModelHistoryItem}
    (contextual : isContextualUpdate item = true) :
    isModelHistoryInstructionBoundary item = false := by
  unfold isContextualUpdate at contextual
  unfold isModelHistoryInstructionBoundary
  cases said : item.body with
  | message role source content contentDigest origin =>
    simp only [said, Bool.and_eq_true, Bool.or_eq_true, decide_eq_true_eq] at contextual
    obtain ⟨_, source | source⟩ := contextual <;> simp [source]
  | toolCall | toolResult | compaction | rollback => rfl

/-- Moving a cut back over contextual updates removes no turn. -/
theorem turns_take_retreat (items : List ModelHistoryItem) (bound index : Nat) :
    turns (items.take (retreat items bound index)) = turns (items.take index) := by
  induction index with
  | zero => rfl
  | succ index hypothesis =>
    unfold retreat
    split
    case isTrue condition =>
      obtain ⟨item, here, contextual⟩ := (Option.any_eq_true _ _).mp condition.2
      rw [hypothesis, List.take_add_one, here, Option.toList_some, turns, turns,
        List.countP_append, List.countP_cons_of_neg (by simp [isBoundary_of_contextual contextual]),
        List.countP_nil, Nat.add_zero]
    case isFalse => rfl

/-- Moving a cut back looks at the items in front of it only. -/
theorem retreat_congr {first second : List ModelHistoryItem} (bound : Nat) {index : Nat}
    (same : ∀ place < index, first[place]? = second[place]?) :
    retreat first bound index = retreat second bound index := by
  induction index with
  | zero => rfl
  | succ index hypothesis =>
    have before := hypothesis fun place early => same place (by omega)
    rw [retreat, retreat, same index (by omega), before]

/-- A part of a list that reaches behind an instruction has one turn more than what stands in front
of the instruction. -/
theorem turns_lt {before after longer rest : List ModelHistoryItem}
    {instruction : ModelHistoryItem} (same : before ++ instruction :: after = longer ++ rest)
    (isBoundary : isModelHistoryInstructionBoundary instruction = true)
    (behind : before.length < longer.length) : turns before < turns longer := by
  have first : before ++ [instruction] <+: before ++ instruction :: after := ⟨after, by simp⟩
  have second : longer <+: before ++ instruction :: after := ⟨rest, same.symm⟩
  have inside : before ++ [instruction] <+: longer :=
    List.prefix_of_prefix_length_le first second (by
      rw [List.length_append, List.length_singleton]
      omega)
  have counted : turns (before ++ [instruction]) = turns before + 1 := by
    rw [turns, turns, List.countP_append, List.countP_cons_of_pos isBoundary, List.countP_nil]
  have fewer : turns (before ++ [instruction]) ≤ turns longer := inside.sublist.countP_le
  omega

/-- An instruction is found again by the number of turns in front of it. -/
theorem place_of_turns {before after before' after' : List ModelHistoryItem}
    {instruction instruction' : ModelHistoryItem}
    (same : before ++ instruction :: after = before' ++ instruction' :: after')
    (isBoundary : isModelHistoryInstructionBoundary instruction = true)
    (isBoundary' : isModelHistoryInstructionBoundary instruction' = true)
    (equal : turns before = turns before') : before.length = before'.length := by
  rcases Nat.lt_trichotomy before.length before'.length with behind | here | front
  · have more := turns_lt same isBoundary behind
    omega
  · exact here
  · have more := turns_lt same.symm isBoundary' front
    omega

/-- What a rollback leaves: everything where there is no turn, and otherwise what stands in front of
the earliest turn that it removes and of the contextual updates right in front of that. -/
inductive Cuts (items : List ModelHistoryItem) (requestedTurns : Int) :
    Int → List ModelHistoryItem → Prop where
  | nothing (absent : turns items = 0) : Cuts items requestedTurns 0 items
  | removed (earlier later : List ModelHistoryItem) (instruction : ModelHistoryItem)
      (split : items = earlier ++ instruction :: later)
      (isBoundary : isModelHistoryInstructionBoundary instruction = true)
      (bounded : (turns later + 1 : Int) ≤ requestedTurns)
      (enough : (turns later + 1 : Int) = requestedTurns ∨ turns earlier = 0) :
      Cuts items requestedTurns (turns later + 1)
        (items.take (retreat items (items.findIdx isModelHistoryInstructionBoundary)
          earlier.length))

/-- A planned rollback cuts as many turns off as its boundary says. -/
theorem cuts_of_planned {items : List ModelHistoryItem} {requestedTurns through : Int}
    {boundary : ThreadRollbackBoundary} (planned : Planned items requestedTurns through boundary)
    (ascending : items.Pairwise fun first second => first.sequence < second.sequence) :
    Cuts items requestedTurns boundary.removedTurns
      (cutAt items boundary.historyFromSequence) := by
  rcases planned.cut with ⟨removed, from_, absent⟩ |
    ⟨earlier, instruction, later, cutItem, split, isBoundary, counted, bounded, enough, found,
      names⟩
  · rw [removed, from_]
    exact .nothing absent
  · rw [counted] at bounded enough ⊢
    have parts := split_at_place found
    have kept : cutAt items boundary.historyFromSequence =
        items.take (retreat items (items.findIdx isModelHistoryInstructionBoundary)
          earlier.length) := by
      rw [names, cutAt]
      conv_lhs => rw [parts]
      exact filter_before (parts ▸ ascending)
    rw [kept]
    exact .removed earlier later instruction split isBoundary bounded enough

section Laws

variable {items kept : List ModelHistoryItem} {requestedTurns removed : Int}

/-- A rollback leaves what stands in front. -/
theorem Cuts.front (cuts : Cuts items requestedTurns removed kept) : kept <+: items := by
  cases cuts with
  | nothing => exact List.prefix_refl items
  | removed => exact List.take_prefix _ _

/-- The turns in front of a removed one are those that a cut there leaves. -/
theorem turns_kept {earlier later : List ModelHistoryItem} {instruction : ModelHistoryItem}
    (split : items = earlier ++ instruction :: later) (bound : Nat) :
    turns (items.take (retreat items bound earlier.length)) = turns earlier := by
  rw [turns_take_retreat, split, List.take_left]

/-- The turns of a list with an instruction. -/
theorem turns_split {earlier later : List ModelHistoryItem} {instruction : ModelHistoryItem}
    (split : items = earlier ++ instruction :: later)
    (isBoundary : isModelHistoryInstructionBoundary instruction = true) :
    turns items = turns earlier + (turns later + 1) := by
  rw [split, turns, List.countP_append, List.countP_cons_of_pos isBoundary]

/-- The turns that a rollback removes are those that are missing behind it. -/
theorem Cuts.turns (cuts : Cuts items requestedTurns removed kept) :
    (ThreadRollback.turns kept : Int) + removed = ThreadRollback.turns items := by
  cases cuts with
  | nothing => simp
  | removed earlier later instruction split isBoundary =>
    rw [turns_kept split, turns_split split isBoundary]
    push_cast
    rfl

/-- A rollback removes the turns that are asked for, or all. -/
theorem Cuts.removed_eq (cuts : Cuts items requestedTurns removed kept)
    (positive : 1 ≤ requestedTurns) :
    removed = min requestedTurns (ThreadRollback.turns items) := by
  cases cuts with
  | nothing absent =>
    rw [absent]
    omega
  | removed earlier later instruction split isBoundary bounded enough =>
    rw [turns_split split isBoundary]
    omega

/-- A cut in a front part of the items is the same cut in the items. -/
theorem take_retreat_front {earlier later tail : List ModelHistoryItem}
    {instruction : ModelHistoryItem} (split : kept = earlier ++ instruction :: later)
    (isBoundary : isModelHistoryInstructionBoundary instruction = true) :
    kept.take (retreat kept (kept.findIdx isModelHistoryInstructionBoundary) earlier.length) =
      (kept ++ tail).take (retreat (kept ++ tail)
        ((kept ++ tail).findIdx isModelHistoryInstructionBoundary) earlier.length) := by
  have inside : earlier.length < kept.length := by simp [split]
  have found : kept.findIdx isModelHistoryInstructionBoundary < kept.length :=
    List.findIdx_lt_length_of_exists ⟨instruction, by simp [split], isBoundary⟩
  have sameBound : (kept ++ tail).findIdx isModelHistoryInstructionBoundary =
      kept.findIdx isModelHistoryInstructionBoundary := by
    rw [List.findIdx_append, if_pos found]
  have sameCut (bound : Nat) :
      retreat kept bound earlier.length = retreat (kept ++ tail) bound earlier.length :=
    retreat_congr bound fun place early => (List.getElem?_append_left (by omega)).symm
  have notPast := (retreat_spec (kept ++ tail)
    (kept.findIdx isModelHistoryInstructionBoundary) earlier.length).1
  rw [sameBound, sameCut, List.take_append_of_le_length (by omega)]

/-- Two rollbacks in a row leave what one of all their turns leaves. -/
theorem Cuts.compose {rest one : List ModelHistoryItem} {first second removed' removed'' : Int}
    (firstCut : Cuts items first removed kept) (secondCut : Cuts kept second removed' rest)
    (oneCut : Cuts items (first + second) removed'' one) (positive : 1 ≤ first)
    (positive' : 1 ≤ second) : rest = one := by
  have firstTurns := firstCut.turns
  have firstRemoved := firstCut.removed_eq positive
  have secondTurns := secondCut.turns
  have secondRemoved := secondCut.removed_eq positive'
  have oneTurns := oneCut.turns
  have oneRemoved := oneCut.removed_eq (by omega)
  cases oneCut with
  | nothing absent =>
    -- without a turn nothing is removed
    cases firstCut with
    | nothing => 
      cases secondCut with
      | nothing => rfl
      | removed => omega
    | removed => omega
  | removed earlier later instruction split isBoundary =>
    have oneKept := turns_kept split (items.findIdx isModelHistoryInstructionBoundary)
    cases secondCut with
    | nothing =>
      cases firstCut with
      | nothing => omega
      | removed earlier' later' instruction' split' isBoundary' =>
        have firstKept := turns_kept split' (items.findIdx isModelHistoryInstructionBoundary)
        have place := place_of_turns (split'.symm.trans split) isBoundary' isBoundary (by omega)
        rw [place]
    | removed earlier' later' instruction' split' isBoundary' =>
      have secondKept := turns_kept split' (kept.findIdx isModelHistoryInstructionBoundary)
      obtain ⟨tail, rfl⟩ := firstCut.front
      have again : kept ++ tail = earlier' ++ instruction' :: (later' ++ tail) := by
        simp [split']
      have place := place_of_turns (again.symm.trans split) isBoundary' isBoundary (by omega)
      rw [take_retreat_front split' isBoundary', place]

end Laws

/-- A text with content, of at most a number of bytes. -/
def Named (value : JsString) (maxBytes : Nat) : Prop :=
  value.isBlank = false ∧ value.fitsBytes maxBytes = true

/-- A request that names the thread of a history and is well formed. -/
structure Requestable (history : List ModelHistoryItem) (input : CreateThreadRollbackInput) :
    Prop where
  requestedTurns : 1 ≤ input.requestedTurns ∧ input.requestedTurns ≤ maxModelHistoryRollbackTurns
  own : ∀ first ∈ history.head?,
    first.tenantId = input.tenantId ∧ first.threadId = input.threadId
  room : (history.length : Int) < maxSafeInteger
  tenantId : Named input.tenantId 256
  threadId : Named input.threadId 512
  rollbackId : Named input.rollbackId 512
  markerItemId : Named input.markerItemId 512
  threadEventId : Named input.threadEventId 512
  actorId : input.actorId.isBlank = false
  threadEventSequence : 1 ≤ input.threadEventSequence ∧ input.threadEventSequence ≤ maxSafeInteger
  occurredAt : isTimestamp input.occurredAt = true

section Creating

variable {history : List ModelHistoryItem} {input : CreateThreadRollbackInput}
variable {replay : EffectiveReplay} {boundary : ThreadRollbackBoundary}

/-- The thread that a request names. -/
abbrev locatorOf (input : CreateThreadRollbackInput) : ThreadLocator :=
  ⟨input.tenantId, input.threadId⟩

/-- A history that is replayed is stored in the thread of its first item. -/
theorem stored_of_accepted {locator : ThreadLocator} {view : EffectiveModelHistory}
    (accepted : projectEffectiveModelHistory history = .ok view)
    (own : ∀ first ∈ history.head?,
      first.tenantId = locator.tenantId ∧ first.threadId = locator.threadId) :
    StoredHistory locator history ∧
      ∃ replay, replayEffectiveItems ⟨[], []⟩ history = .ok replay ∧ view.items = replay.items := by
  simp only [projectEffectiveModelHistory, replayEffectiveHistory, bind_eq_ok, exists_unit,
    pure_eq_ok] at accepted
  obtain ⟨valid, replay, replayed, rfl⟩ := accepted
  exact ⟨validateRawHistory_eq_ok own valid, replay, replayed, rfl⟩

/-- The numbers of a plan are those that a marker may have. -/
structure InBounds (history : List ModelHistoryItem) (boundary : ThreadRollbackBoundary) :
    Prop where
  removed : 0 ≤ boundary.removedTurns ∧ boundary.removedTurns ≤ boundary.requestedTurns
  none_iff : boundary.historyFromSequence = none ↔ boundary.removedTurns = 0
  inside : ∀ sequence ∈ boundary.historyFromSequence, 1 ≤ sequence ∧ sequence ≤ history.length

/-- A plan of a stored history is in bounds. -/
theorem inBounds_of_planned {locator : ThreadLocator} (stored : StoredHistory locator history)
    (replayed : replayEffectiveItems ⟨[], []⟩ history = .ok replay)
    {requestedTurns through : Int}
    (planned : Planned replay.items requestedTurns through boundary) :
    InBounds history boundary := by
  have inRange := planned.inRange
  have repeats := planned.repeats
  rcases planned.cut with ⟨removed, fromSequence, _⟩ |
    ⟨earlier, instruction, later, cutItem, _, _, counted, bounded, _, found, names⟩
  · exact ⟨by omega, by simp [removed, fromSequence], by simp [fromSequence]⟩
  · refine ⟨by omega, ?_, ?_⟩
    · rw [names]
      simp only [reduceCtorEq, false_iff]
      omega
    · rw [names]
      rintro _ ⟨⟩
      have member := (replayEffectiveItems_of replayed).sublist.subset (List.mem_of_getElem? found)
      obtain ⟨place, here⟩ := List.mem_iff_getElem?.mp member
      have number := stored.numbered.sequence here
      have bound := (List.getElem?_eq_some_iff.mp here).1
      omega

/-- A text passes the check of a bounded text when it is named. -/
theorem requireItemBounded_eq_ok {value : JsString} {maxBytes : Nat} {code : String} :
    requireItemBounded value maxBytes code = .ok () ↔ Named value maxBytes := by
  simp [requireItemBounded, requireBoundedNonEmpty, Named]

/-- The numbers of a plan in bounds pass the checks of a marker and of an event. -/
structure Numbers (boundary : ThreadRollbackBoundary) : Prop where
  requested : isPositiveInteger boundary.requestedTurns = true
  removed : isNonNegativeInteger boundary.removedTurns = true
  through : isNonNegativeInteger boundary.historyThroughSequence = true
  inside : boundary.historyFromSequence.any (fun sequence =>
    !isPositiveInteger sequence || boundary.historyThroughSequence < sequence) = false

/-- A plan in bounds of a history that is not too long has such numbers. -/
theorem InBounds.numbers (inBounds : InBounds history boundary)
    (inRange : 1 ≤ boundary.requestedTurns ∧ boundary.requestedTurns ≤ maxModelHistoryRollbackTurns)
    (reaches : boundary.historyThroughSequence = history.length)
    (room : (history.length : Int) < maxSafeInteger) : Numbers boundary := by
  have small : maxModelHistoryRollbackTurns ≤ maxSafeInteger := by decide
  obtain ⟨removed, _, inside⟩ := inBounds
  refine ⟨?_, ?_, ?_, ?_⟩
  · rw [isPositiveInteger_iff]
    omega
  · rw [isNonNegativeInteger_iff]
    omega
  · rw [isNonNegativeInteger_iff]
    omega
  · cases names : boundary.historyFromSequence with
    | none => rfl
    | some sequence =>
      have bounds := inside sequence names
      have positive : isPositiveInteger sequence = true := by
        rw [isPositiveInteger_iff]
        omega
      have reached : ¬boundary.historyThroughSequence < sequence := by omega
      simp [positive, reached]

/-- The marker of a plan in bounds is a valid item when what the request names is. -/
theorem marker_valid_iff (inBounds : InBounds history boundary)
    (inRange : 1 ≤ boundary.requestedTurns ∧ boundary.requestedTurns ≤ maxModelHistoryRollbackTurns)
    (reaches : boundary.historyThroughSequence = history.length)
    (next : boundary.markerHistorySequence = history.length + 1) :
    validateModelHistoryItem (input.marker boundary).item = .ok () ↔
      Named input.markerItemId 512 ∧ Named input.tenantId 256 ∧ Named input.threadId 512 ∧
        (history.length : Int) < maxSafeInteger ∧ isTimestamp input.occurredAt = true ∧
          Named input.rollbackId 512 ∧ Named input.threadEventId 512 := by
  have inPlace : ((history.length : Int) + 1 - 1) = history.length := by omega
  simp only [validateModelHistoryItem, validateModelHistoryBody, ModelHistoryRollbackMarker.item,
    CreateThreadRollbackInput.marker, bind_eq_ok, exists_unit, rejectIf_eq_ok,
    requireItemBounded_eq_ok, requirePositiveInteger_eq_ok, requireTimestamp_eq_ok,
    whenPresent_eq_ok, reaches, next, inPlace]
  constructor
  · rintro ⟨_, item, tenant, thread, sequence, _, _, _, stamp, rollback, event, _⟩
    exact ⟨item, tenant, thread, by omega, stamp, rollback, event⟩
  · rintro ⟨item, tenant, thread, room, stamp, rollback, event⟩
    have numbers := inBounds.numbers inRange reaches room
    have safe : isSafeInteger (history.length : Int) = true := by
      rw [isSafeInteger_iff]
      omega
    have inside := numbers.inside
    rw [reaches] at inside
    refine ⟨by simp, item, tenant, thread, by omega, by simp, by simp, by simp, stamp, rollback,
      event, ?_⟩
    simp [numbers.requested, numbers.removed, not_lt.mpr inRange.2, not_lt.mpr inBounds.removed.2,
      safe, inBounds.none_iff, inside]

/-- The event of a plan in bounds is valid when what the request names is. -/
theorem event_valid_iff (inBounds : InBounds history boundary)
    (inRange : 1 ≤ boundary.requestedTurns ∧ boundary.requestedTurns ≤ maxModelHistoryRollbackTurns)
    (reaches : boundary.historyThroughSequence = history.length)
    (next : boundary.markerHistorySequence = history.length + 1)
    (room : (history.length : Int) < maxSafeInteger) :
    validateThreadLifecycleEvent (input.event boundary).event = .ok () ↔
      input.threadEventId.isBlank = false ∧ input.threadId.isBlank = false ∧
        (1 ≤ input.threadEventSequence ∧ input.threadEventSequence ≤ maxSafeInteger) ∧
          isTimestamp input.occurredAt = true ∧ input.actorId.isBlank = false ∧
            input.rollbackId.isBlank = false ∧ input.markerItemId.isBlank = false := by
  have numbers := inBounds.numbers inRange reaches room
  have follows : boundary.markerHistorySequence = boundary.historyThroughSequence + 1 := by omega
  have passes : ¬(isPositiveInteger boundary.requestedTurns = false ∨
      maxModelHistoryRollbackTurns < boundary.requestedTurns ∨
      isNonNegativeInteger boundary.removedTurns = false ∨
      boundary.requestedTurns < boundary.removedTurns ∨
      isNonNegativeInteger boundary.historyThroughSequence = false ∨
      boundary.markerHistorySequence ≠ boundary.historyThroughSequence + 1 ∨
      ¬ (boundary.historyFromSequence = none ↔ boundary.removedTurns = 0) ∨
      boundary.historyFromSequence.any (fun sequence =>
        !isPositiveInteger sequence || boundary.historyThroughSequence < sequence) = true) := by
    simp [numbers.requested, numbers.removed, numbers.through, not_lt.mpr inRange.2,
      not_lt.mpr inBounds.removed.2, inBounds.none_iff, numbers.inside, follows]
  simp only [validateThreadLifecycleEvent, CreateThreadRollbackInput.event,
    ThreadRolledBackEvent.event, validateRolledBack, requireThreadText, requireNonEmpty_eq_ok,
    bind_eq_ok, exists_unit, requirePositiveInteger_eq_ok, requireTimestamp_eq_ok, rejectIf_eq_ok,
    passes, not_false_eq_true, and_true]
  simp [ThreadEventData.isCreated]

/-- What a creation that returns has checked. -/
structure Creates (history : List ModelHistoryItem) (input : CreateThreadRollbackInput)
    (replay : EffectiveReplay) (boundary : ThreadRollbackBoundary) : Prop where
  stored : StoredHistory (locatorOf input) history
  replayed : replayEffectiveItems ⟨[], []⟩ history = .ok replay
  planned : planFromEffectiveItems replay.items input.requestedTurns history.length = .ok boundary

/-- The numbers of the plan of a creation. -/
theorem Creates.bounds (creates : Creates history input replay boundary) :
    InBounds history boundary ∧ boundary.requestedTurns = input.requestedTurns ∧
      (1 ≤ input.requestedTurns ∧ input.requestedTurns ≤ maxModelHistoryRollbackTurns) ∧
        boundary.historyThroughSequence = history.length ∧
          boundary.markerHistorySequence = history.length + 1 := by
  have planned := planFromEffectiveItems_eq_ok creates.planned
  exact ⟨inBounds_of_planned creates.stored creates.replayed planned, planned.repeats,
    planned.inRange, planned.reaches, planned.marker⟩

/-- The history with the marker behind it is replayed, with the items cut where the plan says. -/
theorem Creates.replays (creates : Creates history input replay boundary)
    (valid : validateModelHistoryItem (input.marker boundary).item = .ok ()) :
    replayEffectiveHistory (history ++ [(input.marker boundary).item]) = .ok {
      items := cutAt replay.items boundary.historyFromSequence
      rollbackMarkers := replay.rollbackMarkers ++ [(input.marker boundary).item]
      latestRollback := some (input.marker boundary).item
      throughHistorySequence := history.length + 1 } := by
  obtain ⟨_, repeats, _, _, next⟩ := creates.bounds
  have marked : StoredHistory (locatorOf input) (history ++ [(input.marker boundary).item]) := by
    refine creates.stored.append ?_ ⟨next, trivial⟩
    intro item member
    rw [List.mem_singleton.mp member]
    exact ⟨valid, rfl, rfl⟩
  have planned : planFromEffectiveItems replay.items (input.marker boundary).requestedTurns
      history.length = .ok boundary := by
    rw [CreateThreadRollbackInput.marker, repeats]
    exact creates.planned
  have last := replay_of_plan planned rfl rfl rfl rfl
  rw [replayEffectiveHistory_stored marked, replayEffectiveItems_append, creates.replayed, ok_bind,
    replayEffectiveItems, last, ok_bind, replayEffectiveItems]
  simp [Except.map, CreateThreadRollbackInput.marker]

/-- A creation returns what the plan gives, once what it names is checked. -/
theorem createThreadRollbackArtifacts_eq_ok {artifacts : ThreadRollbackArtifacts} :
    createThreadRollbackArtifacts history input = .ok artifacts ↔
      ∃ replay boundary, Creates history input replay boundary ∧
        (∀ first ∈ history.head?,
          first.tenantId = input.tenantId ∧ first.threadId = input.threadId) ∧
        validateModelHistoryItem (input.marker boundary).item = .ok () ∧
        validateThreadLifecycleEvent (input.event boundary).event = .ok () ∧
        artifacts = ⟨boundary, input.marker boundary, input.event boundary⟩ := by
  constructor
  · intro created
    simp only [createThreadRollbackArtifacts, planModelHistoryRollback, bind_eq_ok, exists_unit,
      whenPresent_eq_ok, rejectIf_eq_ok, not_or, not_not, pure_eq_ok] at created
    obtain ⟨boundary, ⟨view, replays, planned⟩, own, valid, rfl⟩ := created
    have owned : ∀ first ∈ history.head?, first.tenantId = (locatorOf input).tenantId ∧
        first.threadId = (locatorOf input).threadId := own
    obtain ⟨stored, replay, replayed, same⟩ := stored_of_accepted replays owned
    rw [replayEffectiveHistory_stored stored, replayed] at replays
    obtain rfl := Except.ok.inj replays
    simp only [validateThreadRollbackArtifacts, bind_eq_ok, exists_unit] at valid
    exact ⟨replay, boundary, ⟨stored, replayed, planned⟩, own, valid.1, valid.2.1, rfl⟩
  · rintro ⟨replay, boundary, creates, own, item, event, rfl⟩
    obtain ⟨_, repeats, _⟩ := creates.bounds
    have again := creates.replays item
    have plans : planModelHistoryRollback history input.requestedTurns = .ok boundary := by
      rw [planModelHistoryRollback, replayEffectiveHistory_stored creates.stored, creates.replayed]
      exact creates.planned
    have owned : whenPresent history.head? (fun first =>
        rejectIf (first.tenantId ≠ input.tenantId ∨ first.threadId ≠ input.threadId)
          (modelHistoryError "model_history_rollback_identity_mismatch")) = .ok () := by
      simp only [whenPresent_eq_ok, rejectIf_eq_ok, not_or, not_not]
      exact own
    have checked : validateThreadRollbackArtifacts history
        ⟨boundary, input.marker boundary, input.event boundary⟩ = .ok () := by
      have marked : (input.marker boundary).requestedTurns = input.requestedTurns := repeats
      have marks : whenPresent history.head? (fun first =>
          rejectIf ((input.marker boundary).tenantId ≠ first.tenantId ∨
              (input.marker boundary).threadId ≠ first.threadId)
            (modelHistoryError "model_history_rollback_identity_mismatch")) = .ok () := by
        simp only [whenPresent_eq_ok, rejectIf_eq_ok, not_or, not_not]
        exact fun first here => ⟨(own first here).1.symm, (own first here).2.symm⟩
      simp only [validateThreadRollbackArtifacts, item, event, marked, plans, ok_bind, marks, again]
      simp [rejectIf, CreateThreadRollbackInput.marker, CreateThreadRollbackInput.event]
    simp only [createThreadRollbackArtifacts, plans, ok_bind, owned, checked]
    rfl

/-- A rollback of a replayed history is created for every well-formed request, and for no other. -/
theorem created_iff_requestable {view : EffectiveModelHistory}
    (accepted : projectEffectiveModelHistory history = .ok view) :
    (∃ artifacts, createThreadRollbackArtifacts history input = .ok artifacts) ↔
      Requestable history input := by
  constructor
  · rintro ⟨artifacts, created⟩
    obtain ⟨replay, boundary, creates, own, item, event, _⟩ :=
      createThreadRollbackArtifacts_eq_ok.mp created
    obtain ⟨inBounds, repeats, inRange, reaches, next⟩ := creates.bounds
    rw [← repeats] at inRange
    obtain ⟨markerItemId, tenantId, threadId, room, occurredAt, rollbackId, threadEventId⟩ :=
      (marker_valid_iff inBounds inRange reaches next).mp item
    obtain ⟨_, _, sequence, _, actorId, _⟩ :=
      (event_valid_iff inBounds inRange reaches next room).mp event
    exact ⟨repeats ▸ inRange, own, room, tenantId, threadId, rollbackId, markerItemId,
      threadEventId, actorId, sequence, occurredAt⟩
  · intro request
    have own : ∀ first ∈ history.head?, first.tenantId = (locatorOf input).tenantId ∧
        first.threadId = (locatorOf input).threadId := request.own
    obtain ⟨stored, replay, replayed, _⟩ := stored_of_accepted accepted own
    obtain ⟨boundary, planned⟩ := planFromEffectiveItems_total replay.items request.requestedTurns
      history.length
    have creates : Creates history input replay boundary := ⟨stored, replayed, planned⟩
    obtain ⟨inBounds, repeats, inRange, reaches, next⟩ := creates.bounds
    rw [← repeats] at inRange
    have item := (marker_valid_iff inBounds inRange reaches next).mpr
      ⟨request.markerItemId, request.tenantId, request.threadId, request.room, request.occurredAt,
        request.rollbackId, request.threadEventId⟩
    have event := (event_valid_iff inBounds inRange reaches next request.room).mpr
      ⟨request.threadEventId.1, request.threadId.1, request.threadEventSequence,
        request.occurredAt, request.actorId, request.rollbackId.1, request.markerItemId.1⟩
    exact ⟨_, createThreadRollbackArtifacts_eq_ok.mpr
      ⟨replay, boundary, creates, request.own, item, event, rfl⟩⟩

/-- Behind the marker of a rollback the history is replayed, with the requested turns cut off. -/
theorem created_cuts {view : EffectiveModelHistory}
    (accepted : projectEffectiveModelHistory history = .ok view)
    {artifacts : ThreadRollbackArtifacts}
    (created : createThreadRollbackArtifacts history input = .ok artifacts) :
    1 ≤ input.requestedTurns ∧ ∃ after,
      projectEffectiveModelHistory (history ++ [artifacts.marker.item]) = .ok after ∧
        Cuts view.items input.requestedTurns artifacts.marker.removedTurns after.items := by
  obtain ⟨replay, boundary, creates, own, item, event, rfl⟩ :=
    createThreadRollbackArtifacts_eq_ok.mp created
  have planned := planFromEffectiveItems_eq_ok creates.planned
  have sublist := (replayEffectiveItems_of creates.replayed).sublist
  have ascending := creates.stored.numbered.ascending.sublist sublist
  have same : view.items = replay.items := by
    rw [projectEffectiveModelHistory, replayEffectiveHistory_stored creates.stored,
      creates.replayed] at accepted
    exact congrArg EffectiveModelHistory.items (Except.ok.inj accepted).symm
  refine ⟨planned.inRange.1, _, creates.replays item, ?_⟩
  rw [same]
  exact cuts_of_planned planned ascending

end Creating

/-- Creating a rollback agrees with replaying it. A rollback of a replayed history is created for
every well-formed request; behind its marker the history is replayed again, with the requested
turns, or all there are, cut off at the end of what was in effect; and two rollbacks in a row leave
what one of all their turns leaves. -/
theorem rollback_agrees {history : List ModelHistoryItem} {view : EffectiveModelHistory}
    (accepted : projectEffectiveModelHistory history = .ok view) :
    (∀ input, (∃ artifacts, createThreadRollbackArtifacts history input = .ok artifacts) ↔
      Requestable history input) ∧
    (∀ input artifacts, createThreadRollbackArtifacts history input = .ok artifacts →
      ∃ after, projectEffectiveModelHistory (history ++ [artifacts.marker.item]) = .ok after ∧
        after.items <+: view.items ∧
        (turns after.items : Int) = turns view.items - artifacts.marker.removedTurns ∧
        artifacts.marker.removedTurns = min input.requestedTurns (turns view.items)) ∧
    (∀ first second both one two three,
      createThreadRollbackArtifacts history first = .ok one →
      createThreadRollbackArtifacts (history ++ [one.marker.item]) second = .ok two →
      createThreadRollbackArtifacts history both = .ok three →
      both.requestedTurns = first.requestedTurns + second.requestedTurns →
      ∃ afterTwo afterBoth,
        projectEffectiveModelHistory (history ++ [one.marker.item] ++ [two.marker.item]) =
          .ok afterTwo ∧
        projectEffectiveModelHistory (history ++ [three.marker.item]) = .ok afterBoth ∧
        afterTwo.items = afterBoth.items) := by
  refine ⟨fun input => created_iff_requestable accepted, ?_, ?_⟩
  · intro input artifacts created
    obtain ⟨positive, after, replays, cuts⟩ := created_cuts accepted created
    have missing := cuts.turns
    exact ⟨after, replays, cuts.front, by omega, cuts.removed_eq positive⟩
  · intro first second both one two three createdOne createdTwo createdBoth sum
    obtain ⟨positive, afterOne, replaysOne, cutsOne⟩ := created_cuts accepted createdOne
    obtain ⟨positive', afterTwo, replaysTwo, cutsTwo⟩ := created_cuts replaysOne createdTwo
    obtain ⟨_, afterBoth, replaysBoth, cutsBoth⟩ := created_cuts accepted createdBoth
    rw [sum] at cutsBoth
    exact ⟨afterTwo, afterBoth, replaysTwo, replaysBoth,
      cutsOne.compose cutsTwo cutsBoth positive positive'⟩

/-- A thread with two turns, the second one begun by a contextual update. -/
def sampleTurns : List ModelHistoryItem :=
  [sampleInstruction 1 "a",
    sampleItem 2 "b" none (.message .user .goalSteering (js "goal") (uniformDigest 'b') none),
    sampleInstruction 3 "c"]

/-- A request to roll that thread back. -/
def sampleRequest (requestedTurns : Int) (suffix : String) : CreateThreadRollbackInput where
  tenantId := sampleLocator.tenantId
  threadId := sampleLocator.threadId
  actorId := js "actor-1"
  rollbackId := js ("rollback-" ++ suffix)
  markerItemId := js ("marker-" ++ suffix)
  threadEventId := js ("event-" ++ suffix)
  threadEventSequence := 2
  occurredAt := js "2026-01-01T00:00:10Z"
  requestedTurns := requestedTurns

/-- The turns that one rollback of both turns removes, once the rollbacks of one turn each are
created as well. -/
def sampleRemoved : Checked Int := do
  let _ ← projectEffectiveModelHistory sampleTurns
  let one ← createThreadRollbackArtifacts sampleTurns (sampleRequest 1 "one")
  let _ ← createThreadRollbackArtifacts (sampleTurns ++ [one.marker.item]) (sampleRequest 1 "two")
  let three ← createThreadRollbackArtifacts sampleTurns (sampleRequest 2 "both")
  return three.marker.removedTurns

/-- Two rollbacks of one turn each leave what one of both turns leaves. -/
theorem sampleTurns_rolledBack : ∃ one two three afterTwo afterBoth,
    createThreadRollbackArtifacts sampleTurns (sampleRequest 1 "one") = .ok one ∧
    createThreadRollbackArtifacts (sampleTurns ++ [one.marker.item]) (sampleRequest 1 "two") =
      .ok two ∧
    createThreadRollbackArtifacts sampleTurns (sampleRequest 2 "both") = .ok three ∧
    three.marker.removedTurns = 2 ∧
    projectEffectiveModelHistory (sampleTurns ++ [one.marker.item] ++ [two.marker.item]) =
      .ok afterTwo ∧
    projectEffectiveModelHistory (sampleTurns ++ [three.marker.item]) = .ok afterBoth ∧
    afterTwo.items = afterBoth.items := by
  have evaluated : sampleRemoved = .ok 2 := by decide +kernel
  simp only [sampleRemoved, bind_eq_ok, pure_eq_ok] at evaluated
  obtain ⟨view, accepted, one, createdOne, two, createdTwo, three, createdBoth, removed⟩ :=
    evaluated
  obtain ⟨afterTwo, afterBoth, replaysTwo, replaysBoth, same⟩ := (rollback_agrees accepted).2.2
    _ _ _ one two three createdOne createdTwo createdBoth rfl
  exact ⟨one, two, three, afterTwo, afterBoth, createdOne, createdTwo, createdBoth, removed,
    replaysTwo, replaysBoth, same⟩

end Crewon.Verif.RollbackTurns
