import Crewon.Lib.Tombstones
import Crewon.Lib.Trace
import Crewon.Store.ThreadStore
import Crewon.Verif.ThreadRollback

/-!
# The messages a user sees are the effective history

The messages of a thread and the items that carry them are two logs of the same length. A
rollback cuts the items at the boundary of a turn and puts a tombstone on the messages of those
it took out of effect. Along every run of commits and rollbacks the places with a tombstone are
those of the items that are no longer in effect, so that the messages without one are those of
the effective history, and no rollback meets a message that already has one.
-/

namespace Crewon.Verif.MessageView

open Crewon.Js Crewon.Checked Crewon.Domain Crewon.Lib Crewon.Store Crewon.Verif.ModelHistory
open Crewon.Verif.ThreadRollback

/-- The items that carry messages. -/
abbrev backed (items : List ModelHistoryItem) : List ModelHistoryItem :=
  items.filter isModelHistoryMessageBacked

/-- A rollback marker carries no message. -/
theorem backed_marker (history : List ModelHistoryItem) (marker : ModelHistoryRollbackMarker) :
    backed (history ++ [marker.item]) = backed history := by
  rw [backed, List.filter_append]
  exact List.append_nil _

section Pairing

variable {tenantId threadId : JsString}

/-- Messages that were paired with items match them place by place. -/
theorem pairMessages_eq_ok {index : Nat} {messages : List MessageRecord}
    {items : List ModelHistoryItem} {pairs : List (MessageRecord × ModelHistoryItem)}
    (paired : pairMessages tenantId threadId index messages items = .ok pairs)
    (even : items.length = messages.length) :
    pairs.map Prod.fst = messages ∧ pairs.map Prod.snd = items ∧
      ∀ (place : Nat) pair, pairs[place]? = some pair →
        messageMatchesHistory tenantId threadId (index + place) pair.1 pair.2 = true := by
  induction messages generalizing index items pairs with
  | nil =>
    obtain rfl := Except.ok.inj paired
    have none : items = [] := List.length_eq_zero_iff.mp even
    simp [none]
  | cons message rest hypothesis =>
    cases items with
    | nil => simp at even
    | cons item later =>
      simp only [pairMessages, bind_eq_ok, exists_unit, rejectIf_eq_ok, Bool.not_eq_false,
        pure_eq_ok] at paired
      obtain ⟨here, pairs, there, rfl⟩ := paired
      obtain ⟨messages, items, places⟩ := hypothesis there (by simpa using even)
      refine ⟨by simp [messages], by simp [items], ?_⟩
      intro place pair found
      cases place with
      | zero =>
        obtain rfl := Option.some.inj found
        exact here
      | succ place =>
        rw [List.getElem?_cons_succ] at found
        have shifted := places place pair found
        rwa [Nat.add_right_comm] at shifted

/-- What an accepted correlation says. -/
structure Correlated (tenantId threadId : JsString) (history : List ModelHistoryItem)
    (messages : List MessageRecord) (pairs : List (MessageRecord × ModelHistoryItem)) :
    Prop where
  messages : pairs.map Prod.fst = messages
  items : pairs.map Prod.snd = backed history
  places : ∀ (place : Nat) pair, pairs[place]? = some pair →
    messageMatchesHistory tenantId threadId place pair.1 pair.2 = true

/-- An accepted correlation pairs the messages with the items that carry them. -/
theorem correlateMessages_eq_ok {history : List ModelHistoryItem} {messages : List MessageRecord}
    {pairs : List (MessageRecord × ModelHistoryItem)}
    (accepted : correlateMessages tenantId threadId history messages = .ok pairs) :
    Correlated tenantId threadId history messages pairs := by
  simp only [correlateMessages, bind_eq_ok, exists_unit, rejectIf_eq_ok, not_not] at accepted
  obtain ⟨even, paired⟩ := accepted
  obtain ⟨messages, items, places⟩ := pairMessages_eq_ok paired even
  refine ⟨messages, items, ?_⟩
  intro place pair found
  have matched := places place pair found
  rwa [Nat.zero_add] at matched

/-- The messages of a correlated thread are numbered by their places. -/
theorem Correlated.sequence {history : List ModelHistoryItem} {messages : List MessageRecord}
    {pairs : List (MessageRecord × ModelHistoryItem)}
    (correlated : Correlated tenantId threadId history messages pairs) {place : Nat}
    {pair : MessageRecord × ModelHistoryItem} (found : pairs[place]? = some pair) :
    pair.1.sequence = place + 1 := by
  have matched := correlated.places place pair found
  unfold messageMatchesHistory at matched
  cases said : pair.2.body with
  | message role source content contentDigest origin =>
    simp only [said, Bool.and_eq_true, decide_eq_true_eq] at matched
    exact matched.1.1.1.1.1.2
  | toolCall | toolResult | compaction | rollback => simp [said] at matched

/-- The item of a pair stands at its place among the items that carry messages. -/
theorem Correlated.item {history : List ModelHistoryItem} {messages : List MessageRecord}
    {pairs : List (MessageRecord × ModelHistoryItem)}
    (correlated : Correlated tenantId threadId history messages pairs) {place : Nat}
    {pair : MessageRecord × ModelHistoryItem} (found : pairs[place]? = some pair) :
    (backed history)[place]? = some pair.2 := by
  rw [← correlated.items, List.getElem?_map, found]
  rfl

end Pairing

section Ownership

/-- The history of a thread belongs to one tenant, and the index knows it under no other. -/
structure Owned (index : InMemoryModelHistoryAppendIndex) (threadId : JsString)
    (history : List ModelHistoryItem) : Prop where
  stored : ∃ tenantId, StoredHistory ⟨tenantId, threadId⟩ history
  indexed : ∀ tenantId, (index.find (appendIndexScope ⟨tenantId, threadId⟩)).isSome = true →
    history ≠ [] ∧ StoredHistory ⟨tenantId, threadId⟩ history

/-- Threads have different places in the index. -/
theorem scope_inj {first second : ThreadLocator}
    (same : appendIndexScope first = appendIndexScope second) : first = second := by
  obtain ⟨sameTenant, sameThread⟩ := stringifyPair_inj same
  cases first
  cases second
  rw [Option.some.injEq] at sameTenant
  rw [ThreadLocator.mk.injEq]
  exact ⟨sameTenant, sameThread⟩

/-- Validated items go on where the history of the thread ends. -/
theorem Owned.extended {index : InMemoryModelHistoryAppendIndex} {locator : ThreadLocator}
    {history : List ModelHistoryItem} (owned : Owned index locator.threadId history)
    {append : ModelHistoryAppend} {itemIdExists : JsString → Bool}
    (accepted : validateIndexedAppend index history append locator itemIdExists = .ok ()) :
    (append.items ≠ [] → StoredHistory locator history) ∧
      (∀ item ∈ append.items, StoredItem locator item) ∧
      Numbered (history.length + 1) append.items := by
  simp only [validateIndexedAppend, bind_eq_ok, exists_unit] at accepted
  obtain ⟨head, first, shape, _⟩ := accepted
  simp only [appendState, bind_eq_ok, exists_unit, rejectIf_eq_ok, not_or, not_not,
    pure_eq_ok] at first
  obtain ⟨⟨counted, _⟩, _, _, rfl⟩ := first
  obtain ⟨_, items, numbered⟩ := validateModelHistoryAppendShape_eq_ok shape
  rw [counted] at numbered
  refine ⟨?_, items, numbered⟩
  intro _
  cases known : index.find (appendIndexScope locator) with
  | some state => exact (owned.indexed locator.tenantId (by simp [known])).2
  | none =>
    rw [known] at counted
    have none : history = [] := List.length_eq_zero_iff.mp (by
      simp only [Option.map_none, Option.getD_none] at counted
      omega)
    rw [none]
    exact stored_empty

/-- The owner of a history is known by its items. -/
theorem owner_unique {first second : ThreadLocator} {history : List ModelHistoryItem}
    (nonempty : history ≠ []) (one : StoredHistory first history)
    (other : StoredHistory second history) : first.tenantId = second.tenantId := by
  have member := List.head_mem nonempty
  rw [← (one.items _ member).tenantId, (other.items _ member).tenantId]

/-- The index of committed items knows one more thread. -/
theorem committed_find {index : InMemoryModelHistoryAppendIndex} {locator other : ThreadLocator}
    {items : List ModelHistoryItem} (stored : ∀ item ∈ items, StoredItem locator item)
    (known : ((committed index items).find (appendIndexScope other)).isSome = true) :
    (items ≠ [] ∧ other = locator) ∨ (index.find (appendIndexScope other)).isSome = true := by
  cases items with
  | nil => exact .inr known
  | cons first rest =>
    have own := stored first List.mem_cons_self
    have here : (⟨first.tenantId, first.threadId⟩ : ThreadLocator) = locator := by
      rw [own.tenantId, own.threadId]
    rw [committed, here] at known
    by_cases same : other = locator
    · exact .inl ⟨List.cons_ne_nil first rest, same⟩
    · rw [OrderedMap.find_set_of_ne fun equal => same (scope_inj equal)] at known
      exact .inr known

/-- Validated items keep the history of their thread with its owner. -/
theorem Owned.append {index : InMemoryModelHistoryAppendIndex} {locator : ThreadLocator}
    {history : List ModelHistoryItem} (owned : Owned index locator.threadId history)
    {append : ModelHistoryAppend} {itemIdExists : JsString → Bool}
    (accepted : validateIndexedAppend index history append locator itemIdExists = .ok ()) :
    Owned (committed index append.items) locator.threadId (history ++ append.items) := by
  obtain ⟨before, items, numbered⟩ := owned.extended accepted
  by_cases none : append.items = []
  · rw [none, List.append_nil]
    exact owned
  · have after := (before none).append items numbered
    have filled : history ++ append.items ≠ [] := by simp [none]
    refine ⟨⟨locator.tenantId, after⟩, ?_⟩
    intro tenantId known
    rcases committed_find items known with ⟨_, same⟩ | earlier
    · rw [same]
      exact ⟨filled, after⟩
    · obtain ⟨nonempty, own⟩ := owned.indexed tenantId earlier
      have same : tenantId = locator.tenantId := owner_unique nonempty own (before none)
      rw [same]
      exact ⟨filled, after⟩

/-- Items of one thread leave the histories of all others with their owners. -/
theorem Owned.elsewhere {index : InMemoryModelHistoryAppendIndex} {locator : ThreadLocator}
    {threadId : JsString} {history : List ModelHistoryItem} (owned : Owned index threadId history)
    (different : threadId ≠ locator.threadId) {items : List ModelHistoryItem}
    (stored : ∀ item ∈ items, StoredItem locator item) :
    Owned (committed index items) threadId history := by
  refine ⟨owned.stored, ?_⟩
  intro tenantId known
  rcases committed_find stored known with ⟨_, same⟩ | earlier
  · exact absurd (congrArg ThreadLocator.threadId same) different
  · exact owned.indexed tenantId earlier

end Ownership

section Invariant

/-- No item of a stored history occurs twice. -/
theorem stored_nodup {locator : ThreadLocator} {history : List ModelHistoryItem}
    (stored : StoredHistory locator history) : history.Nodup := by
  apply stored.numbered.ascending.imp
  intro first second ordered same
  rw [same] at ordered
  exact Int.lt_irrefl _ ordered

/-- The message at a place of a thread is invalidated. -/
def Invalidated (store : ThreadStore) (threadId : JsString) (place : Nat) : Prop :=
  (store.invalidationOf threadId (place + 1)).isSome = true

/-- The history of a thread can be replayed, and the invalidated places are those of the items
that the replay no longer has in effect. -/
structure ViewOf (store : ThreadStore) (threadId : JsString) : Prop where
  owned : Owned store.modelHistoryAppend threadId (store.historyOf threadId)
  replayed : ∃ replay, replayEffectiveItems ⟨[], []⟩ (store.historyOf threadId) = .ok replay ∧
    Tombstones (backed (store.historyOf threadId)) (backed replay.items)
      (Invalidated store threadId)

/-- Every thread of the store has a consistent view. -/
def Consistent (store : ThreadStore) : Prop := ∀ threadId, ViewOf store threadId

/-- The view of a thread depends on its history, its invalidations and the index only. -/
theorem ViewOf.congr {before after : ThreadStore} {threadId : JsString}
    (view : ViewOf before threadId)
    (sameHistory : after.historyOf threadId = before.historyOf threadId)
    (sameInvalidations : ∀ sequence,
      after.invalidationOf threadId sequence = before.invalidationOf threadId sequence)
    (owned : Owned after.modelHistoryAppend threadId (before.historyOf threadId)) :
    ViewOf after threadId := by
  refine ⟨by rw [sameHistory]; exact owned, ?_⟩
  obtain ⟨replay, replayed, tombstones⟩ := view.replayed
  refine ⟨replay, by rw [sameHistory]; exact replayed, ?_⟩
  have same : Invalidated after threadId = Invalidated before threadId := by
    funext place
    rw [Invalidated, Invalidated, sameInvalidations]
  rw [sameHistory, same]
  exact tombstones

/-- The empty store is consistent. -/
theorem consistent_empty : Consistent .empty := by
  intro threadId
  refine ⟨⟨⟨.empty, stored_empty⟩, ?_⟩, ⟨[], []⟩, rfl, ?_⟩
  · intro tenantId known
    cases known
  · have none : Invalidated .empty threadId = fun _ => False := by
      funext place
      exact eq_false fun invalidated => Bool.false_ne_true invalidated
    rw [none]
    exact Tombstones.nil

@[simp] theorem historyOf_appendModelHistory (store : ThreadStore) (threadId other : JsString)
    (items : List ModelHistoryItem) :
    (store.appendModelHistory threadId items).historyOf other =
      if other = threadId then store.historyOf threadId ++ items else store.historyOf other := by
  unfold ThreadStore.appendModelHistory
  cases items with
  | nil =>
    by_cases same : other = threadId
    · simp [same]
    · simp [same]
  | cons item rest =>
    by_cases same : other = threadId
    · simp [ThreadStore.historyOf, same]
    · simp [ThreadStore.historyOf, OrderedMap.find_set_of_ne, same]

@[simp] theorem index_appendModelHistory (store : ThreadStore) (threadId : JsString)
    (items : List ModelHistoryItem) :
    (store.appendModelHistory threadId items).modelHistoryAppend =
      committed store.modelHistoryAppend items := by
  unfold ThreadStore.appendModelHistory
  cases items <;> rfl

@[simp] theorem invalidationOf_appendModelHistory (store : ThreadStore)
    (threadId other : JsString) (items : List ModelHistoryItem) (sequence : Int) :
    (store.appendModelHistory threadId items).invalidationOf other sequence =
      store.invalidationOf other sequence := by
  unfold ThreadStore.appendModelHistory
  cases items <;> rfl

/-- Validated items without a marker keep every view consistent. -/
theorem Consistent.append {store : ThreadStore} (consistent : Consistent store)
    {locator : ThreadLocator} {history : ModelHistoryAppend}
    (accepted : store.validateHistory history locator = .ok ())
    (unmarked : ∀ item ∈ history.items, item.isRollback = false) :
    Consistent (store.appendModelHistory locator.threadId history.items) := by
  intro threadId
  have here := consistent locator.threadId
  have grown := here.owned.append accepted
  by_cases same : threadId = locator.threadId
  · subst same
    obtain ⟨replay, replayed, tombstones⟩ := here.replayed
    refine ⟨by simpa using grown, { replay with items := replay.items ++ history.items }, ?_, ?_⟩
    · rw [historyOf_appendModelHistory, if_pos rfl, replayEffectiveItems_append, replayed, ok_bind]
      exact replayEffectiveItems_unmarked unmarked replay
    · have kept : Invalidated (store.appendModelHistory locator.threadId history.items)
          locator.threadId = Invalidated store locator.threadId := by
        funext place
        rw [Invalidated, Invalidated, invalidationOf_appendModelHistory]
      obtain ⟨tenantId, stored⟩ := grown.stored
      have distinct := (stored_nodup stored).filter isModelHistoryMessageBacked
      rw [historyOf_appendModelHistory, if_pos rfl, kept, backed, backed, List.filter_append,
        List.filter_append]
      rw [List.filter_append] at distinct
      exact tombstones.append distinct
  · obtain ⟨_, items, _⟩ := here.owned.extended accepted
    apply (consistent threadId).congr
    · rw [historyOf_appendModelHistory, if_neg same]
    · intro sequence
      rw [invalidationOf_appendModelHistory]
    · rw [index_appendModelHistory]
      exact (consistent threadId).owned.elsewhere same items

end Invariant

section Rollback

variable {history : List ModelHistoryItem} {messages : List MessageRecord} {tenantId : JsString}
  {event : ThreadRolledBackEvent} {marker : ModelHistoryRollbackMarker}
  {invalidated : List InvalidatedMessage}

/-- The sequences that a rollback aims at are those of the items it takes out of effect. -/
theorem mem_effectiveTargetSequences {locator : ThreadLocator} {items : List ModelHistoryItem}
    (boundary : Int) {entry : ModelHistoryItem} (stored : StoredHistory locator history)
    (sublist : items.Sublist history) (member : entry ∈ backed history) :
    entry.sequence ∈ effectiveTargetSequences items boundary history.length ↔
      entry ∈ backed items ∧ entry ∉ backed (cutAt items (some boundary)) := by
  obtain ⟨entered, carries⟩ := List.mem_filter.mp member
  -- an item of the history is known by its sequence, which is at most its length
  have known {other : ModelHistoryItem} (there : other ∈ history)
      (same : other.sequence = entry.sequence) : other = entry := by
    obtain ⟨first, found⟩ := List.getElem?_of_mem there
    obtain ⟨second, here⟩ := List.getElem?_of_mem entered
    have firstNumber := stored.numbered.sequence found
    have secondNumber := stored.numbered.sequence here
    have place : first = second := by omega
    rw [place, here] at found
    exact (Option.some.inj found).symm
  have reached : entry.sequence ≤ history.length := by
    obtain ⟨place, found⟩ := List.getElem?_of_mem entered
    have number := stored.numbered.sequence found
    have bound := (List.getElem?_eq_some_iff.mp found).1
    omega
  simp only [effectiveTargetSequences, backed, cutAt, List.mem_map, List.mem_filter,
    Bool.and_eq_true, decide_eq_true_eq]
  constructor
  · rintro ⟨other, ⟨there, ⟨carried, above⟩, _⟩, same⟩
    obtain rfl := known (sublist.subset there) same
    refine ⟨⟨there, carried⟩, ?_⟩
    rintro ⟨⟨_, below⟩, _⟩
    omega
  · rintro ⟨⟨there, carried⟩, kept⟩
    refine ⟨entry, ⟨there, ⟨carried, ?_⟩, reached⟩, rfl⟩
    by_contra below
    exact kept ⟨⟨there, by omega⟩, carried⟩

/-- The invalidated messages of a rollback stand at the places of the items it takes out of
effect. -/
theorem derive_spec {locator : ThreadLocator} {replay : EffectiveReplay}
    (stored : StoredHistory locator history)
    (replayed : replayEffectiveItems ⟨[], []⟩ history = .ok replay)
    (through : marker.historyThroughSequence = history.length)
    (derived : deriveRollbackMessageInvalidationsFromLedger history history messages tenantId event
      marker = .ok invalidated) (sequence : Int) :
    sequence ∈ invalidated.map (·.messageSequence) ↔
      ∃ (place : Nat) (entry : ModelHistoryItem), sequence = place + 1 ∧
        (backed history)[place]? = some entry ∧ entry ∈ backed replay.items ∧
          entry ∉ backed (cutAt replay.items marker.historyFromSequence) := by
  simp only [deriveRollbackMessageInvalidationsFromLedger, bind_eq_ok] at derived
  obtain ⟨pairs, correlation, rest⟩ := derived
  have correlated := correlateMessages_eq_ok correlation
  cases boundary : marker.historyFromSequence with
  | none =>
    rw [boundary] at rest
    obtain rfl := pure_eq_ok.mp rest
    constructor
    · intro member
      simp at member
    · rintro ⟨_, _, _, _, kept, dropped⟩
      exact absurd kept dropped
  | some fromSequence =>
    simp only [boundary, projectEffectiveModelHistory, replayEffectiveHistory_stored stored,
      replayed, Except.map, bind_eq_ok, Except.ok.injEq, exists_eq_left', pure_eq_ok,
      through] at rest
    rw [← rest, List.map_map, List.mem_map]
    have aimed {entry : ModelHistoryItem} (member : entry ∈ backed history) :=
      mem_effectiveTargetSequences fromSequence stored
        (replayEffectiveItems_of replayed).sublist member
    constructor
    · rintro ⟨pair, member, rfl⟩
      obtain ⟨there, target⟩ := List.mem_filter.mp member
      obtain ⟨place, found⟩ := List.getElem?_of_mem there
      have item := correlated.item found
      exact ⟨place, pair.2, correlated.sequence found, item,
        (aimed (List.mem_of_getElem? item)).mp (by simpa using target)⟩
    · rintro ⟨place, entry, rfl, found, dropped⟩
      rw [← correlated.items, List.getElem?_map, Option.map_eq_some_iff] at found
      obtain ⟨pair, here, rfl⟩ := found
      have item := correlated.item here
      refine ⟨pair, List.mem_filter.mpr ⟨List.mem_of_getElem? here, ?_⟩, correlated.sequence here⟩
      simpa using (aimed (List.mem_of_getElem? item)).mpr dropped

/-- What a rollback that passes all checks but the last one is known to be. -/
structure RollsBack (store : ThreadStore) (input : CommitThreadRollbackInput)
    (prepared : PreparedThreadRollback) : Prop where
  artifacts : validateThreadRollbackArtifacts (store.historyOf input.event.threadId)
    ⟨input.event.boundary, input.marker, input.event⟩ = .ok ()
  through : input.marker.historyThroughSequence =
    ((store.historyOf input.event.threadId).getLast?.map (·.sequence)).getD 0
  derived : deriveRollbackMessageInvalidationsFromLedger (store.historyOf input.event.threadId)
    (store.historyOf input.event.threadId) (store.messagesOf input.event.threadId) input.tenantId
      input.event input.marker = .ok prepared.invalidatedMessages

/-- A prepared rollback has passed its checks. -/
theorem prepareThreadRollbackCommit_eq_ok {store : ThreadStore}
    {input : CommitThreadRollbackInput} {prepared : PreparedThreadRollback}
    (accepted : prepareThreadRollbackCommit input (store.threads.find input.event.threadId)
      (store.historyOf input.event.threadId) (store.messagesOf input.event.threadId) =
        .ok prepared) : RollsBack store input prepared := by
  unfold prepareThreadRollbackCommit at accepted
  cases current : store.threads.find input.event.threadId with
  | none => simp [current] at accepted
  | some thread =>
    simp only [current, bind_eq_ok, exists_unit, rejectIf_eq_ok, not_or, not_not, mapError_eq_ok,
      pure_eq_ok] at accepted
    obtain ⟨_, _, _, _, _, ⟨head, through, _⟩, artifacts, state, _, invalidated, derived, rfl⟩ :=
      accepted
    exact ⟨artifacts, through.trans head.symm, derived⟩

/-- No message that a rollback would invalidate has been invalidated before. -/
theorem RollsBack.fresh {store : ThreadStore} {input : CommitThreadRollbackInput}
    {prepared : PreparedThreadRollback} (rolls : RollsBack store input prepared)
    (consistent : Consistent store) :
    store.alreadyInvalidated input.event.threadId prepared.invalidatedMessages = false := by
  obtain ⟨owned, replay, replayed, tombstones⟩ := consistent input.event.threadId
  obtain ⟨owner, stored⟩ := owned.stored
  have through := rolls.through.trans stored.last
  rw [ThreadStore.alreadyInvalidated, List.any_eq_false]
  intro message member known
  have named : message.messageSequence ∈ prepared.invalidatedMessages.map (·.messageSequence) :=
    List.mem_map_of_mem member
  obtain ⟨place, entry, sequence, found, kept, _⟩ :=
    (derive_spec stored replayed through rolls.derived _).mp named
  rw [sequence] at known
  exact tombstones.not_marked found kept known

@[simp] theorem historyOf_invalidate (store : ThreadStore) (threadId other : JsString)
    (invalidated : List InvalidatedMessage) :
    (store.invalidate threadId invalidated).historyOf other = store.historyOf other := rfl

@[simp] theorem index_invalidate (store : ThreadStore) (threadId : JsString)
    (invalidated : List InvalidatedMessage) :
    (store.invalidate threadId invalidated).modelHistoryAppend = store.modelHistoryAppend := rfl

/-- Invalidations of one thread leave the other threads alone. -/
theorem invalidationOf_invalidate_of_ne (store : ThreadStore) {threadId other : JsString}
    (different : other ≠ threadId) (invalidated : List InvalidatedMessage) (sequence : Int) :
    (store.invalidate threadId invalidated).invalidationOf other sequence =
      store.invalidationOf other sequence := by
  simp [ThreadStore.invalidate, ThreadStore.invalidationOf, OrderedMap.find_set_of_ne, different]

/-- Reading an invalidation after others were entered. -/
theorem invalidationOf_invalidate_self (store : ThreadStore) (threadId : JsString)
    (invalidated : List InvalidatedMessage) (sequence : Int) :
    (store.invalidate threadId invalidated).invalidationOf threadId sequence =
      (((store.messageInvalidations.find threadId).getD .empty).setAll
        (invalidated.map fun message => (message.messageSequence, message.invalidation))).find
          sequence := by
  simp [ThreadStore.invalidate, ThreadStore.invalidationOf]

/-- An invalidation as it is found where the thread has some, or has none yet. -/
theorem invalidationOf_eq (store : ThreadStore) (threadId : JsString) (sequence : Int) :
    store.invalidationOf threadId sequence =
      ((store.messageInvalidations.find threadId).getD .empty).find sequence := by
  unfold ThreadStore.invalidationOf
  cases store.messageInvalidations.find threadId <;> rfl

/-- A message is invalidated when it was before or is one of those entered. -/
theorem invalidate_isSome (store : ThreadStore) (threadId : JsString)
    (invalidated : List InvalidatedMessage) (sequence : Int) :
    ((store.invalidate threadId invalidated).invalidationOf threadId sequence).isSome = true ↔
      (store.invalidationOf threadId sequence).isSome = true ∨
        sequence ∈ invalidated.map (·.messageSequence) := by
  rw [invalidationOf_invalidate_self, OrderedMap.find_setAll_isSome, List.map_map,
    invalidationOf_eq]
  rfl

/-- Invalidations of messages that have none yet leave those there are alone. -/
theorem invalidate_keeps {store : ThreadStore} {threadId : JsString}
    {invalidated : List InvalidatedMessage}
    (fresh : store.alreadyInvalidated threadId invalidated = false) {other : JsString}
    {sequence : Int} {invalidation : MessageInvalidation}
    (found : store.invalidationOf other sequence = some invalidation) :
    (store.invalidate threadId invalidated).invalidationOf other sequence = some invalidation := by
  by_cases same : other = threadId
  · subst same
    have absent : sequence ∉ invalidated.map (·.messageSequence) := by
      intro member
      obtain ⟨message, there, rfl⟩ := List.mem_map.mp member
      rw [ThreadStore.alreadyInvalidated, List.any_eq_false] at fresh
      exact fresh message there (by rw [found, Option.isSome_some])
    rw [invalidationOf_invalidate_self, OrderedMap.find_setAll_of_notMem, ← invalidationOf_eq]
    · exact found
    · rw [List.map_map]
      exact absent
  · rw [invalidationOf_invalidate_of_ne store same]
    exact found

/-- The view of a thread behind the marker of an accepted rollback whose messages are
invalidated. -/
theorem ViewOf.cut {before after : ThreadStore} {input : CommitThreadRollbackInput}
    {prepared : PreparedThreadRollback} (rolls : RollsBack before input prepared)
    (view : ViewOf before input.event.threadId)
    (grown : after.historyOf input.event.threadId =
      before.historyOf input.event.threadId ++ [input.marker.item])
    (marks : ∀ sequence, (after.invalidationOf input.event.threadId sequence).isSome = true ↔
      (before.invalidationOf input.event.threadId sequence).isSome = true ∨
        sequence ∈ prepared.invalidatedMessages.map (·.messageSequence))
    (owned : Owned after.modelHistoryAppend input.event.threadId
      (after.historyOf input.event.threadId)) : ViewOf after input.event.threadId := by
  obtain ⟨replay, replayed, tombstones⟩ := view.replayed
  obtain ⟨owner, stored⟩ := view.owned.stored
  have through := rolls.through.trans stored.last
  have left := replay_of_artifacts stored replayed rolls.artifacts
  rw [← grown] at left
  refine ⟨owned, _, left, ?_⟩
  have unchanged : backed (after.historyOf input.event.threadId) =
      backed (before.historyOf input.event.threadId) := by
    rw [grown, backed_marker]
  rw [unchanged]
  apply tombstones.cut ((cutAt_sublist replay.items _).filter _)
  intro place
  rw [Invalidated, marks, derive_spec stored replayed through rolls.derived]
  constructor
  · rintro (earlier | ⟨other, entry, sequence, found, dropped⟩)
    · exact .inl earlier
    · obtain rfl : other = place := by omega
      exact .inr ⟨entry, found, dropped⟩
  · rintro (earlier | ⟨entry, found, dropped⟩)
    · exact .inl earlier
    · exact .inr ⟨place, entry, rfl, found, dropped⟩

/-- A prepared rollback keeps every view consistent. -/
theorem Consistent.rollback {store : ThreadStore} (consistent : Consistent store)
    {input : CommitThreadRollbackInput} {prepared : PreparedThreadRollback}
    (rolls : RollsBack store input prepared)
    (accepted : store.validateHistory ⟨input.expectedHistorySequence, [input.marker.item]⟩
      ⟨input.tenantId, input.event.threadId⟩ = .ok ()) :
    Consistent ((store.appendModelHistory input.event.threadId [input.marker.item]).invalidate
      input.event.threadId prepared.invalidatedMessages) := by
  intro threadId
  have here := consistent input.event.threadId
  by_cases same : threadId = input.event.threadId
  · subst same
    apply here.cut rolls
    · rw [historyOf_invalidate, historyOf_appendModelHistory, if_pos rfl]
    · intro sequence
      rw [invalidate_isSome, invalidationOf_appendModelHistory]
    · rw [historyOf_invalidate, historyOf_appendModelHistory, if_pos rfl, index_invalidate,
        index_appendModelHistory]
      exact here.owned.append accepted
  · obtain ⟨_, items, _⟩ := here.owned.extended accepted
    apply (consistent threadId).congr
    · rw [historyOf_invalidate, historyOf_appendModelHistory, if_neg same]
    · intro sequence
      rw [invalidationOf_invalidate_of_ne _ same, invalidationOf_appendModelHistory]
    · rw [index_invalidate, index_appendModelHistory]
      exact (consistent threadId).owned.elsewhere same items

end Rollback

section Unreachable

/-- A rejection other than the one of a message that was invalidated before. -/
abbrev Other (failure : Failure) : Prop :=
  failure ≠ runStoreError "message_already_invalidated"

/-- A check with another code. -/
theorem other_check {condition : Prop} [Decidable condition] {code : String}
    (different : runStoreError code ≠ runStoreError "message_already_invalidated") :
    FailsOnly Other (rejectIf condition (runStoreError code)) := failsOnly_rejectIf different

/-- A check with another code in front of others. -/
theorem other_check_bind {α : Type} {condition : Prop} [Decidable condition] {code : String}
    {next : Unit → Checked α}
    (different : runStoreError code ≠ runStoreError "message_already_invalidated")
    (rest : FailsOnly Other (next ())) :
    FailsOnly Other (rejectIf condition (runStoreError code) >>= next) :=
  (other_check different).bind fun _ _ => rest

/-- A computation whose errors become another code, in front of others. -/
theorem other_mapError_bind {α β : Type} {code : String} {value : Checked α}
    {next : α → Checked β}
    (different : runStoreError code ≠ runStoreError "message_already_invalidated")
    (rest : ∀ result, value = .ok result → FailsOnly Other (next result)) :
    FailsOnly Other (value.mapError (fun _ => runStoreError code) >>= next) := by
  have rewritten : FailsOnly Other (value.mapError fun _ => runStoreError code) :=
    failsOnly_mapError fun _ => different
  exact rewritten.bind fun result succeeded => rest result (mapError_eq_ok.mp succeeded)

/-- The checks of a locator. -/
theorem other_locator (locator : ThreadLocator) :
    FailsOnly Other (validateThreadLocator locator) :=
  other_check_bind (by decide) (other_check (by decide))

/-- The checks of a descriptor. -/
theorem other_idempotency (idempotency : IdempotencyDescriptor) :
    FailsOnly Other (validateIdempotency idempotency) :=
  (failsOnly_rejectIf (by decide)).bind fun _ _ =>
    other_check_bind (by decide) (other_check (by decide))

/-- The checks of events. -/
theorem other_events (threadId : JsString) (eventIdExists : JsString → Bool)
    (eventIds : List JsString) (events : List ThreadLifecycleEvent) :
    FailsOnly Other (validateThreadEventsFrom threadId eventIdExists eventIds events) := by
  induction events generalizing eventIds with
  | nil => exact failsOnly_of_ok rfl
  | cons event rest hypothesis =>
    unfold validateThreadEventsFrom
    refine other_check_bind (by decide) ?_
    refine other_check_bind (by decide) ?_
    refine other_check_bind (by decide) ?_
    refine other_check_bind (by decide) ?_
    exact hypothesis _

/-- The pairing of messages with items. -/
theorem other_pairs (tenantId threadId : JsString) (index : Nat) (messages : List MessageRecord)
    (items : List ModelHistoryItem) :
    FailsOnly Other (pairMessages tenantId threadId index messages items) := by
  induction messages generalizing index items with
  | nil => exact failsOnly_of_ok rfl
  | cons message rest hypothesis =>
    cases items with
    | nil => exact failsOnly_error (by decide)
    | cons item later =>
      unfold pairMessages
      refine other_check_bind (by decide) ?_
      exact (hypothesis _ later).bind fun _ _ => failsOnly_of_ok rfl

/-- The derivation of invalidations from a history that can be replayed. -/
theorem other_derive {before ledger : List ModelHistoryItem} {messages : List MessageRecord}
    {tenantId : JsString} {event : ThreadRolledBackEvent} {marker : ModelHistoryRollbackMarker}
    {artifacts : ThreadRollbackArtifacts}
    (accepted : validateThreadRollbackArtifacts before artifacts = .ok ()) :
    FailsOnly Other (deriveRollbackMessageInvalidationsFromLedger before ledger messages tenantId
      event marker) := by
  have replayed : ∃ effective, projectEffectiveModelHistory before = .ok effective := by
    simp only [validateThreadRollbackArtifacts, planModelHistoryRollback, bind_eq_ok] at accepted
    obtain ⟨_, _, _, _, _, ⟨effective, replayed, _⟩, _⟩ := accepted
    exact ⟨effective, replayed⟩
  obtain ⟨effective, replayed⟩ := replayed
  unfold deriveRollbackMessageInvalidationsFromLedger correlateMessages
  refine FailsOnly.bind (other_check_bind (by decide) (other_pairs _ _ _ _ _)) ?_
  intro pairs _
  cases marker.historyFromSequence with
  | none => exact failsOnly_of_ok rfl
  | some boundary => exact (failsOnly_of_ok replayed).bind fun _ _ => failsOnly_of_ok rfl

/-- The checks of a rollback that do not look at the tables. -/
theorem other_prepare (input : CommitThreadRollbackInput) (current : Option ThreadState)
    (history : List ModelHistoryItem) (messages : List MessageRecord) :
    FailsOnly Other (prepareThreadRollbackCommit input current history messages) := by
  unfold prepareThreadRollbackCommit
  refine (other_locator _).bind fun _ _ => ?_
  refine (other_idempotency _).bind fun _ _ => ?_
  refine other_check_bind (by decide) ?_
  cases current with
  | none => exact failsOnly_error (by decide)
  | some thread =>
    refine other_check_bind (by decide) ?_
    refine other_check_bind (by decide) ?_
    refine other_check_bind (by decide) ?_
    refine other_mapError_bind (by decide) fun _ accepted => ?_
    refine other_mapError_bind (by decide) fun _ _ => ?_
    exact (other_derive accepted).bind fun _ _ => failsOnly_of_ok rfl

/-- The checks of a valid marker against the history of its thread. -/
theorem other_marker {store : ThreadStore} {locator : ThreadLocator} {last : Int}
    {marker : ModelHistoryRollbackMarker} (valid : validateModelHistoryItem marker.item = .ok ()) :
    FailsOnly Other (store.validateHistory ⟨last, [marker.item]⟩ locator) := by
  have noCall : marker.item.callId = none := rfl
  have looked (items : List ModelHistoryItem) (none : ∀ item ∈ items, item.callId = none) :
      FailsOnly Other (appendState store.modelHistoryAppend (store.historyOf locator.threadId)
        locator items) := by
    have found : referencedToolCalls (store.modelHistoryAppend.find (appendIndexScope locator))
        (store.historyOf locator.threadId) locator .empty items = .ok .empty := by
      induction items with
      | nil => rfl
      | cons item rest hypothesis =>
        rw [referencedToolCalls, none item List.mem_cons_self]
        exact hypothesis fun other member => none other (List.mem_cons_of_mem item member)
    refine other_check_bind (by decide) ?_
    exact (failsOnly_of_ok found).bind fun _ _ => failsOnly_of_ok rfl
  unfold ThreadStore.validateHistory validateIndexedAppend
  refine (looked [] (by simp)).bind fun head _ => ?_
  refine FailsOnly.bind ?_ fun _ _ => ?_
  · unfold validateModelHistoryAppendShape
    refine (other_locator _).bind fun _ _ => ?_
    refine other_check_bind (by decide) ?_
    refine other_check_bind (by decide) ?_
    refine other_check_bind (by decide) ?_
    unfold validateAppendedItems
    refine (failsOnly_of_ok (mapError_eq_ok.mpr valid)).bind fun _ _ => ?_
    refine other_check_bind (by decide) ?_
    refine other_check_bind (by decide) ?_
    refine other_check_bind (by decide) ?_
    refine other_check_bind (by decide) ?_
    exact other_check_bind (by decide) (failsOnly_of_ok rfl)
  · refine (looked [marker.item] (by simp [noCall])).bind fun state _ => ?_
    unfold validateModelHistoryIncrementalPairing
    refine FailsOnly.bind ?_ fun _ _ => failsOnly_of_ok rfl
    refine other_check_bind (by decide) ?_
    refine FailsOnly.bind ?_ fun _ _ => failsOnly_of_ok rfl
    refine FailsOnly.bind ?_ fun _ _ => failsOnly_of_ok rfl
    exact other_check_bind (by decide) (failsOnly_of_ok rfl)

/-- The checks of the messages that a receipt names. -/
theorem other_receiptInvalidations (marker : ModelHistoryRollbackMarker)
    (event : ThreadRolledBackEvent) (messageIds : List JsString)
    (messageSequences historySequences : List Int) (invalidated : List InvalidatedMessage) :
    FailsOnly Other (validateReceiptInvalidations marker event messageIds messageSequences
      historySequences invalidated) := by
  induction invalidated generalizing messageIds messageSequences historySequences with
  | nil => exact failsOnly_of_ok rfl
  | cons message rest hypothesis =>
    unfold validateReceiptInvalidations
    exact other_check_bind (by decide) (hypothesis _ _ _)

/-- The checks of a receipt that is replayed. -/
theorem other_replay (store : ThreadStore) (prior : CommitReceipt CommitThreadRollbackResult)
    (input : CommitThreadRollbackInput) :
    FailsOnly Other (replayThreadRollbackReceipt store prior input) := by
  unfold replayThreadRollbackReceipt
  refine other_check_bind (by decide) ?_
  refine other_check_bind (by decide) ?_
  refine FailsOnly.bind ?_ fun _ _ => ?_
  · unfold validateThreadRollbackReceiptResult
    refine other_check_bind (by decide) ?_
    refine other_mapError_bind (by decide) fun _ _ => ?_
    refine other_check_bind (by decide) ?_
    exact other_receiptInvalidations _ _ _ _ _ _
  · refine FailsOnly.bind ?_ fun _ _ => failsOnly_of_ok rfl
    simp only [ThreadStore.validateRollbackReceiptAuthority]
    split
    · exact failsOnly_error (by decide)
    · unfold validateThreadRollbackReceiptAuthority
      refine other_check_bind (by decide) ?_
      refine other_mapError_bind (by decide) fun _ accepted => ?_
      exact (other_derive accepted).bind fun _ _ => other_check (by decide)

/-- The checks of a rollback in a consistent store do not find a message that was invalidated
before. -/
theorem other_rollback {store : ThreadStore} (consistent : Consistent store)
    (input : CommitThreadRollbackInput) :
    FailsOnly Other (prepareThreadRollback store input) := by
  unfold prepareThreadRollback
  refine other_check_bind (by decide) ?_
  refine other_check_bind (by decide) ?_
  refine other_check_bind (by decide) ?_
  refine other_check_bind (by decide) ?_
  refine (other_prepare _ _ _ _).bind fun prepared accepted => ?_
  have rolls := prepareThreadRollbackCommit_eq_ok accepted
  refine (other_events _ _ _ _).bind fun _ _ => ?_
  have valid : validateModelHistoryItem input.marker.item = .ok () := by
    have artifacts := rolls.artifacts
    simp only [validateThreadRollbackArtifacts, bind_eq_ok, exists_unit] at artifacts
    exact artifacts.1
  refine (other_marker valid).bind fun _ _ => ?_
  refine FailsOnly.bind ?_ fun _ _ => failsOnly_of_ok rfl
  -- the last check is the one in question, and it passes
  have passes : rejectIf (store.alreadyInvalidated input.event.threadId
      prepared.invalidatedMessages = true) (runStoreError "message_already_invalidated") =
        .ok () := by
    rw [rejectIf_eq_ok, rolls.fresh consistent]
    exact Bool.false_ne_true
  exact failsOnly_of_ok passes

end Unreachable

section Runs

/-- A store whose histories and invalidations are those of a consistent one is consistent. -/
theorem Consistent.congr {before after : ThreadStore} (consistent : Consistent before)
    (sameHistory : after.modelHistory = before.modelHistory)
    (sameIndex : after.modelHistoryAppend = before.modelHistoryAppend)
    (sameInvalidations : after.messageInvalidations = before.messageInvalidations) :
    Consistent after := by
  intro threadId
  apply (consistent threadId).congr
  · rw [ThreadStore.historyOf, sameHistory, ThreadStore.historyOf]
  · intro sequence
    rw [ThreadStore.invalidationOf, sameInvalidations, ThreadStore.invalidationOf]
  · rw [sameIndex]
    exact (consistent threadId).owned

/-- What one operation keeps: every view stays consistent, and an invalidation stays what it
is. -/
structure Keeps (before after : ThreadStore) : Prop where
  consistent : Consistent after
  invalidations : ∀ threadId sequence invalidation,
    before.invalidationOf threadId sequence = some invalidation →
      after.invalidationOf threadId sequence = some invalidation

/-- An operation that changes nothing keeps everything. -/
theorem Keeps.refl {store : ThreadStore} (consistent : Consistent store) : Keeps store store :=
  ⟨consistent, fun _ _ _ found => found⟩

/-- An accepted commit has validated its items. -/
theorem prepareThreadCommit_eq_ok {store : ThreadStore} {threadId : JsString}
    {input : CommitThreadInput} {next : ThreadState}
    (accepted : prepareThreadCommit store threadId input = .ok next) :
    store.validateHistory input.history ⟨input.tenantId, threadId⟩ = .ok () := by
  simp only [prepareThreadCommit, bind_eq_ok, exists_unit] at accepted
  obtain ⟨_, _, _, _, _, reduced, _, rest⟩ := accepted
  cases reduced with
  | none => simp at rest
  | some state =>
    simp only [bind_eq_ok, exists_unit] at rest
    exact rest.2.1

/-- A commit of a thread keeps the views. -/
theorem keeps_commitThread {store : ThreadStore} (consistent : Consistent store)
    {input : CommitThreadInput}
    (unmarked : ∀ item ∈ input.history.items, item.isRollback = false) :
    Keeps store ((commitThread input).run store).2 := by
  unfold commitThread
  cases validateThreadCommitInput input with
  | error failure => exact .refl consistent
  | ok threadId =>
    rw [Program.run_check_ok_bind, Program.run_read_bind]
    dsimp only [id]
    split
    · exact .refl consistent
    · cases prepared : prepareThreadCommit store threadId input with
      | error failure => exact .refl consistent
      | ok next =>
        have accepted := prepareThreadCommit_eq_ok prepared
        let entered := (store.appendThreadEvents threadId next input.events).appendMessages
          threadId input.messages
        have same : Consistent entered := consistent.congr rfl rfl rfl
        have appended : Consistent (entered.appendModelHistory threadId input.history.items) :=
          same.append accepted unmarked
        refine ⟨appended.congr rfl rfl rfl, ?_⟩
        intro other sequence invalidation found
        have unchanged := invalidationOf_appendModelHistory entered threadId other
          input.history.items sequence
        exact unchanged.trans found

/-- What the commit of a run appends keeps the views. -/
theorem keeps_appendThread {store : ThreadStore} (consistent : Consistent store)
    {input : ThreadAppend}
    (unmarked : ∀ item ∈ input.history.items, item.isRollback = false) :
    Keeps store ((appendThread input).run store).2 := by
  unfold appendThread
  rw [Program.run_read_bind]
  dsimp only [id]
  cases validateThreadEvents input.events input.threadId _ with
  | error failure => exact .refl consistent
  | ok _ =>
    rw [Program.run_check_ok_bind]
    cases validateMessages input.messages input.events input.threadId input.tenantId _ with
    | error failure => exact .refl consistent
    | ok _ =>
      rw [Program.run_check_ok_bind]
      cases accepted : store.validateHistory input.history ⟨input.tenantId, input.threadId⟩ with
      | error failure => exact .refl consistent
      | ok _ =>
        rw [Program.run_check_ok_bind, Program.run_update_bind, Program.run_update_bind,
          Program.run_update]
        -- events and messages are entered first, into other tables
        have entered (middle : ThreadStore) (sameHistory : middle.modelHistory = store.modelHistory)
            (sameIndex : middle.modelHistoryAppend = store.modelHistoryAppend)
            (sameIds : middle.modelHistoryItemIds = store.modelHistoryItemIds)
            (sameInvalidations : middle.messageInvalidations = store.messageInvalidations) :
            Keeps store (middle.appendModelHistory input.threadId input.history.items) := by
          have same : Consistent middle := consistent.congr sameHistory sameIndex sameInvalidations
          have validated : middle.validateHistory input.history
              ⟨input.tenantId, input.threadId⟩ = .ok () := by
            rw [ThreadStore.validateHistory, ThreadStore.historyOf, sameHistory, sameIndex, sameIds]
            exact accepted
          refine ⟨same.append validated unmarked, ?_⟩
          intro other sequence invalidation found
          rw [invalidationOf_appendModelHistory, ThreadStore.invalidationOf, sameInvalidations]
          exact found
        cases input.next with
        | none => exact entered _ rfl rfl rfl rfl
        | some next => exact entered _ rfl rfl rfl rfl

/-- A rollback keeps the views. -/
theorem keeps_commitThreadRollback {store : ThreadStore} (consistent : Consistent store)
    (input : CommitThreadRollbackInput) :
    Keeps store ((commitThreadRollback input).run store).2 := by
  unfold commitThreadRollback
  rw [Program.run_read_bind]
  dsimp only [id]
  split
  · exact .refl consistent
  · cases prepared : prepareThreadRollback store input with
    | error failure => exact .refl consistent
    | ok result =>
      simp only [prepareThreadRollback, bind_eq_ok, exists_unit, rejectIf_eq_ok,
        pure_eq_ok] at prepared
      obtain ⟨_, _, _, _, prepared, commit, _, accepted, fresh, rfl⟩ := prepared
      have rolls := prepareThreadRollbackCommit_eq_ok commit
      let entered := store.appendThreadEvents input.event.threadId prepared.state
        [input.event.event]
      have same : Consistent entered := consistent.congr rfl rfl rfl
      have still : RollsBack entered input prepared :=
        ⟨rolls.artifacts, rolls.through, rolls.derived⟩
      have rolled := same.rollback still accepted
      refine ⟨rolled.congr rfl rfl rfl, ?_⟩
      intro other sequence invalidation found
      have unmarked : (entered.appendModelHistory input.event.threadId
          [input.marker.item]).alreadyInvalidated input.event.threadId
            prepared.invalidatedMessages = false := by
        simp only [ThreadStore.alreadyInvalidated, invalidationOf_appendModelHistory]
        exact still.fresh same
      apply invalidate_keeps unmarked
      rw [invalidationOf_appendModelHistory]
      exact found

/-- A program whose value is only wrapped leaves the same state. -/
theorem run_wrap_state {α β : Type} (program : Program Failure ThreadStore α) (wrap : α → β)
    (store : ThreadStore) :
    ((program >>= fun value => pure (wrap value)).run store).2 = (program.run store).2 := by
  rw [Program.run_bind]
  rcases program.run store with ⟨value | value, after⟩ <;> rfl

/-- A program whose value is only wrapped aborts with the same error. -/
theorem run_wrap_error {α β : Type} {program : Program Failure ThreadStore α} {wrap : α → β}
    {store : ThreadStore} {failure : Failure}
    (aborts : ((program >>= fun value => pure (wrap value)).run store).1 = .error failure) :
    (program.run store).1 = .error failure := by
  rw [Program.run_bind] at aborts
  rcases run : program.run store with ⟨value | value, after⟩
  · rw [run] at aborts
    obtain rfl : value = failure := Except.error.inj aborts
    rfl
  · rw [run] at aborts
    cases aborts

/-- Every operation keeps the views. -/
theorem keeps_operation {store : ThreadStore} (consistent : Consistent store)
    (operation : ThreadOperation) :
    Keeps store ((performThreadOperation operation).run store).2 := by
  cases operation with
  | commitThread input unmarked =>
    rw [performThreadOperation, run_wrap_state]
    exact keeps_commitThread consistent unmarked
  | appendThread input unmarked =>
    rw [performThreadOperation, run_wrap_state]
    exact keeps_appendThread consistent unmarked
  | commitThreadRollback input =>
    rw [performThreadOperation, run_wrap_state]
    exact keeps_commitThreadRollback consistent input
  | elsewhere runs workItems threadContinuations threadModelStates =>
    rw [performThreadOperation, run_wrap_state]
    exact ⟨consistent.congr rfl rfl rfl, fun _ _ _ found => found⟩

/-- No rollback in a consistent store is rejected because of a message that was invalidated
before. -/
theorem rollback_never_repeats {store : ThreadStore} (consistent : Consistent store)
    (input : CommitThreadRollbackInput) :
    ((commitThreadRollback input).run store).1 ≠
      .error (runStoreError "message_already_invalidated") := by
  intro aborts
  unfold commitThreadRollback at aborts
  rw [Program.run_read_bind] at aborts
  dsimp only [id] at aborts
  split at aborts
  · exact other_replay store _ input _ aborts rfl
  · cases prepared : prepareThreadRollback store input with
    | error failure =>
      rw [prepared] at aborts
      exact other_rollback consistent input failure prepared (Except.error.inj aborts)
    | ok result =>
      rw [prepared] at aborts
      cases aborts

/-- In a consistent store, the messages of a thread whose messages and items correspond are those
of its effective history, apart from the invalidated ones. -/
theorem ViewOf.messages {store : ThreadStore} {tenantId threadId : JsString}
    (view : ViewOf store threadId) {pairs : List (MessageRecord × ModelHistoryItem)}
    (correlation : correlateMessages tenantId threadId (store.historyOf threadId)
      (store.messagesOf threadId) = .ok pairs) :
    ∃ effective, projectEffectiveModelHistory (store.historyOf threadId) = .ok effective ∧
      ∃ shown : List (MessageRecord × ModelHistoryItem), shown.Sublist pairs ∧
        shown.map Prod.fst = store.standardMessages threadId ∧
        shown.map Prod.snd = effective.items.filter isModelHistoryMessageBacked := by
  obtain ⟨owned, replay, replayed, tombstones⟩ := view
  obtain ⟨owner, stored⟩ := owned.stored
  have correlated := correlateMessages_eq_ok correlation
  have projected := replayEffectiveHistory_stored stored
  rw [replayed] at projected
  let visible (message : MessageRecord) : Bool :=
    (store.invalidationOf threadId message.sequence).isNone
  refine ⟨_, projected, pairs.filter fun pair => visible pair.1, List.filter_sublist, ?_, ?_⟩
  · rw [ThreadStore.standardMessages, ← correlated.messages, List.filter_map]
    rfl
  · apply tombstones.view correlated.items visible
    intro place pair found
    show (store.invalidationOf threadId pair.1.sequence).isNone = true ↔ _
    rw [correlated.sequence found, Invalidated, Option.isNone_iff_eq_none,
      Option.isSome_iff_ne_none, not_not]

/-- Along every run of commits and rollbacks: no rollback is rejected because of a message that
was invalidated before, an invalidation is never replaced by another one, and where the i-th
message of a thread corresponds to the i-th item that carries a message, the messages that are
not invalidated correspond, in order, to those items of the effective history. -/
theorem messages_match_effective_history (operations : List ThreadOperation) :
    (∀ step ∈ trace performThreadOperation .empty operations,
      (∀ input, step.operation = .commitThreadRollback input →
        step.outcome ≠ .error (runStoreError "message_already_invalidated")) ∧
      ∀ threadId sequence invalidation,
        step.before.invalidationOf threadId sequence = some invalidation →
          step.after.invalidationOf threadId sequence = some invalidation) ∧
    ∀ store, store = finalState performThreadOperation .empty operations →
      ∀ tenantId threadId pairs,
        correlateMessages tenantId threadId (store.historyOf threadId)
          (store.messagesOf threadId) = .ok pairs →
        ∃ effective, projectEffectiveModelHistory (store.historyOf threadId) = .ok effective ∧
          ∃ shown : List (MessageRecord × ModelHistoryItem), shown.Sublist pairs ∧
            shown.map Prod.fst = store.standardMessages threadId ∧
            shown.map Prod.snd = effective.items.filter isModelHistoryMessageBacked := by
  have preserved (operation : ThreadOperation) (store : ThreadStore)
      (consistent : Consistent store) :
      Consistent ((performThreadOperation operation).run store).2 :=
    (keeps_operation consistent operation).consistent
  refine ⟨?_, ?_⟩
  · intro step member
    have performed := run_of_mem_trace member
    have consistent := (trace_invariant Consistent preserved consistent_empty member).1
    refine ⟨?_, ?_⟩
    · intro input operation aborts
      rw [operation, aborts] at performed
      have failed := congrArg Prod.fst performed
      exact rollback_never_repeats consistent input (run_wrap_error failed)
    · have kept := keeps_operation consistent step.operation
      rw [performed] at kept
      exact kept.invalidations
  · rintro store rfl tenantId threadId pairs correlation
    have consistent := finalState_invariant Consistent preserved consistent_empty operations
    exact (consistent threadId).messages correlation

end Runs

section Sample

/-- The descriptor of a concrete request. -/
def sampleDescriptor (key : String) : IdempotencyDescriptor :=
  ⟨js "threads", js key, js "request"⟩

/-- An event of a concrete thread. -/
def sampleThreadEvent (sequence : Int) (eventId : String) (data : ThreadEventData) :
    ThreadLifecycleEvent :=
  ⟨js "crewon.thread-event.v0", sampleLocator.threadId, js eventId, sequence,
    js "2026-01-01T00:00:00Z", data, false⟩

/-- The event that creates the thread. -/
def sampleCreation : ThreadLifecycleEvent :=
  sampleThreadEvent 1 "event-1"
    (.threadCreated sampleLocator.tenantId (js "space-1") (js "actor-1") none none)

/-- A user message of the thread. -/
def sampleMessage (sequence : Int) (messageId : String) : MessageRecord where
  messageId := js messageId
  tenantId := sampleLocator.tenantId
  threadId := sampleLocator.threadId
  sequence := sequence
  role := .user
  content := js "go on"
  contentDigest := uniformDigest 'a'
  createdAt := js "2026-01-01T00:00:00Z"
  origin := some none
  proposedPlan := none
  invalidation := none

/-- The event that announces a user message. -/
def sampleAnnouncement (sequence : Int) (eventId : String) (message : MessageRecord) :
    ThreadLifecycleEvent :=
  sampleThreadEvent sequence eventId (.threadMessageAppended message.messageId message.sequence
    message.role message.contentDigest none)

/-- A commit of one user message with its item, numbered as given. -/
def sampleTurn (key : String) (revision : Int) (earlier : List ThreadLifecycleEvent)
    (eventSequence messageSequence historySequence : Int) : CommitThreadInput where
  tenantId := sampleLocator.tenantId
  idempotency := sampleDescriptor key
  expectedRevision := revision
  events := earlier ++
    [sampleAnnouncement eventSequence ("said-" ++ key) (sampleMessage messageSequence key)]
  messages := [sampleMessage messageSequence key]
  history := ⟨historySequence - 1, [sampleInstruction historySequence ("item-" ++ key)]⟩
  sourceFence := none

/-- A rollback of the thread, as it is planned in front of its marker. -/
def sampleRollback (key : String) (revision requestedTurns removedTurns fromSequence
    through : Int) : CommitThreadRollbackInput where
  tenantId := sampleLocator.tenantId
  idempotency := sampleDescriptor key
  expectedThreadRevision := revision
  expectedHistorySequence := through
  event := ⟨js "crewon.thread-event.v0", sampleLocator.threadId, js ("event-" ++ key),
    revision + 1, js "2026-01-01T00:00:00Z", ⟨js "actor-1", js key, js ("item-" ++ key),
      requestedTurns, removedTurns, some fromSequence, through, through + 1⟩, false⟩
  marker := ⟨js "crewon.model-history-item.v0", js ("item-" ++ key), sampleLocator.tenantId,
    sampleLocator.threadId, through + 1, none, none, js "2026-01-01T00:00:00Z", js key,
      js ("event-" ++ key), requestedTurns, removedTurns, some fromSequence, through⟩

/-- A commit of one user message as an operation. -/
def sampleCommit (key : String) (revision : Int) (earlier : List ThreadLifecycleEvent)
    (eventSequence messageSequence historySequence : Int) : ThreadOperation :=
  .commitThread
    (sampleTurn key revision earlier eventSequence messageSequence historySequence) (by
      intro item member
      rw [List.mem_singleton.mp member]
      rfl)

/-- A run on one thread: two turns, a rollback of the second one, another turn, a rollback of
the two turns then left, and one more turn. -/
def sampleOperations : List ThreadOperation := [
  sampleCommit "first" 0 [sampleCreation] 2 1 1,
  sampleCommit "second" 2 [] 3 2 2,
  .commitThreadRollback (sampleRollback "rollback-1" 3 1 1 2 2),
  sampleCommit "third" 4 [] 5 3 4,
  .commitThreadRollback (sampleRollback "rollback-2" 5 3 2 1 4),
  sampleCommit "fourth" 6 [] 7 4 6]

/-- After that run the last turn alone is shown, and the effective history has its item. -/
theorem messages_match_sample :
    (finalState performThreadOperation .empty sampleOperations).standardMessages
        sampleLocator.threadId = [sampleMessage 4 "fourth"] ∧
      ∃ effective, projectEffectiveModelHistory ((finalState performThreadOperation .empty
          sampleOperations).historyOf sampleLocator.threadId) = .ok effective ∧
        ∃ shown : List (MessageRecord × ModelHistoryItem),
          shown.map Prod.fst = [sampleMessage 4 "fourth"] ∧
          shown.map Prod.snd = effective.items.filter isModelHistoryMessageBacked := by
  have shows : (finalState performThreadOperation .empty sampleOperations).standardMessages
      sampleLocator.threadId = [sampleMessage 4 "fourth"] := by decide +kernel
  obtain ⟨pairs, correlation⟩ : ∃ pairs, correlateMessages sampleLocator.tenantId
      sampleLocator.threadId
      ((finalState performThreadOperation .empty sampleOperations).historyOf
        sampleLocator.threadId)
      ((finalState performThreadOperation .empty sampleOperations).messagesOf
        sampleLocator.threadId) = .ok pairs := exists_of_isOk (by decide +kernel)
  obtain ⟨effective, projected, shown, _, messages, items⟩ :=
    (messages_match_effective_history sampleOperations).2 _ rfl _ _ pairs correlation
  exact ⟨shows, effective, projected, shown, messages.trans shows, items⟩

end Sample

end Crewon.Verif.MessageView
