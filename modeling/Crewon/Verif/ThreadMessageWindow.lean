import Crewon.Lib.Paging
import Crewon.Store.ThreadMessageWindow
import Crewon.Verif.MessageView
import Mathlib

/-!
# Windows show every visible message once

A window is a contiguous part of the visible messages of its thread, and its flags say on which
sides there are more of them. Following the windows of one side covers that side, message by
message, unless a message alone is too large for a window.
-/

namespace Crewon.Verif.ThreadMessageWindow

open Crewon.Js Crewon.Checked Crewon.Domain Crewon.Lib Crewon.Store

section Search

variable {messages : List MessageRecord} {sequence : Int}

/-- The messages are in the order of their sequences. -/
def Ascending (messages : List MessageRecord) : Prop :=
  messages.Pairwise fun first second => first.sequence < second.sequence

/-- The places before one hold messages below the sequence, the others do not. -/
structure Bounds (messages : List MessageRecord) (sequence : Int) (start stop : Nat) : Prop where
  below : ∀ place message, messages[place]? = some message → place < start →
    message.sequence < sequence
  above : ∀ place message, messages[place]? = some message → stop ≤ place →
    sequence ≤ message.sequence

/-- Later places of ascending messages hold no smaller sequences. -/
theorem Ascending.le {first second : Nat} {left right : MessageRecord}
    (ascending : Ascending messages) (earlier : first ≤ second)
    (atFirst : messages[first]? = some left) (atSecond : messages[second]? = some right) :
    left.sequence ≤ right.sequence := by
  obtain ⟨firstBound, rfl⟩ := List.getElem?_eq_some_iff.mp atFirst
  obtain ⟨secondBound, rfl⟩ := List.getElem?_eq_some_iff.mp atSecond
  rcases Nat.lt_or_eq_of_le earlier with before | rfl
  · exact Int.le_of_lt (List.pairwise_iff_getElem.mp ascending first second firstBound secondBound
      before)
  · exact Int.le_refl _

/-- The search narrows its bounds to one place. -/
theorem messageLowerBoundBetween_bounds (ascending : Ascending messages) {start stop : Nat}
    (ordered : start ≤ stop) (within : stop ≤ messages.length)
    (bounds : Bounds messages sequence start stop) :
    Bounds messages sequence (messageLowerBoundBetween messages sequence start stop)
      (messageLowerBoundBetween messages sequence start stop) := by
  fun_induction messageLowerBoundBetween messages sequence start stop with
  | case1 start stop open' middle smaller hypothesis =>
    have inside : middle < stop := by omega
    have present : middle < messages.length := by omega
    refine hypothesis (by omega) within ⟨?_, bounds.above⟩
    intro place message found before
    have probed : messages[middle]? = some messages[middle] := List.getElem?_eq_getElem present
    have atMiddle : messages[middle].sequence < sequence := by
      simpa [probed] using smaller
    have below := ascending.le (by omega : place ≤ middle) found probed
    omega
  | case2 start stop open' middle larger hypothesis =>
    have present : middle < messages.length := by omega
    refine hypothesis (by omega) (by omega) ⟨bounds.below, ?_⟩
    intro place message found behind
    have probed : messages[middle]? = some messages[middle] := List.getElem?_eq_getElem present
    have atMiddle : sequence ≤ messages[middle].sequence := by
      simpa [probed] using larger
    have above := ascending.le behind probed found
    omega
  | case3 start stop closed =>
    have same : start = stop := by omega
    exact ⟨bounds.below, same ▸ bounds.above⟩

/-- The search finds the place of a sequence. -/
theorem messageLowerBound_bounds (ascending : Ascending messages) :
    Bounds messages sequence (messageLowerBound messages sequence)
      (messageLowerBound messages sequence) := by
  refine messageLowerBoundBetween_bounds ascending (Nat.zero_le _) (Nat.le_refl _) ⟨?_, ?_⟩
  · intro place message found before
    omega
  · intro place message found behind
    have bound := (List.getElem?_eq_some_iff.mp found).1
    omega

/-- A list that is split at such a place is split by its sequences. -/
theorem Bounds.filter {place : Nat} (bounds : Bounds messages sequence place place) :
    messages.filter (fun message => message.sequence < sequence) = messages.take place ∧
      messages.filter (fun message => sequence ≤ message.sequence) = messages.drop place := by
  have front : ∀ message ∈ messages.take place, message.sequence < sequence := by
    intro message member
    obtain ⟨index, bound, rfl⟩ := List.mem_take_iff_getElem.mp member
    have inside : index < messages.length := by omega
    exact bounds.below index _ (List.getElem?_eq_getElem inside) (by omega)
  have back : ∀ message ∈ messages.drop place, sequence ≤ message.sequence := by
    intro message member
    obtain ⟨index, bound, rfl⟩ := List.mem_drop_iff_getElem.mp member
    have found : messages[place + index]? = some messages[place + index] :=
      List.getElem?_eq_getElem (by omega)
    exact bounds.above (place + index) _ found (by omega)
  constructor
  · conv_lhs => rw [← List.take_append_drop place messages]
    rw [List.filter_append, List.filter_eq_self.mpr, List.filter_eq_nil_iff.mpr, List.append_nil]
    · intro message member
      have above := back message member
      simp only [decide_eq_true_eq]
      omega
    · intro message member
      simpa using front message member
  · conv_lhs => rw [← List.take_append_drop place messages]
    rw [List.filter_append, List.filter_eq_nil_iff.mpr, List.filter_eq_self.mpr, List.nil_append]
    · intro message member
      simpa using back message member
    · intro message member
      have below := front message member
      simp only [decide_eq_true_eq]
      omega

end Search

section Reading

/-- A thread as a store keeps it: its messages are in the order of their sequences, which are
positive integers as its revision is, and no message is longer than the host can count. -/
structure Stored (source : MessageWindowSource) : Prop where
  ascending : Ascending source.messages
  numbered : ∀ message ∈ source.messages, isPositiveInteger message.sequence = true
  sized : ∀ message ∈ source.messages, storedBytes message ≤ maxSafeInteger
  revision : isPositiveInteger source.thread.revision = true

/-- Messages that are numbered by their places are in the order of their sequences. -/
theorem ascending_of_places {messages : List MessageRecord}
    (placed : ∀ (place : Nat) message, messages[place]? = some message →
      message.sequence = place + 1) : Ascending messages := by
  refine List.pairwise_iff_getElem.mpr ?_
  intro first second firstBound secondBound earlier
  have left := placed first _ (List.getElem?_eq_getElem firstBound)
  have right := placed second _ (List.getElem?_eq_getElem secondBound)
  omega

/-- The messages of a thread of the store that correspond to its history are in the order of their
sequences. -/
theorem ascending_messageWindows {store : ThreadStore} {locator : ThreadMessageWindowQuery}
    {runBindings : ThreadMessageWindowQuery → List MessageRecord →
      Checked (List ThreadMessageRunBinding)} {source : MessageWindowSource}
    {pairs : List (MessageRecord × ModelHistoryItem)}
    (served : store.messageWindows runBindings locator = some source)
    (correlation : correlateMessages locator.tenantId locator.threadId
      (store.historyOf locator.threadId) (store.messagesOf locator.threadId) = .ok pairs) :
    Ascending source.messages := by
  have correlated := MessageView.correlateMessages_eq_ok correlation
  have same : source.messages = store.messagesOf locator.threadId := by
    unfold ThreadStore.messageWindows at served
    split at served
    · cases served
    · split at served
      · cases served
      · cases served
        rfl
  rw [same, ← correlated.messages]
  refine ascending_of_places ?_
  intro place message found
  rw [List.getElem?_map] at found
  obtain ⟨pair, held, rfl⟩ := Option.map_eq_some_iff.mp found
  exact correlated.sequence held

/-- The visible messages of a thread. -/
def shown (source : MessageWindowSource) : List MessageRecord :=
  source.messages.filter source.visible

/-- The visible messages below a sequence. -/
def before (source : MessageWindowSource) (sequence : Int) : List MessageRecord :=
  (shown source).filter fun message => message.sequence < sequence

/-- The visible messages above a sequence. -/
def after (source : MessageWindowSource) (sequence : Int) : List MessageRecord :=
  (shown source).filter fun message => sequence < message.sequence

/-- The visible messages in the order in which a request comes to them. -/
def side (source : MessageWindowSource) : Option ThreadMessageWindowPosition → List MessageRecord
  | none => (shown source).reverse
  | some ⟨.older, sequence, _⟩ => (before source sequence).reverse
  | some ⟨.newer, sequence, _⟩ => after source sequence

/-- The direction in which a request comes to messages. -/
def directionOf : Option ThreadMessageWindowPosition → WindowDirection
  | none => .older
  | some position => position.direction

/-- Messages in ascending order as a walk comes to them. -/
def inWalk : WindowDirection → List MessageRecord → List MessageRecord
  | .older, messages => messages.reverse
  | .newer, messages => messages

variable {source : MessageWindowSource}

/-- The visible messages are in order. -/
theorem Stored.shown_ascending (stored : Stored source) : Ascending (shown source) :=
  stored.ascending.filter _

/-- In front of the place of a sequence are the visible messages below it. -/
theorem Stored.take_visible (stored : Stored source) (sequence : Int) :
    (source.messages.take (messageLowerBound source.messages sequence)).filter source.visible =
      before source sequence := by
  have bounds : Bounds source.messages sequence _ _ := messageLowerBound_bounds stored.ascending
  rw [← bounds.filter.1, before, shown, List.filter_filter, List.filter_filter]
  simp only [Bool.and_comm]

/-- From the place behind a sequence on are the visible messages above it. -/
theorem Stored.drop_visible (stored : Stored source) (sequence : Int) :
    (source.messages.drop (messageLowerBound source.messages (sequence + 1))).filter
        source.visible =
      after source sequence := by
  have bounds : Bounds source.messages (sequence + 1) _ _ :=
    messageLowerBound_bounds stored.ascending
  rw [← bounds.filter.2, after, shown, List.filter_filter, List.filter_filter]
  simp only [Bool.and_comm, Int.add_one_le_iff]

/-- A walk comes to the visible messages of its side. -/
theorem Stored.walk_visible (stored : Stored source)
    (position : Option ThreadMessageWindowPosition) :
    (walk source position).filter source.visible = side source position := by
  match position with
  | none => exact List.filter_reverse
  | some ⟨.older, sequence, _⟩ =>
    rw [walk, List.filter_reverse, stored.take_visible, side]
  | some ⟨.newer, sequence, _⟩ => exact stored.drop_visible sequence

/-- Collecting takes the first visible messages. -/
theorem collectVisible_eq (visible : MessageRecord → Bool) (limit : Nat)
    (messages : List MessageRecord) :
    collectVisible visible limit messages = (messages.filter visible).take limit := by
  induction messages generalizing limit with
  | nil => simp [collectVisible]
  | cons message rest hypothesis =>
    cases limit with
    | zero => simp [collectVisible]
    | succ limit =>
      by_cases seen : visible message = true
      · rw [collectVisible, if_pos seen, hypothesis, List.filter_cons_of_pos seen,
          List.take_succ_cons]
      · rw [collectVisible, if_neg seen, hypothesis, List.filter_cons_of_neg seen]

/-- Behind other rows those are selected that still fit. -/
theorem selectMessageWindowSequencesFrom_eq {rows : List MessageWindowRow}
    {sequences : List Int} {bytes : Nat}
    (valid : ∀ row ∈ rows, isPositiveInteger row.sequence = true ∧
      row.storedBytes ≤ maxSafeInteger)
    (within : bytes ≤ messageWindowByteLimit) (some : sequences ≠ []) :
    selectMessageWindowSequencesFrom sequences bytes rows =
      .ok (sequences ++ (fitting (·.storedBytes) (messageWindowByteLimit - bytes) rows).map
        (·.sequence)) := by
  induction rows generalizing sequences bytes with
  | nil => simp [selectMessageWindowSequencesFrom, fitting]
  | cons row rest hypothesis =>
    obtain ⟨numbered, sized⟩ := valid row List.mem_cons_self
    have sound : ¬ (isPositiveInteger row.sequence = false ∨ maxSafeInteger < row.storedBytes) := by
      rw [numbered]
      simpa using sized
    rw [selectMessageWindowSequencesFrom, if_neg sound]
    by_cases large : messageWindowByteLimit < bytes + row.storedBytes
    · have heavy : ¬ row.storedBytes ≤ messageWindowByteLimit - bytes := by omega
      have present : sequences.length ≠ 0 := by simpa using some
      rw [if_pos large, if_neg present, fitting, if_neg heavy, List.map_nil, List.append_nil]
    · have light : row.storedBytes ≤ messageWindowByteLimit - bytes := by omega
      rw [if_neg large, fitting_cons light, hypothesis, Nat.sub_add_eq]
      · simp
      · intro other member
        exact valid other (List.mem_cons_of_mem _ member)
      · omega
      · simp

/-- The failure of a window whose first message alone is too large. -/
def tooLarge : Failure := runStoreError "message_window_item_too_large"

/-- Of valid rows those are selected that fit, if the first one does. -/
theorem selectMessageWindowSequences_eq {rows : List MessageWindowRow}
    (valid : ∀ row ∈ rows, isPositiveInteger row.sequence = true ∧
      row.storedBytes ≤ maxSafeInteger) :
    selectMessageWindowSequences rows =
      if ∃ row ∈ rows.head?, messageWindowByteLimit < row.storedBytes then .error tooLarge
      else .ok ((fitting (·.storedBytes) messageWindowByteLimit rows).map (·.sequence)) := by
  cases rows with
  | nil => rfl
  | cons row rest =>
    obtain ⟨numbered, sized⟩ := valid row List.mem_cons_self
    have sound : ¬ (isPositiveInteger row.sequence = false ∨ maxSafeInteger < row.storedBytes) := by
      rw [numbered]
      simpa using sized
    rw [selectMessageWindowSequences, selectMessageWindowSequencesFrom, if_neg sound, Nat.zero_add]
    by_cases large : messageWindowByteLimit < row.storedBytes
    · rw [if_pos large, List.length_nil, if_pos rfl, if_pos ⟨row, rfl, large⟩]
      rfl
    · have light : row.storedBytes ≤ messageWindowByteLimit := by omega
      rw [if_neg large, if_neg (by simpa using large), fitting_cons light,
        selectMessageWindowSequencesFrom_eq _ light (by simp)]
      · rfl
      · intro other member
        exact valid other (List.mem_cons_of_mem _ member)

/-- Sorting the sequences of messages puts the messages in order. -/
theorem mergeSort_sequences {page ordered : List MessageRecord} (same : ordered.Perm page)
    (ascending : Ascending ordered) :
    ((page.map (·.sequence)).mergeSort fun left right => left ≤ right) =
      ordered.map (·.sequence) := by
  have sorted : ((page.map (·.sequence)).mergeSort fun left right => left ≤ right).Pairwise
      fun left right => decide (left ≤ right) = true := by
    apply List.pairwise_mergeSort
    · intro first second third
      simp only [decide_eq_true_eq]
      omega
    · intro first second
      simp only [Bool.or_eq_true, decide_eq_true_eq]
      omega
  have target : (ordered.map (·.sequence)).Pairwise
      fun left right => decide (left ≤ right) = true := by
    rw [List.pairwise_map]
    refine ascending.imp ?_
    intro first second before
    simp only [decide_eq_true_eq]
    omega
  refine List.Perm.eq_of_pairwise ?_ sorted target ?_
  · intro first second _ _ below above
    simp only [decide_eq_true_eq] at below above
    omega
  · exact (List.mergeSort_perm _ _).trans (same.symm.map _)

/-- The messages of a page are found under their sequences. -/
theorem filterMap_selected {metadata page : List MessageRecord}
    (distinct : ∀ first ∈ metadata, ∀ second ∈ metadata, first.sequence = second.sequence →
      first = second) (among : ∀ message ∈ page, message ∈ metadata) :
    (page.map (·.sequence)).filterMap (OrderedMap.empty.setAll
      (metadata.map fun message => (message.sequence, message))).find = page := by
  induction page with
  | nil => rfl
  | cons message rest hypothesis =>
    have member := among message List.mem_cons_self
    have found : (OrderedMap.empty.setAll
        (metadata.map fun message => (message.sequence, message))).find message.sequence =
          some message := by
      have present : ((OrderedMap.empty.setAll
          (metadata.map fun message => (message.sequence, message))).find
            message.sequence).isSome = true := by
        rw [OrderedMap.find_setAll_isSome]
        refine .inr ?_
        rw [List.map_map]
        exact List.mem_map_of_mem member
      obtain ⟨other, read⟩ := Option.isSome_iff_exists.mp present
      rw [read]
      rcases OrderedMap.mem_or_find_of_setAll read with added | absent
      · obtain ⟨same, held, equal⟩ := List.mem_map.mp added
        simp only [Prod.mk.injEq] at equal
        obtain ⟨named, rfl⟩ := equal
        rw [distinct same held message member named]
      · cases absent
    rw [List.map_cons, List.filterMap_cons_some found, hypothesis]
    intro other held
    exact among other (List.mem_cons_of_mem _ held)

/-- What a request comes to is a part of the visible messages, in ascending order or in
descending order. -/
theorem Stored.side_ascending (stored : Stored source)
    (position : Option ThreadMessageWindowPosition) :
    Ascending (inWalk (directionOf position) (side source position)) := by
  match position with
  | none =>
    rw [side, directionOf, inWalk, List.reverse_reverse]
    exact stored.shown_ascending
  | some ⟨.older, sequence, _⟩ =>
    rw [side, directionOf, inWalk, List.reverse_reverse]
    exact stored.shown_ascending.filter _
  | some ⟨.newer, sequence, _⟩ => exact stored.shown_ascending.filter _

/-- A side holds messages of the thread. -/
theorem mem_of_mem_side {position : Option ThreadMessageWindowPosition} {message : MessageRecord}
    (member : message ∈ side source position) : message ∈ source.messages := by
  match position with
  | none => exact List.mem_of_mem_filter (List.mem_reverse.mp member)
  | some ⟨.older, sequence, _⟩ =>
    exact List.mem_of_mem_filter (List.mem_of_mem_filter (List.mem_reverse.mp member))
  | some ⟨.newer, sequence, _⟩ => exact List.mem_of_mem_filter (List.mem_of_mem_filter member)

/-- Messages of a thread with one sequence are one message. -/
theorem Stored.eq_of_sequence (stored : Stored source) {first second : MessageRecord}
    (left : first ∈ source.messages) (right : second ∈ source.messages)
    (same : first.sequence = second.sequence) : first = second := by
  have distinct : (source.messages.map (·.sequence)).Nodup := by
    rw [List.Nodup, List.pairwise_map]
    refine stored.ascending.imp ?_
    intro earlier later before
    omega
  exact List.inj_on_of_nodup_map distinct left right same

/-- The messages of the window that a request is answered with. -/
def pageOf (source : MessageWindowSource) (query : ThreadMessageWindowQuery) :
    List MessageRecord :=
  inWalk (directionOf query.position)
    (fitting storedBytes messageWindowByteLimit
      ((side source query.position).take query.limit.toNat))

/-- The runs of the messages of a window. -/
def bindingsOf (source : MessageWindowSource) (query : ThreadMessageWindowQuery) :
    Checked (Option (List ThreadMessageRunBinding)) :=
  if query.view = some .transcript then (source.runBindings (pageOf source query)).map some
  else .ok none

/-- The window that a request is answered with. -/
def windowOf (source : MessageWindowSource) (query : ThreadMessageWindowQuery)
    (runBindings : Option (List ThreadMessageRunBinding)) : ThreadMessageWindow where
  thread := source.thread
  messages := pageOf source query
  hasOlder := (pageOf source query).head?.any fun first => !(before source first.sequence).isEmpty
  hasNewer := (pageOf source query).getLast?.any fun last =>
    !(after source last.sequence).isEmpty
  runBindings := runBindings

/-- A walk is back in order behind another one. -/
theorem inWalk_inWalk (direction : WindowDirection) (messages : List MessageRecord) :
    inWalk direction (inWalk direction messages) = messages := by
  cases direction with
  | older => exact List.reverse_reverse messages
  | newer => rfl

/-- A walk comes to the same messages. -/
theorem inWalk_perm (direction : WindowDirection) (messages : List MessageRecord) :
    (inWalk direction messages).Perm messages := by
  cases direction with
  | older => exact List.reverse_perm messages
  | newer => exact List.Perm.refl messages

/-- A beginning of an ascending walk is ascending. -/
theorem Ascending.walked {direction : WindowDirection} {walked messages : List MessageRecord}
    (ascending : Ascending (inWalk direction messages)) (front : walked.Sublist messages) :
    Ascending (inWalk direction walked) := by
  cases direction with
  | older => exact List.Pairwise.sublist front.reverse ascending
  | newer => exact List.Pairwise.sublist front ascending

/-- Something satisfies a condition if something is left when the rest is filtered out. -/
theorem any_eq_filter {α : Type} (condition : α → Bool) (items : List α) :
    items.any condition = !(items.filter condition).isEmpty := by
  induction items with
  | nil => rfl
  | cons item rest hypothesis =>
    by_cases holds : condition item = true
    · simp [holds]
    · simp [holds, hypothesis]

/-- A request to a thread that is stored and not changed is answered with the messages next to its
position, unless the first of them is too large. -/
theorem readWindow_eq {read : ThreadMessageWindowQuery → Option MessageWindowSource}
    {query : ThreadMessageWindowQuery} (stored : Stored source)
    (served : read query = some source) (valid : validateMessageWindowQuery query = .ok ())
    (current : assertMessageWindowThread (some source.thread) query = .ok source.thread) :
    readWindow read query =
      if ∃ message ∈ (side source query.position).head?,
          messageWindowByteLimit < storedBytes message then
        .error tooLarge
      else (bindingsOf source query).map (windowOf source query) := by
  have limit : 0 < query.limit.toNat := by
    simp only [validateMessageWindowQuery, bind_eq_ok, exists_unit, rejectIf_eq_ok] at valid
    omega
  let metadata := (side source query.position).take query.limit.toNat
  let page := fitting storedBytes messageWindowByteLimit metadata
  have front : page.Sublist (side source query.position) :=
    (fitting_isPrefix _ metadata).sublist.trans (List.take_sublist _ _)
  have collected : collectVisible source.visible query.limit.toNat (walk source query.position) =
      metadata := by
    rw [collectVisible_eq, stored.walk_visible]
  have rows : ∀ row ∈ metadata.map fun message =>
      (⟨message.sequence, storedBytes message⟩ : MessageWindowRow),
        isPositiveInteger row.sequence = true ∧ row.storedBytes ≤ maxSafeInteger := by
    intro row member
    obtain ⟨message, held, rfl⟩ := List.mem_map.mp member
    have found := mem_of_mem_side (List.mem_of_mem_take held)
    exact ⟨stored.numbered message found, stored.sized message found⟩
  have heads : metadata.head? = (side source query.position).head? := by
    rw [List.head?_take, if_neg (by omega)]
  have selected : selectMessageWindowSequences (metadata.map fun message =>
      (⟨message.sequence, storedBytes message⟩ : MessageWindowRow)) =
        if ∃ message ∈ (side source query.position).head?,
            messageWindowByteLimit < storedBytes message then .error tooLarge
        else .ok (page.map (·.sequence)) := by
    have cut := selectMessageWindowSequences_eq rows
    rw [fitting_map, List.map_map, List.head?_map, heads] at cut
    simp only [Option.mem_map, exists_exists_and_eq_and] at cut
    exact cut
  have ordered : ((page.map (·.sequence)).mergeSort fun left right => left ≤ right) =
      (pageOf source query).map (·.sequence) := by
    apply mergeSort_sequences (inWalk_perm _ _)
    exact (stored.side_ascending query.position).walked front
  have found : ((pageOf source query).map (·.sequence)).filterMap (OrderedMap.empty.setAll
      (metadata.map fun message => (message.sequence, message))).find = pageOf source query := by
    apply filterMap_selected
    · intro first left second right same
      exact stored.eq_of_sequence (mem_of_mem_side (List.mem_of_mem_take left))
        (mem_of_mem_side (List.mem_of_mem_take right)) same
    · intro message member
      exact (fitting_isPrefix _ metadata).subset ((inWalk_perm _ _).subset member)
  simp only [readWindow, valid, ok_bind, served, Option.map_some, current, collected, selected]
  by_cases heavy : ∃ message ∈ (side source query.position).head?,
      messageWindowByteLimit < storedBytes message
  · rw [if_pos heavy, if_pos heavy]
    rfl
  · rw [if_neg heavy, if_neg heavy]
    simp only [ok_bind, ordered, found, any_eq_filter, List.filter_reverse, List.isEmpty_reverse,
      stored.take_visible, stored.drop_visible]
    rw [bindingsOf]
    split
    · cases source.runBindings (pageOf source query) <;> rfl
    · rfl

/-- Ascending messages are those below a sequence and then the others. -/
theorem Ascending.split {messages : List MessageRecord} (ascending : Ascending messages)
    (sequence : Int) :
    messages = messages.filter (fun message => message.sequence < sequence) ++
      messages.filter (fun message => sequence ≤ message.sequence) := by
  have bounds : Bounds messages sequence _ _ := messageLowerBound_bounds ascending
  rw [bounds.filter.1, bounds.filter.2, List.take_append_drop]

/-- Below the first message of a part are those in front of it. -/
theorem Ascending.filter_before {front page back : List MessageRecord} {first : MessageRecord}
    (ascending : Ascending (front ++ page ++ back)) (head : first ∈ page.head?) :
    (front ++ page ++ back).filter (fun message => message.sequence < first.sequence) = front := by
  obtain ⟨rest, rfl⟩ := List.head?_eq_some_iff.mp head
  obtain ⟨ordered, _, across⟩ := List.pairwise_append.mp ascending
  obtain ⟨_, within, below⟩ := List.pairwise_append.mp ordered
  have above := (List.pairwise_cons.mp within).1
  rw [List.append_assoc, List.filter_append, List.filter_eq_self.mpr, List.filter_eq_nil_iff.mpr,
    List.append_nil]
  · intro message member
    have behind : first.sequence ≤ message.sequence := by
      rcases List.mem_append.mp member with inside | outside
      · rcases List.mem_cons.mp inside with rfl | later
        · exact Int.le_refl _
        · exact Int.le_of_lt (above message later)
      · exact Int.le_of_lt (across first (by simp) message outside)
    simp only [decide_eq_true_eq]
    omega
  · intro message member
    simpa using below message member first List.mem_cons_self

/-- Above the last message of a part are those behind it. -/
theorem Ascending.filter_after {front page back : List MessageRecord} {last : MessageRecord}
    (ascending : Ascending (front ++ page ++ back)) (end' : last ∈ page.getLast?) :
    (front ++ page ++ back).filter (fun message => last.sequence < message.sequence) = back := by
  obtain ⟨rest, rfl⟩ := List.getLast?_eq_some_iff.mp end'
  obtain ⟨ordered, _, across⟩ := List.pairwise_append.mp ascending
  obtain ⟨_, within, below⟩ := List.pairwise_append.mp ordered
  have earlier := (List.pairwise_append.mp within).2.2
  rw [List.filter_append, List.filter_eq_nil_iff.mpr, List.filter_eq_self.mpr, List.nil_append]
  · intro message member
    simpa using across last (by simp) message member
  · intro message member
    have ahead : message.sequence ≤ last.sequence := by
      rcases List.mem_append.mp member with outside | inside
      · exact Int.le_of_lt (below message outside last (by simp))
      · rcases List.mem_append.mp inside with within' | final
        · exact Int.le_of_lt (earlier message within' last List.mem_cons_self)
        · rw [List.mem_singleton.mp final]
    simp only [decide_eq_true_eq]
    omega

end Reading

section Paging

variable {source : MessageWindowSource}

/-- What lies beyond a window in a direction, in the order in which a walk comes to it. -/
def beyond (direction : WindowDirection) (older newer : List MessageRecord) :
    List MessageRecord :=
  match direction with
  | .older => older.reverse
  | .newer => newer

/-- The position from which a window is followed in a direction, if its flag says that there are
more messages. -/
def nextPosition (direction : WindowDirection) (window : ThreadMessageWindow) :
    Option ThreadMessageWindowPosition :=
  match direction with
  | .older =>
    if window.hasOlder then window.messages.head?.map fun first =>
      ⟨.older, first.sequence, window.thread.revision⟩
    else none
  | .newer =>
    if window.hasNewer then window.messages.getLast?.map fun last =>
      ⟨.newer, last.sequence, window.thread.revision⟩
    else none

/-- Follow the windows of a direction: those read, and the failure of the last reading if there is
one. Nothing is reported as long as the given number of readings does not suffice. -/
def followWindows (read : ThreadMessageWindowPosition → Checked ThreadMessageWindow)
    (direction : WindowDirection) : Nat → ThreadMessageWindow →
      Option (List ThreadMessageWindow × Option Failure)
  | readings, window =>
    match nextPosition direction window with
    | none => some ([], none)
    | some position =>
      match readings with
      | 0 => none
      | readings + 1 =>
        match read position with
        | .error failure => some ([], some failure)
        | .ok next =>
          (followWindows read direction readings next).map fun later =>
            (next :: later.1, later.2)

/-- A window shows a part of the visible messages: what is older and what is newer than it, and
flags that tell of them. -/
structure Shows (source : MessageWindowSource) (window : ThreadMessageWindow)
    (older newer : List MessageRecord) : Prop where
  thread : window.thread = source.thread
  nonempty : window.messages ≠ []
  split : shown source = older ++ window.messages ++ newer
  hasOlder : window.hasOlder = true ↔ older ≠ []
  hasNewer : window.hasNewer = true ↔ newer ≠ []

/-- A window that shows a part of a thread is followed exactly if there is something beyond it, and
from the position at which that begins. -/
theorem Shows.next (stored : Stored source) {window : ThreadMessageWindow}
    {older newer : List MessageRecord} (shows : Shows source window older newer)
    (direction : WindowDirection) :
    (beyond direction older newer = [] ∧ nextPosition direction window = none) ∨
      beyond direction older newer ≠ [] ∧ ∃ position,
        nextPosition direction window = some position ∧ position.direction = direction ∧
          side source (some position) = beyond direction older newer ∧
            isPositiveInteger position.messageSequence = true ∧
              position.threadRevision = source.thread.revision := by
  have ascending := stored.shown_ascending
  rw [shows.split] at ascending
  cases direction with
  | older =>
    by_cases some : older = []
    · refine .inl ⟨by simp [beyond, some], ?_⟩
      have no : window.hasOlder ≠ true := fun yes => shows.hasOlder.mp yes some
      rw [nextPosition, if_neg no]
    · refine .inr ⟨by simpa [beyond] using some, ?_⟩
      have yes : window.hasOlder = true := shows.hasOlder.mpr some
      obtain ⟨first, head⟩ := Option.ne_none_iff_exists'.mp
        (fun none => shows.nonempty (List.head?_eq_none_iff.mp none))
      refine ⟨_, by rw [nextPosition, if_pos yes, head]; rfl, rfl, ?_, ?_, ?_⟩
      · show (before source first.sequence).reverse = older.reverse
        rw [before, shows.split, ascending.filter_before head]
      · have member : first ∈ shown source := by
          rw [shows.split]
          have inside := List.mem_of_head? head
          simp [inside]
        exact stored.numbered first (List.mem_of_mem_filter member)
      · exact congrArg ThreadState.revision shows.thread
  | newer =>
    by_cases some : newer = []
    · refine .inl ⟨some, ?_⟩
      have no : window.hasNewer ≠ true := fun yes => shows.hasNewer.mp yes some
      rw [nextPosition, if_neg no]
    · refine .inr ⟨some, ?_⟩
      have yes : window.hasNewer = true := shows.hasNewer.mpr some
      obtain ⟨last, tail⟩ := Option.ne_none_iff_exists'.mp
        (fun none => shows.nonempty (List.getLast?_eq_none_iff.mp none))
      refine ⟨_, by rw [nextPosition, if_pos yes, tail]; rfl, rfl, ?_, ?_, ?_⟩
      · show after source last.sequence = newer
        rw [after, shows.split, ascending.filter_after tail]
      · have member : last ∈ shown source := by
          rw [shows.split]
          have inside := List.mem_of_getLast? tail
          simp [inside]
        exact stored.numbered last (List.mem_of_mem_filter member)
      · exact congrArg ThreadState.revision shows.thread

/-- The page of a request is a beginning of its side. -/
theorem pageOf_isPrefix (source : MessageWindowSource) (query : ThreadMessageWindowQuery) :
    inWalk (directionOf query.position) (pageOf source query) <+: side source query.position := by
  rw [pageOf, inWalk_inWalk]
  exact (fitting_isPrefix _ _).trans (List.take_prefix _ _)

/-- What a request is answered with shows a part of the visible messages behind its position. -/
theorem shows_windowOf (stored : Stored source) {query : ThreadMessageWindowQuery}
    (nonempty : pageOf source query ≠ []) (runBindings : Option (List ThreadMessageRunBinding)) :
    ∃ older newer, Shows source (windowOf source query runBindings) older newer ∧
      side source query.position = inWalk (directionOf query.position) (pageOf source query) ++
        beyond (directionOf query.position) older newer ∧ (query.position = none → newer = []) := by
  have ascending := stored.shown_ascending
  have flags {older newer : List MessageRecord}
      (split : shown source = older ++ pageOf source query ++ newer) :
      Shows source (windowOf source query runBindings) older newer := by
    rw [split] at ascending
    obtain ⟨first, head⟩ := Option.ne_none_iff_exists'.mp
      (fun none => nonempty (List.head?_eq_none_iff.mp none))
    obtain ⟨last, tail⟩ := Option.ne_none_iff_exists'.mp
      (fun none => nonempty (List.getLast?_eq_none_iff.mp none))
    refine ⟨rfl, nonempty, split, ?_, ?_⟩
    · show ((pageOf source query).head?.any fun first =>
        !(before source first.sequence).isEmpty) = true ↔ _
      rw [head, Option.any_some, before, split, ascending.filter_before head]
      simp
    · show ((pageOf source query).getLast?.any fun last =>
        !(after source last.sequence).isEmpty) = true ↔ _
      rw [tail, Option.any_some, after, split, ascending.filter_after tail]
      simp
  obtain ⟨rest, continued⟩ := pageOf_isPrefix source query
  match place : query.position with
  | none =>
    rw [place] at continued
    have split : shown source = rest.reverse ++ pageOf source query ++ [] := by
      have reversed := congrArg List.reverse continued
      simpa [side, directionOf, inWalk] using reversed.symm
    refine ⟨rest.reverse, [], flags split, ?_, fun _ => rfl⟩
    rw [← continued, directionOf, beyond, List.reverse_reverse]
  | some ⟨.older, sequence, revision⟩ =>
    rw [place] at continued
    have front : before source sequence = rest.reverse ++ pageOf source query := by
      have reversed := congrArg List.reverse continued
      simpa [side, directionOf, inWalk] using reversed.symm
    have split := ascending.split sequence
    rw [← before, front] at split
    refine ⟨rest.reverse, _, flags split, ?_, by simp⟩
    rw [← continued, directionOf, beyond, List.reverse_reverse]
  | some ⟨.newer, sequence, revision⟩ =>
    rw [place] at continued
    have back : after source sequence = pageOf source query ++ rest := continued.symm
    have split := ascending.split (sequence + 1)
    have same : ((shown source).filter fun message => sequence + 1 ≤ message.sequence) =
        after source sequence := by
      simp only [after, Int.add_one_le_iff]
    rw [same, back, ← List.append_assoc] at split
    exact ⟨_, rest, flags split, continued.symm, by simp⟩

/-- Where the windows of a side end: nothing is left, or the next message alone is too large, or the
runs of a transcript cannot be told. -/
inductive EndsAt (source : MessageWindowSource) (query : ThreadMessageWindowQuery) :
    Option MessageRecord → Option Failure → Prop where
  | done : EndsAt source query none none
  | tooLarge {message : MessageRecord} (heavy : messageWindowByteLimit < storedBytes message) :
    EndsAt source query (some message) (some tooLarge)
  | unbound {next : Option MessageRecord} {page : List MessageRecord} {failure : Failure}
    (transcript : query.view = some .transcript)
    (failed : source.runBindings page = .error failure) : EndsAt source query next (some failure)

/-- The request for another position of a thread. -/
def atPosition (query : ThreadMessageWindowQuery)
    (position : Option ThreadMessageWindowPosition) : ThreadMessageWindowQuery :=
  { query with position := position }

/-- A position of the thread as it is. -/
def Current (source : MessageWindowSource) (position : Option ThreadMessageWindowPosition) :
    Prop :=
  ∀ place ∈ position, isPositiveInteger place.messageSequence = true ∧
    place.threadRevision = source.thread.revision

/-- A thread is stored, and served to the requests of a reader. -/
structure Served (read : ThreadMessageWindowQuery → Option MessageWindowSource)
    (source : MessageWindowSource) (query : ThreadMessageWindowQuery) : Prop where
  stored : Stored source
  found : ∀ position, read (atPosition query position) = some source
  valid : validateMessageWindowQuery (atPosition query none) = .ok ()
  allowed : assertMessageWindowThread (some source.thread) (atPosition query none) =
    .ok source.thread

/-- Requests for the positions of a served thread are valid. -/
theorem Served.position {read : ThreadMessageWindowQuery → Option MessageWindowSource}
    {query : ThreadMessageWindowQuery} (served : Served read source query)
    {position : Option ThreadMessageWindowPosition} (current : Current source position) :
    validateMessageWindowQuery (atPosition query position) = .ok () ∧
      assertMessageWindowThread (some source.thread) (atPosition query position) =
        .ok source.thread := by
  obtain ⟨stored, _, valid, allowed⟩ := served
  cases position with
  | none => exact ⟨valid, allowed⟩
  | some place =>
    obtain ⟨numbered, unchanged⟩ := current place rfl
    have revision : isPositiveInteger place.threadRevision = true := by
      rw [unchanged]
      exact stored.revision
    dsimp only [atPosition] at valid allowed ⊢
    simp only [validateMessageWindowQuery, bind_eq_ok, exists_unit, rejectIf_eq_ok, whenPresent,
      and_true] at valid ⊢
    simp only [assertMessageWindowThread, bind_eq_ok, exists_unit, rejectIf_eq_ok, whenPresent,
      true_and] at allowed ⊢
    refine ⟨⟨valid.1, valid.2.1, valid.2.2, ?_⟩, allowed.1, ?_, allowed.2⟩
    · simp [numbered, revision]
    · simpa using unchanged

/-- A window that a request for a position is answered with: it keeps to its limits and shows the
visible messages next to the position. -/
structure Answer (source : MessageWindowSource) (query : ThreadMessageWindowQuery)
    (position : Option ThreadMessageWindowPosition) (window : ThreadMessageWindow) : Prop where
  count : window.messages.length ≤ query.limit
  bytes : (window.messages.map storedBytes).sum ≤ messageWindowByteLimit
  empty : window.messages = [] →
    side source position = [] ∧ window.hasOlder = false ∧ window.hasNewer = false
  shows : window.messages ≠ [] → ∃ older newer, Shows source window older newer ∧
    side source position = inWalk (directionOf position) window.messages ++
      beyond (directionOf position) older newer ∧ (position = none → newer = [])

/-- A page is empty only if nothing is there or the first message is too large. -/
theorem pageOf_eq_nil {query : ThreadMessageWindowQuery} (limit : 1 ≤ query.limit)
    (empty : pageOf source query = [])
    (light : ¬ ∃ message ∈ (side source query.position).head?,
      messageWindowByteLimit < storedBytes message) : side source query.position = [] := by
  have walked : fitting storedBytes messageWindowByteLimit
      ((side source query.position).take query.limit.toNat) = [] := by
    have same := inWalk_perm (directionOf query.position) (fitting storedBytes
      messageWindowByteLimit ((side source query.position).take query.limit.toNat))
    rw [← pageOf, empty] at same
    exact same.symm.eq_nil
  cases rest : side source query.position with
  | nil => rfl
  | cons message others =>
    rw [rest] at walked light
    have fits : storedBytes message ≤ messageWindowByteLimit := by
      simpa using light
    obtain ⟨more, positive⟩ : ∃ more, query.limit.toNat = more + 1 :=
      ⟨query.limit.toNat - 1, by omega⟩
    rw [positive, List.take_succ_cons, fitting_cons fits] at walked
    cases walked

/-- A request to a served thread is answered with the visible messages next to its position, or
fails where no more can be shown. -/
theorem Served.answer {read : ThreadMessageWindowQuery → Option MessageWindowSource}
    {query : ThreadMessageWindowQuery} (served : Served read source query)
    {position : Option ThreadMessageWindowPosition} (current : Current source position) :
    (∃ failure, readWindow read (atPosition query position) = .error failure ∧
      EndsAt source query (side source position).head? (some failure)) ∨
      ∃ window, readWindow read (atPosition query position) = .ok window ∧
        Answer source query position window := by
  obtain ⟨valid, allowed⟩ := served.position current
  rw [readWindow_eq served.stored (served.found position) valid allowed]
  by_cases heavy : ∃ message ∈ (side source (atPosition query position).position).head?,
      messageWindowByteLimit < storedBytes message
  · rw [if_pos heavy]
    obtain ⟨message, head, large⟩ := heavy
    refine .inl ⟨tooLarge, rfl, ?_⟩
    change message ∈ (side source position).head? at head
    rw [Option.mem_def.mp head]
    exact .tooLarge large
  · rw [if_neg heavy]
    cases bound : bindingsOf source (atPosition query position) with
    | error failure =>
      refine .inl ⟨failure, rfl, ?_⟩
      rw [bindingsOf] at bound
      split at bound
      · next transcript =>
        cases failed : source.runBindings (pageOf source (atPosition query position)) with
        | error other =>
          rw [failed] at bound
          cases bound
          exact .unbound transcript failed
        | ok bindings =>
          rw [failed] at bound
          cases bound
      · cases bound
    | ok runBindings =>
      have limit : 1 ≤ query.limit := by
        dsimp only [atPosition] at valid
        simp only [validateMessageWindowQuery, bind_eq_ok, exists_unit, rejectIf_eq_ok] at valid
        omega
      let page := fitting storedBytes messageWindowByteLimit
        ((side source position).take query.limit.toNat)
      have walked : (pageOf source (atPosition query position)).Perm page := inWalk_perm _ _
      refine .inr ⟨_, rfl, ?_, ?_, ?_, ?_⟩
      · have short : page.length ≤ query.limit.toNat :=
          (fitting_isPrefix _ _).length_le.trans (List.length_take_le _ _)
        have same := walked.length_eq
        show ((pageOf source (atPosition query position)).length : Int) ≤ query.limit
        omega
      · show ((pageOf source (atPosition query position)).map storedBytes).sum ≤ _
        rw [(walked.map storedBytes).sum_nat]
        exact sum_fitting_le _ _
      · intro empty
        change pageOf source (atPosition query position) = [] at empty
        have nothing := @pageOf_eq_nil source (atPosition query position) limit empty heavy
        exact ⟨nothing, by simp [windowOf, empty], by simp [windowOf, empty]⟩
      · intro some
        exact shows_windowOf served.stored some runBindings

/-- Following the windows of a side from a window covers the messages beyond it, in the order in
which they are come to, up to where the windows end. -/
def Covers (read : ThreadMessageWindowQuery → Option MessageWindowSource)
    (source : MessageWindowSource) (query : ThreadMessageWindowQuery)
    (direction : WindowDirection) (window : ThreadMessageWindow)
    (messages : List MessageRecord) : Prop :=
  ∃ windows outcome unseen,
    (∀ readings, messages.length ≤ readings →
      followWindows (fun position => readWindow read (atPosition query (some position))) direction
        readings window = some (windows, outcome)) ∧
      messages = windows.flatMap (fun next => inWalk direction next.messages) ++ unseen ∧
        EndsAt source query unseen.head? outcome

/-- Following the windows of a side covers what is beyond. -/
theorem Shows.covers {read : ThreadMessageWindowQuery → Option MessageWindowSource}
    {query : ThreadMessageWindowQuery} (served : Served read source query)
    (direction : WindowDirection) {window : ThreadMessageWindow}
    {older newer : List MessageRecord} (shows : Shows source window older newer) :
    Covers read source query direction window (beyond direction older newer) := by
  induction length : (beyond direction older newer).length using Nat.strong_induction_on
    generalizing window older newer with
  | _ count hypothesis =>
    rcases shows.next served.stored direction with ⟨nothing, stops⟩ | ⟨some', position, next,
      toward, onward, numbered, unchanged⟩
    · refine ⟨[], none, [], ?_, ?_, .done⟩
      · intro readings _
        unfold followWindows
        rw [stops]
      · rw [nothing]
        rfl
    · have current : Current source (some position) := by
        rintro place ⟨⟩
        exact ⟨numbered, unchanged⟩
      have more : 0 < (beyond direction older newer).length :=
        List.length_pos_iff.mpr some'
      rcases served.answer current with ⟨failure, failed, ends⟩ | ⟨window', answered, answer⟩
      · refine ⟨[], some failure, beyond direction older newer, ?_, rfl, ?_⟩
        · intro readings enough
          obtain ⟨rest, rfl⟩ : ∃ rest, readings = rest + 1 := ⟨readings - 1, by omega⟩
          unfold followWindows
          simp only [next, failed]
        · rw [← onward]
          exact ends
      · have filled : window'.messages ≠ [] := by
          intro empty
          have nothing := (answer.empty empty).1
          rw [onward] at nothing
          exact some' nothing
        obtain ⟨older', newer', shows', split, _⟩ := answer.shows filled
        have toward' : directionOf (some position) = direction := toward
        rw [onward, toward'] at split
        have progress : 0 < (inWalk direction window'.messages).length := by
          rw [(inWalk_perm direction window'.messages).length_eq]
          exact List.length_pos_iff.mpr filled
        have shorter := congrArg List.length split
        rw [List.length_append] at shorter
        obtain ⟨windows, outcome, unseen, followed, covered, ends⟩ :=
          hypothesis _ (by omega) shows' rfl
        refine ⟨window' :: windows, outcome, unseen, ?_, ?_, ends⟩
        · intro readings enough
          obtain ⟨rest, rfl⟩ : ∃ rest, readings = rest + 1 := ⟨readings - 1, by omega⟩
          unfold followWindows
          simp only [next, answered]
          rw [followed rest (by omega)]
          rfl
        · rw [split, covered, List.flatMap_cons, List.append_assoc]

/-- A request is answered with visible messages next to its position, within the limits: the flags
say exactly on which sides there are more, and following the windows of either side covers it. Where
no message is on the side of the position, the window is empty; a request fails only where the next
message alone is too large, or the runs of a transcript cannot be told. -/
def PagesOnce (read : ThreadMessageWindowQuery → Option MessageWindowSource)
    (source : MessageWindowSource) (query : ThreadMessageWindowQuery)
    (position : Option ThreadMessageWindowPosition) : Prop :=
  (∃ failure, readWindow read (atPosition query position) = .error failure ∧
    EndsAt source query (side source position).head? (some failure)) ∨
    ∃ window, readWindow read (atPosition query position) = .ok window ∧
      window.messages.length ≤ query.limit ∧
        (window.messages.map storedBytes).sum ≤ messageWindowByteLimit ∧
          ((window.messages = [] ∧ side source position = [] ∧ window.hasOlder = false ∧
            window.hasNewer = false) ∨
            ∃ older newer, shown source = older ++ window.messages ++ newer ∧
              (window.hasOlder = true ↔ older ≠ []) ∧ (window.hasNewer = true ↔ newer ≠ []) ∧
                (position = none → newer = []) ∧
                  Covers read source query .older window older.reverse ∧
                    Covers read source query .newer window newer)

/-- The visible messages of a stored thread are in the order of their sequences, and the windows
read at any position of it show each of them once. -/
theorem windows_show_every_message_once
    {read : ThreadMessageWindowQuery → Option MessageWindowSource}
    {query : ThreadMessageWindowQuery} (served : Served read source query) :
    Ascending (shown source) ∧
      ∀ position, Current source position → PagesOnce read source query position := by
  refine ⟨served.stored.shown_ascending, ?_⟩
  intro position current
  rcases served.answer current with failed | ⟨window, answered, answer⟩
  · exact .inl failed
  · refine .inr ⟨window, answered, answer.count, answer.bytes, ?_⟩
    by_cases empty : window.messages = []
    · exact .inl ⟨empty, answer.empty empty⟩
    · obtain ⟨older, newer, shows, _, latest⟩ := answer.shows empty
      exact .inr ⟨older, newer, shows.split, shows.hasOlder, shows.hasNewer, latest,
        shows.covers served .older, shows.covers served .newer⟩

/-- A thread with three messages, the second one invalidated. -/
def sampleWindows : MessageWindowSource where
  thread := {
    threadId := js "thread-1"
    tenantId := js "tenant-1"
    spaceId := js "space-1"
    createdByActorId := js "actor-1"
    title := none
    workspaceId := none
    status := .active
    revision := 5
    lastEventSequence := 5
    lastMessageSequence := 3
    createdAt := js "2026-01-01T00:00:00Z"
    updatedAt := js "2026-01-01T00:00:00Z"
    archivedAt := none
    deletedAt := none
    deletedByActorId := none
    forkedFromThreadId := none
    forkedThroughHistorySequence := none }
  messages := [MessageView.sampleMessage 1 "message-1", MessageView.sampleMessage 2 "message-2",
    MessageView.sampleMessage 3 "message-3"]
  invalidations := some (OrderedMap.empty.set 2
    ⟨js "rollback-1", js "item-3", 3, js "2026-01-01T00:00:00Z"⟩)
  runBindings := fun _ => .ok []

/-- A request for one message of it at a time. -/
def sampleWindowQuery : ThreadMessageWindowQuery :=
  ⟨js "tenant-1", js "space-1", js "thread-1", none, 1, none⟩

/-- The sample thread is served. -/
theorem served_sample : Served (fun _ => some sampleWindows) sampleWindows sampleWindowQuery where
  stored := {
    ascending := by
      simp [Ascending, sampleWindows, MessageView.sampleMessage]
    numbered := by decide
    sized := by
      have small : ∀ message ∈ sampleWindows.messages, storedBytes message ≤ 1000 := by decide_cbv
      have bound : 1000 ≤ maxSafeInteger := by decide
      intro message member
      have fits := small message member
      omega
    revision := by decide }
  found := fun _ => rfl
  valid := by decide_cbv
  allowed := by decide_cbv

/-- The windows of the sample thread show its two visible messages once. -/
theorem windows_show_every_message_once_sample :
    (shown sampleWindows).map (·.sequence) = [1, 3] ∧ Ascending (shown sampleWindows) ∧
      ∀ position, Current sampleWindows position →
        PagesOnce (fun _ => some sampleWindows) sampleWindows sampleWindowQuery position :=
  ⟨by decide, windows_show_every_message_once served_sample⟩

end Paging

end Crewon.Verif.ThreadMessageWindow
