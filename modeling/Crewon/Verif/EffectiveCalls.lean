import Crewon.Lib.Places
import Crewon.Verif.ThreadRollback

/-!
# The open calls of an effective history

A rollback happens only while no call is open, and it cuts in front of a message, where no call
was open either. So the calls without a result are the same in a history and in what its
rollbacks leave of it.
-/

namespace Crewon.Verif.EffectiveCalls

open Crewon.Js Crewon.Checked Crewon.Domain Crewon.Lib Crewon.Store Crewon.Verif.ModelHistory
open Crewon.Verif.ThreadRollback

/-- The call an item opens. -/
def openedKey (item : ModelHistoryItem) : Option CallKey :=
  match move item with
  | .opens key _ => some key
  | _ => none

/-- The call an item closes. -/
def closedKey (item : ModelHistoryItem) : Option CallKey :=
  match move item with
  | .closes key _ => some key
  | _ => none

/-- The tool calls among items that have no result among them. -/
def openCalls (items : List ModelHistoryItem) : List CallKey :=
  (items.filterMap openedKey).filter fun key => key ∉ items.filterMap closedKey

/-- One more call is one more open call, unless it was answered before. -/
theorem openCalls_opened {items : List ModelHistoryItem} {item : ModelHistoryItem} {key : CallKey}
    {detail : ToolCallDetail} (opens : move item = .opens key detail)
    (unanswered : key ∉ items.filterMap closedKey) :
    openCalls (items ++ [item]) = openCalls items ++ [key] := by
  have isOpened : openedKey item = some key := by simp [openedKey, opens]
  have isClosed : closedKey item = none := by simp [closedKey, opens]
  simp only [openCalls, List.filterMap_append, List.filterMap_cons, isOpened, isClosed,
    List.filterMap_nil, List.append_nil, List.filter_append]
  rw [List.filter_cons_of_pos (by simpa using unanswered), List.filter_nil]

/-- One more result answers its call. -/
theorem openCalls_closed {items : List ModelHistoryItem} {item : ModelHistoryItem} {key : CallKey}
    {detail : ToolCallDetail} (closes : move item = .closes key detail) :
    openCalls (items ++ [item]) = (openCalls items).filter (· ≠ key) := by
  have isOpened : openedKey item = none := by simp [openedKey, closes]
  have isClosed : closedKey item = some key := by simp [closedKey, closes]
  simp only [openCalls, List.filterMap_append, List.filterMap_cons, isOpened, isClosed,
    List.filterMap_nil, List.append_nil, List.filter_filter]
  apply List.filter_congr
  intro other _
  by_cases same : other = key <;> simp [same]

/-- Any other item leaves the open calls alone. -/
theorem openCalls_other {items : List ModelHistoryItem} {item : ModelHistoryItem}
    (other : move item = .other) : openCalls (items ++ [item]) = openCalls items := by
  have isOpened : openedKey item = none := by simp [openedKey, other]
  have isClosed : closedKey item = none := by simp [closedKey, other]
  simp [openCalls, isOpened, isClosed]

/-- The open calls of the items in effect are the open calls of the whole history. -/
structure Balanced (history effective : List ModelHistoryItem) (ledger : CallLedger) : Prop where
  sublist : effective.Sublist history
  pending : ledger.pending.map Prod.fst = openCalls effective
  known : ∀ item ∈ effective, ∀ key, (move item).key = some key → key ∈ ledger.keys
  quiet : ∀ kept item dropped, effective = kept ++ item :: dropped → move item = .other →
    openCalls kept = []

/-- A result among the items in effect is known to the ledger as a result. -/
theorem Balanced.unanswered {history effective : List ModelHistoryItem} {ledger : CallLedger}
    (balanced : Balanced history effective ledger) {key : CallKey} (fresh : key ∉ ledger.keys) :
    key ∉ effective.filterMap closedKey := by
  intro member
  obtain ⟨item, present, closes⟩ := List.mem_filterMap.mp member
  apply fresh
  apply balanced.known item present key
  unfold closedKey at closes
  cases moved : move item <;> simp [moved] at closes
  rw [closes]
  rfl

/-- Replaying an item that is no rollback marker keeps the balance. -/
theorem Balanced.push {history effective : List ModelHistoryItem} {ledger next : CallLedger}
    (balanced : Balanced history effective ledger) {item : ModelHistoryItem}
    (entered : ledger.move (move item) = .ok next) :
    Balanced (history ++ [item]) (effective ++ [item]) next := by
  have known : ∀ found ∈ effective ++ [item], ∀ key, (move found).key = some key →
      (∀ old, old ∈ ledger.keys → old ∈ next.keys) → (∀ new, (move item).key = some new →
        new ∈ next.keys) → key ∈ next.keys := by
    intro found member key isKey older newer
    cases List.mem_append.mp member with
    | inl before => exact older key (balanced.known found before key isKey)
    | inr last =>
      rw [List.mem_singleton.mp last] at isKey
      exact newer key isKey
  have sublist : (effective ++ [item]).Sublist (history ++ [item]) :=
    balanced.sublist.append (List.Sublist.refl _)
  cases moved : move item with
  | opens key detail =>
    rw [moved, Ledger.move] at entered
    split at entered
    case isTrue => cases entered
    case isFalse fresh =>
      obtain rfl := Except.ok.inj entered
      rw [not_or] at fresh
      have foreign : key ∉ ledger.keys := by
        rw [Ledger.keys, List.mem_append, not_or]
        refine ⟨?_, fresh.2⟩
        rw [← findIn_eq_none_iff]
        simpa using fresh.1
      constructor
      case sublist => exact sublist
      case pending =>
        rw [openCalls_opened moved (balanced.unanswered foreign), ← balanced.pending]
        simp
      case known =>
        intro found member other isKey
        refine known found member other isKey ?_ ?_
        · intro old member
          simp only [Ledger.keys, List.map_append, List.mem_append] at member ⊢
          exact member.elim (fun isOpen => .inl (.inl isOpen)) .inr
        · intro new isNew
          rw [moved] at isNew
          obtain rfl := Option.some.inj isNew
          simp [Ledger.keys]
      case quiet =>
        intro kept cutItem dropped split other
        rcases concat_eq_append_cons split with ⟨_, rfl⟩ | ⟨more, before⟩
        · rw [moved] at other
          cases other
        · exact balanced.quiet kept cutItem more before other
  | closes key detail =>
    rw [moved, Ledger.move] at entered
    split at entered
    case isFalse => cases entered
    case isTrue =>
      obtain rfl := Except.ok.inj entered
      constructor
      case sublist => exact sublist
      case pending =>
        rw [openCalls_closed moved, ← balanced.pending, List.filter_map]
        rfl
      case known =>
        intro found member other isKey
        refine known found member other isKey ?_ ?_
        · intro old member
          simp only [Ledger.keys, List.mem_append, List.mem_map, List.mem_filter,
            List.mem_cons] at member ⊢
          by_cases same : old = key
          · exact .inr (.inl same)
          · rcases member with ⟨entry, present, names⟩ | closed
            · exact .inl ⟨entry, ⟨present, by simpa [names] using same⟩, names⟩
            · exact .inr (.inr closed)
        · intro new isNew
          rw [moved] at isNew
          obtain rfl := Option.some.inj isNew
          simp [Ledger.keys]
      case quiet =>
        intro kept cutItem dropped split other
        rcases concat_eq_append_cons split with ⟨_, rfl⟩ | ⟨more, before⟩
        · rw [moved] at other
          cases other
        · exact balanced.quiet kept cutItem more before other
  | other =>
    rw [moved, Ledger.move] at entered
    split at entered
    case isFalse => cases entered
    case isTrue none =>
      obtain rfl := Except.ok.inj entered
      constructor
      case sublist => exact sublist
      case pending =>
        rw [openCalls_other moved]
        exact balanced.pending
      case known =>
        intro found member other isKey
        refine known found member other isKey (fun _ old => old) ?_
        intro new isNew
        rw [moved] at isNew
        cases isNew
      case quiet =>
        intro kept cutItem dropped split other
        rcases concat_eq_append_cons split with ⟨rfl, rfl⟩ | ⟨more, before⟩
        · rw [← balanced.pending, none]
          rfl
        · exact balanced.quiet kept cutItem more before other

/-- A message is neither a call nor a result. -/
theorem move_of_isMessage {item : ModelHistoryItem} (isMessage : item.isMessage = true) :
    move item = .other := by
  unfold ModelHistoryItem.isMessage at isMessage
  unfold move callMove
  cases said : item.body <;> simp [said] at isMessage ⊢

/-- Replaying a rollback marker keeps the balance. -/
theorem Balanced.rollback {history effective : List ModelHistoryItem} {ledger next : CallLedger}
    (balanced : Balanced history effective ledger)
    (ascending : history.Pairwise fun first second => first.sequence < second.sequence)
    {item : ModelHistoryItem} (isOther : move item = .other)
    (entered : ledger.move (move item) = .ok next) {requestedTurns through : Int}
    {boundary : ThreadRollbackBoundary} (planned : Planned effective requestedTurns through boundary) :
    Balanced (history ++ [item])
      (match boundary.historyFromSequence with
        | none => effective
        | some fromSequence => effective.filter (·.sequence < fromSequence)) next := by
  rw [isOther, Ledger.move] at entered
  split at entered
  case isFalse => cases entered
  case isTrue none =>
    obtain rfl := Except.ok.inj entered
    have sublist := balanced.sublist.trans (List.sublist_append_left history [item])
    cases cuts : boundary.historyFromSequence with
    | none => exact ⟨sublist, balanced.pending, balanced.known, balanced.quiet⟩
    | some fromSequence =>
      obtain ⟨kept, cutItem, dropped, split, isMessage, rfl⟩ := planned.message cuts
      have keeps : effective.filter (·.sequence < cutItem.sequence) = kept := by
        have ordered := ascending.sublist balanced.sublist
        rw [split] at ordered ⊢
        exact filter_before ordered
      have quiet := balanced.quiet kept cutItem dropped split (move_of_isMessage isMessage)
      have inside : kept.Sublist effective := by
        rw [split]
        exact List.sublist_append_left kept _
      dsimp only
      rw [keeps]
      constructor
      case sublist => exact inside.trans sublist
      case pending =>
        rw [quiet, none]
        rfl
      case known =>
        exact fun found member => balanced.known found (inside.subset member)
      case quiet =>
        intro before first more again other
        apply balanced.quiet before first (more ++ cutItem :: dropped) _ other
        rw [split, again]
        simp

/-- A marker is neither a call nor a result. -/
theorem move_of_rollback {item : ModelHistoryItem} {rollbackId threadEventId : JsString}
    {requestedTurns removedTurns : Int} {fromSequence : Option Int} {through : Int}
    (said : item.body = .rollback rollbackId threadEventId requestedTurns removedTurns fromSequence
      through) : move item = .other := by
  simp [move, callMove, said]

/-- Replaying any accepted item keeps the balance. -/
theorem Balanced.item {history : List ModelHistoryItem} {replay after : EffectiveReplay}
    {ledger next : CallLedger} (balanced : Balanced history replay.items ledger)
    (ascending : history.Pairwise fun first second => first.sequence < second.sequence)
    {item : ModelHistoryItem} (entered : ledger.move (move item) = .ok next)
    (replayed : replayEffectiveItem replay item = .ok after) :
    Balanced (history ++ [item]) after.items next := by
  cases said : item.body with
  | rollback rollbackId threadEventId requestedTurns removedTurns fromSequence through =>
    simp only [replayEffectiveItem, said, bind_eq_ok, exists_unit, pure_eq_ok] at replayed
    obtain ⟨boundary, planned, _, rfl⟩ := replayed
    exact balanced.rollback ascending (move_of_rollback said) entered
      (planFromEffectiveItems_eq_ok planned)
  | message | toolCall | toolResult | compaction =>
    simp only [replayEffectiveItem, said, Except.ok.injEq] at replayed
    rw [← replayed]
    exact balanced.push entered

/-- The replay of an accepted history is balanced. -/
theorem replay_balanced {locator : ThreadLocator} {history : List ModelHistoryItem}
    (stored : StoredHistory locator history) {ledger : CallLedger}
    (entered : Ledger.empty.run (history.map move) = .ok ledger) {replay : EffectiveReplay}
    (replayed : replayEffectiveItems ⟨[], []⟩ history = .ok replay) :
    Balanced history replay.items ledger := by
  induction history using List.reverseRecOn generalizing ledger replay with
  | nil =>
    obtain rfl := Except.ok.inj entered
    obtain rfl := Except.ok.inj replayed
    refine ⟨List.Sublist.refl _, rfl, fun _ member => absurd member List.not_mem_nil, ?_⟩
    intro kept item dropped split
    simp at split
  | append_singleton before item hypothesis =>
    rw [List.map_append, Ledger.run_append, bind_eq_ok] at entered
    obtain ⟨middle, first, last⟩ := entered
    simp only [List.map_cons, List.map_nil, Ledger.run, bind_eq_ok] at last
    obtain ⟨final, moved, same⟩ := last
    obtain rfl := Except.ok.inj same
    rw [replayEffectiveItems_append, bind_eq_ok] at replayed
    obtain ⟨between, earlier, rest⟩ := replayed
    simp only [replayEffectiveItems, bind_eq_ok] at rest
    obtain ⟨after, here, equal⟩ := rest
    obtain rfl := Except.ok.inj equal
    have balanced := hypothesis stored.before first earlier
    exact balanced.item stored.before.numbered.ascending moved here

/-- The open calls of a history are counted by those of its effective history. -/
theorem pending_eq_openCalls {locator : ThreadLocator} {history : List ModelHistoryItem}
    (stored : StoredHistory locator history) {ledger : CallLedger}
    (entered : Ledger.empty.run (history.map move) = .ok ledger)
    {effective : EffectiveModelHistory}
    (projected : projectEffectiveModelHistory history = .ok effective) :
    ledger.pending.length = (openCalls effective.items).length := by
  simp only [projectEffectiveModelHistory, replayEffectiveHistory, bind_eq_ok, exists_unit,
    pure_eq_ok] at projected
  obtain ⟨_, replay, replayed, rfl⟩ := projected
  rw [← (replay_balanced stored entered replayed).pending, List.length_map]

end Crewon.Verif.EffectiveCalls
