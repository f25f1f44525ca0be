import Crewon.Lib.Checked
import Crewon.Lib.OrderedMap

/-!
# Ledgers of calls

A ledger pairs every opened call with the one event that closes it. A key is opened once, it is
closed with the detail it was opened with, and nothing else happens while a call is open. How the
keys are written does not matter as long as different keys that meet are written differently.
-/

namespace Crewon.Lib

/-- One event of a ledger. -/
inductive LedgerMove (κ δ : Type) where
  | opens (key : κ) (detail : δ)
  | closes (key : κ) (detail : δ)
  | other
deriving DecidableEq

/-- Why an event is not accepted. -/
inductive LedgerFault where
  | duplicate
  | orphaned
  | missing
deriving DecidableEq

/-- The open calls in order, and the keys that were closed. -/
structure Ledger (κ δ : Type) where
  pending : List (κ × δ)
  completed : List κ
deriving DecidableEq

variable {κ ν δ : Type}

/-- Among keys written apart, membership can be read off the writing. -/
theorem mem_rename {write : κ → ν} {keys : List κ} {key : κ}
    (apart : ∀ found ∈ keys, write found = write key → found = key) :
    write key ∈ keys.map write ↔ key ∈ keys := by
  constructor
  · intro member
    obtain ⟨found, present, same⟩ := List.mem_map.mp member
    exact apart found present same ▸ present
  · exact List.mem_map_of_mem

variable [DecidableEq κ] [DecidableEq ν]

/-- Keys written apart are found apart. -/
theorem findIn_rename {write : κ → ν} {entries : List (κ × δ)} {key : κ}
    (apart : ∀ entry ∈ entries, write entry.1 = write key → entry.1 = key) :
    findIn (write key) (entries.map fun entry => (write entry.1, entry.2)) =
      findIn key entries := by
  induction entries with
  | nil => rfl
  | cons entry rest hypothesis =>
    obtain ⟨found, detail⟩ := entry
    have later := hypothesis fun entry member => apart entry (List.mem_cons_of_mem _ member)
    have here : write found = write key ↔ found = key :=
      ⟨apart (found, detail) List.mem_cons_self, fun same => by rw [same]⟩
    simp only [List.map_cons, findIn, here, later]

/-- The entries of other keys are the same under keys written apart. -/
theorem filter_rename {write : κ → ν} {entries : List (κ × δ)} {key : κ}
    (apart : ∀ entry ∈ entries, write entry.1 = write key → entry.1 = key) :
    (entries.map fun entry => (write entry.1, entry.2)).filter (·.1 ≠ write key) =
      (entries.filter (·.1 ≠ key)).map fun entry => (write entry.1, entry.2) := by
  rw [List.filter_map]
  congr 1
  apply List.filter_congr
  intro entry member
  have here : write entry.1 = write key ↔ entry.1 = key :=
    ⟨apart entry member, fun same => by rw [same]⟩
  simp [here]

/-- Reading the entries with one more behind them. -/
theorem findIn_concat {entries : List (κ × δ)} {key other : κ} {detail : δ} :
    findIn other (entries ++ [(key, detail)]) =
      (findIn other entries).or (if key = other then some detail else none) := by
  induction entries with
  | nil => simp [findIn]
  | cons entry rest hypothesis =>
    obtain ⟨found, old⟩ := entry
    by_cases same : found = other
    · simp [findIn, same]
    · simp [findIn, same, hypothesis]

/-- Closing an open key of a proper ledger closes one call. -/
theorem length_filter_add_one {entries : List (κ × δ)} {key : κ} {detail : δ}
    (distinct : (entries.map Prod.fst).Nodup) (found : findIn key entries = some detail) :
    (entries.filter (·.1 ≠ key)).length + 1 = entries.length := by
  induction entries with
  | nil => cases found
  | cons entry rest hypothesis =>
    obtain ⟨first, old⟩ := entry
    rw [List.map_cons, List.nodup_cons] at distinct
    by_cases same : first = key
    · have others : rest.filter (·.1 ≠ key) = rest := by
        rw [List.filter_eq_self]
        intro entry member
        have different : entry.1 ≠ key := by
          intro equal
          exact distinct.1 (List.mem_map.mpr ⟨entry, member, equal.trans same.symm⟩)
        simp [different]
      rw [List.filter_cons_of_neg (by simp [same]), others, List.length_cons]
    · simp only [findIn, same, ↓reduceIte] at found
      have later := hypothesis distinct.2 found
      rw [List.filter_cons_of_pos (by simp [same]), List.length_cons, List.length_cons, later]

variable [DecidableEq δ]

namespace Ledger

/-- The ledger before any event. -/
def empty : Ledger κ δ := ⟨[], []⟩

/-- Enter one event. -/
def move (ledger : Ledger κ δ) : LedgerMove κ δ → Except LedgerFault (Ledger κ δ)
  | .opens key detail =>
    if (findIn key ledger.pending).isSome = true ∨ key ∈ ledger.completed then .error .duplicate
    else .ok { ledger with pending := ledger.pending ++ [(key, detail)] }
  | .closes key detail =>
    if findIn key ledger.pending = some detail then
      .ok {
        pending := ledger.pending.filter (·.1 ≠ key)
        completed := key :: ledger.completed }
    else .error .orphaned
  | .other => if ledger.pending = [] then .ok ledger else .error .missing

/-- Enter events in order. -/
def run (ledger : Ledger κ δ) : List (LedgerMove κ δ) → Except LedgerFault (Ledger κ δ)
  | [] => .ok ledger
  | first :: rest => ledger.move first >>= fun next => next.run rest

/-- Events in two parts are entered one part after the other. -/
theorem run_append (ledger : Ledger κ δ) (before after : List (LedgerMove κ δ)) :
    ledger.run (before ++ after) = ledger.run before >>= fun middle => middle.run after := by
  induction before generalizing ledger with
  | nil => rfl
  | cons first rest hypothesis =>
    simp only [List.cons_append, run]
    cases ledger.move first with
    | error fault => rfl
    | ok next => exact hypothesis next

/-- The keys a ledger knows. -/
def keys (ledger : Ledger κ δ) : List κ := ledger.pending.map Prod.fst ++ ledger.completed

/-- Write the keys in another way. -/
def rename (write : κ → ν) (ledger : Ledger κ δ) : Ledger ν δ :=
  ⟨ledger.pending.map fun entry => (write entry.1, entry.2), ledger.completed.map write⟩

end Ledger

/-- The key of an event, if it has one. -/
def LedgerMove.key : LedgerMove κ δ → Option κ
  | .opens key _ => some key
  | .closes key _ => some key
  | .other => none

/-- Write the key in another way. -/
def LedgerMove.rename (write : κ → ν) : LedgerMove κ δ → LedgerMove ν δ
  | .opens key detail => .opens (write key) detail
  | .closes key detail => .closes (write key) detail
  | .other => .other

namespace Ledger

/-- The keys after an event are the ones before and the key of the event. -/
theorem keys_move {ledger next : Ledger κ δ} {event : LedgerMove κ δ}
    (entered : ledger.move event = .ok next) {key : κ} (known : key ∈ next.keys) :
    key ∈ ledger.keys ∨ event.key = some key := by
  simp only [keys, List.mem_append, List.mem_map] at known ⊢
  cases event with
  | opens opened detail =>
    simp only [move] at entered
    split at entered
    · cases entered
    · obtain rfl := Except.ok.inj entered
      simp only [List.mem_append, List.mem_singleton] at known
      rcases known with ⟨entry, old | rfl, rfl⟩ | closed
      · exact .inl (.inl ⟨entry, old, rfl⟩)
      · exact .inr rfl
      · exact .inl (.inr closed)
  | closes closed detail =>
    simp only [move] at entered
    split at entered
    · obtain rfl := Except.ok.inj entered
      simp only [List.mem_filter, List.mem_cons] at known
      rcases known with ⟨entry, ⟨old, _⟩, rfl⟩ | rfl | before
      · exact .inl (.inl ⟨entry, old, rfl⟩)
      · exact .inr rfl
      · exact .inl (.inr before)
    · cases entered
  | other =>
    simp only [move] at entered
    split at entered
    · obtain rfl := Except.ok.inj entered
      exact .inl known
    · cases entered

/-- Entering an event commutes with writing its key apart from the known keys. -/
theorem move_rename {write : κ → ν} {ledger : Ledger κ δ} {event : LedgerMove κ δ}
    (apart : ∀ found ∈ ledger.keys, ∀ key, event.key = some key →
      write found = write key → found = key) :
    (ledger.rename write).move (event.rename write) =
      (ledger.move event).map (rename write) := by
  have openKeys (key : κ) (isKey : event.key = some key) :
      ∀ entry ∈ ledger.pending, write entry.1 = write key → entry.1 = key := by
    intro entry member same
    exact apart entry.1 (List.mem_append_left _ (List.mem_map_of_mem member)) key isKey same
  have closedKeys (key : κ) (isKey : event.key = some key) :
      ∀ found ∈ ledger.completed, write found = write key → found = key :=
    fun found member same => apart found (List.mem_append_right _ member) key isKey same
  cases event with
  | opens key detail =>
    have found := findIn_rename (openKeys key rfl)
    have closed := mem_rename (closedKeys key rfl)
    simp only [LedgerMove.rename, move, rename, found, closed]
    split
    · rfl
    · simp [Except.map, rename]
  | closes key detail =>
    have found := findIn_rename (openKeys key rfl)
    have others := filter_rename (openKeys key rfl)
    simp only [LedgerMove.rename, move, rename, found, others]
    split
    · simp [Except.map, rename]
    · rfl
  | other =>
    simp only [LedgerMove.rename, move, rename, List.map_eq_nil_iff]
    split
    · rfl
    · rfl

/-- Entering events commutes with writing all their keys apart. -/
theorem run_rename {write : κ → ν} {ledger : Ledger κ δ} {events : List (LedgerMove κ δ)}
    (all : List κ)
    (apart : ∀ first ∈ all, ∀ second ∈ all, write first = write second → first = second)
    (known : ∀ key ∈ ledger.keys, key ∈ all)
    (met : ∀ event ∈ events, ∀ key, event.key = some key → key ∈ all) :
    (ledger.rename write).run (events.map (LedgerMove.rename write)) =
      (ledger.run events).map (rename write) := by
  induction events generalizing ledger with
  | nil => rfl
  | cons event rest hypothesis =>
    have step : (ledger.rename write).move (event.rename write) =
        (ledger.move event).map (rename write) :=
      move_rename fun found member key isKey same =>
        apart found (known found member) key (met event List.mem_cons_self key isKey) same
    simp only [List.map_cons, run, step]
    cases entered : ledger.move event with
    | error fault => rfl
    | ok next =>
      apply hypothesis
      · intro key member
        rcases keys_move entered member with old | isKey
        · exact known key old
        · exact met event List.mem_cons_self key isKey
      · exact fun later member => met later (List.mem_cons_of_mem _ member)

/-- An event opens at most one call. -/
theorem length_move {ledger next : Ledger κ δ} {event : LedgerMove κ δ}
    (entered : ledger.move event = .ok next) :
    next.pending.length ≤ ledger.pending.length + 1 := by
  cases event with
  | opens key detail =>
    simp only [move] at entered
    split at entered
    case isTrue => cases entered
    case isFalse =>
      obtain rfl := Except.ok.inj entered
      exact Nat.le_of_eq (List.length_append ..)
  | closes key detail =>
    simp only [move] at entered
    split at entered
    case isTrue =>
      obtain rfl := Except.ok.inj entered
      exact Nat.le_succ_of_le (List.length_filter_le ..)
    case isFalse => cases entered
  | other =>
    simp only [move] at entered
    split at entered
    case isTrue =>
      obtain rfl := Except.ok.inj entered
      exact Nat.le_succ _
    case isFalse => cases entered

/-- Events open at most one call each. -/
theorem length_run {ledger next : Ledger κ δ} {events : List (LedgerMove κ δ)}
    (entered : ledger.run events = .ok next) :
    next.pending.length ≤ ledger.pending.length + events.length := by
  induction events generalizing ledger with
  | nil =>
    obtain rfl := Except.ok.inj entered
    exact Nat.le_refl _
  | cons event rest hypothesis =>
    simp only [run, Checked.bind_eq_ok] at entered
    obtain ⟨middle, first, later⟩ := entered
    have one := length_move first
    have others := hypothesis later
    rw [List.length_cons]
    omega

/-- No key is open twice. -/
def Proper (ledger : Ledger κ δ) : Prop := (ledger.pending.map Prod.fst).Nodup

omit [DecidableEq κ] [DecidableEq δ] in
/-- The ledger before any event is proper. -/
theorem proper_empty : (empty : Ledger κ δ).Proper := List.nodup_nil

/-- Every event keeps a ledger proper. -/
theorem Proper.move {ledger next : Ledger κ δ} {event : LedgerMove κ δ} (proper : ledger.Proper)
    (entered : ledger.move event = .ok next) : next.Proper := by
  cases event with
  | opens key detail =>
    simp only [Ledger.move] at entered
    split at entered
    case isTrue => cases entered
    case isFalse fresh =>
      obtain rfl := Except.ok.inj entered
      have absent : key ∉ ledger.pending.map Prod.fst := by
        rw [← findIn_eq_none_iff]
        simpa using fun found => fresh (.inl found)
      rw [Proper, List.map_append]
      exact List.nodup_append.mpr ⟨proper, List.nodup_singleton _, by
        intro old member new single
        rw [List.map_singleton, List.mem_singleton] at single
        intro same
        rw [single] at same
        rw [same] at member
        exact absent member⟩
  | closes key detail =>
    simp only [Ledger.move] at entered
    split at entered
    case isTrue =>
      obtain rfl := Except.ok.inj entered
      exact proper.sublist (List.filter_sublist.map Prod.fst)
    case isFalse => cases entered
  | other =>
    simp only [Ledger.move] at entered
    split at entered
    case isTrue =>
      obtain rfl := Except.ok.inj entered
      exact proper
    case isFalse => cases entered

end Ledger

end Crewon.Lib
