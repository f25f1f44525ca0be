import Crewon.Lib.Ledger
import Crewon.Lib.MapEntries
import Crewon.Lib.Places
import Crewon.Worker.AgentRuntimeCapacity
import Mathlib.Algebra.BigOperators.Group.List.Basic

/-!
# The capacity accounts for what its users see

The calls and answers that the users of the capacity see say which reservations and creations are
unreleased, and which reservations retire or are uncertain. In every state of every run, with
reclaimers that call back in any way, the report of the capacity counts exactly these.
-/

namespace Crewon.Verif.AgentRuntimeCapacity

open Crewon.Js Crewon.Checked Crewon.Domain Crewon.Lib
open Crewon.Worker.AgentRuntimeCapacity

variable {ρ ε : Type}

/-! ## What the users have seen -/

/-- The event is the release of the reservation. -/
def releases (key : Nat) : Event ε → Bool
  | .released found => found == key
  | _ => false

/-- The event lets the reservation retire. -/
def retires (key : Nat) : Event ε → Bool
  | .retirementAsked found answer => found == key && answer
  | _ => false

/-- The event marks the reservation as uncertain. -/
def doubts (key : Nat) : Event ε → Bool
  | .uncertainMarked found => found == key
  | _ => false

/-- The event is the release of the creation. -/
def endsCreation (handle : Nat) : Event ε → Bool
  | .creationReleased found => found == handle
  | _ => false

/-- The reservation an event grants, with its bytes. -/
def grantOf : Event ε → Option (Nat × Nat)
  | .granted key bytes => some (key, bytes)
  | _ => none

/-- The creation an event begins. -/
def creationOf : Event ε → Option Nat
  | .creationBegan handle => some handle
  | _ => none

/-- The reservations that were granted, with their bytes. -/
def grants (log : List (Event ε)) : List (Nat × Nat) := log.filterMap grantOf

/-- The reservations whose release was never called, with their bytes. -/
def unreleased (log : List (Event ε)) : List (Nat × Nat) :=
  (grants log).filter fun grant => !log.any (releases grant.1)

/-- The unreleased reservations that were allowed to retire. -/
def retiringOnes (log : List (Event ε)) : List (Nat × Nat) :=
  (unreleased log).filter fun grant => log.any (retires grant.1)

/-- The unreleased reservations that were marked as uncertain. -/
def uncertainOnes (log : List (Event ε)) : List (Nat × Nat) :=
  (unreleased log).filter fun grant => log.any (doubts grant.1)

/-- The creations that were begun. -/
def creations (log : List (Event ε)) : List Nat := log.filterMap creationOf

/-- The creations whose release was never called. -/
def openCreations (log : List (Event ε)) : List Nat :=
  (creations log).filter fun handle => !log.any (endsCreation handle)

/-- What is known of a reservation: its bytes, whether it retires and whether it is uncertain. -/
abbrev Mark : Type := Nat × Bool × Bool

/-- What the users know of a reservation that is unreleased. -/
def markIn (log : List (Event ε)) (key : Nat) : Option Mark :=
  if log.any (releases key) then none
  else (findIn key (grants log)).map fun bytes =>
    (bytes, log.any (retires key), log.any (doubts key))

/-! ## What the capacity keeps -/

/-- What the capacity keeps of a reservation. -/
def markOf (entry : Entry ρ) : Mark := (entry.bytes, entry.retiring, entry.uncertain)

/-- What the capacity knows of a reservation. -/
def kept (capacity : Capacity ρ) (key : Nat) : Option Mark :=
  (capacity.entries.find key).map markOf

/-- What is counted over the reservations. -/
structure Counts where
  owners : Nat
  bytes : Nat
  retiring : Nat
  uncertain : Nat

/-- The counts of entries. -/
def countsOf (entries : List (Nat × Entry ρ)) : Counts where
  owners := entries.length
  bytes := (entries.map fun entry => entry.2.bytes).sum
  retiring := entries.countP fun entry => entry.2.retiring
  uncertain := entries.countP fun entry => entry.2.uncertain

/-- The counts do not depend on the order. -/
theorem countsOf_perm {left right : List (Nat × Entry ρ)} (same : left.Perm right) :
    countsOf left = countsOf right := by
  unfold countsOf
  rw [(same.map fun entry => entry.2.bytes).sum_eq, same.countP_eq, same.countP_eq,
    same.length_eq]

/-- An entry adds its share to each count. -/
theorem countsOf_cons (key : Nat) (entry : Entry ρ) (rest : List (Nat × Entry ρ)) :
    countsOf ((key, entry) :: rest) =
      { owners := (countsOf rest).owners + 1
        bytes := (countsOf rest).bytes + entry.bytes
        retiring := (countsOf rest).retiring + entry.retiring.toNat
        uncertain := (countsOf rest).uncertain + entry.uncertain.toNat } := by
  unfold countsOf
  simp only [List.map_cons, List.sum_cons, List.countP_cons, List.length_cons, Counts.mk.injEq,
    true_and]
  refine ⟨Nat.add_comm _ _, ?_, ?_⟩
  · cases entry.retiring <;> rfl
  · cases entry.uncertain <;> rfl

/-- The counters shadow the entries, within their limits. -/
structure Counted (capacity : Capacity ρ) : Prop where
  bytes : capacity.bytes = (countsOf capacity.entries.entries).bytes
  retiring : capacity.retiring = (countsOf capacity.entries.entries).retiring
  uncertain : capacity.uncertain = (countsOf capacity.entries.entries).uncertain
  ownersWithin : (countsOf capacity.entries.entries).owners ≤ capacity.maximumOwners
  bytesWithin : capacity.bytes ≤ capacity.maximumDefinitionBytes
  retiringWithin : capacity.retiring ≤ maximumRetiring

/-- Two capacities with the same limits and the same counter of creations. -/
structure SameFrame (before after : Capacity ρ) : Prop where
  owners : after.maximumOwners = before.maximumOwners
  definitionBytes : after.maximumDefinitionBytes = before.maximumDefinitionBytes
  creations : after.maximumCreations = before.maximumCreations
  creating : after.creating = before.creating

/-- Nothing but the order of the reservations differs. -/
structure Rotated (before after : Capacity ρ) : Prop extends SameFrame before after where
  entries : after.entries.entries.Perm before.entries.entries
  bytes : after.bytes = before.bytes
  retiring : after.retiring = before.retiring
  uncertain : after.uncertain = before.uncertain

/-- Nothing differs. -/
theorem Rotated.refl (capacity : Capacity ρ) : Rotated capacity capacity :=
  ⟨⟨rfl, rfl, rfl, rfl⟩, .refl _, rfl, rfl, rfl⟩

/-- One rotation after the other. -/
theorem Rotated.trans {before middle after : Capacity ρ} (first : Rotated before middle)
    (second : Rotated middle after) : Rotated before after where
  owners := second.owners.trans first.owners
  definitionBytes := second.definitionBytes.trans first.definitionBytes
  creations := second.creations.trans first.creations
  creating := second.creating.trans first.creating
  entries := second.entries.trans first.entries
  bytes := second.bytes.trans first.bytes
  retiring := second.retiring.trans first.retiring
  uncertain := second.uncertain.trans first.uncertain

/-- Maps with the same entries read the same. -/
theorem find_of_perm {before after : OrderedMap Nat (Entry ρ)}
    (same : after.entries.Perm before.entries) (key : Nat) : after.find key = before.find key := by
  refine Option.ext fun entry => ?_
  rw [← OrderedMap.mem_entries_iff, ← OrderedMap.mem_entries_iff]
  exact same.mem_iff

/-- The order of the reservations does not matter for what is known of them. -/
theorem Rotated.kept_eq {before after : Capacity ρ} (rotated : Rotated before after) (key : Nat) :
    kept after key = kept before key := by
  unfold kept
  rw [find_of_perm rotated.entries]

/-- The order of the reservations does not matter for the counters. -/
theorem Rotated.counted {before after : Capacity ρ} (rotated : Rotated before after)
    (counted : Counted before) : Counted after := by
  have same := countsOf_perm rotated.entries
  constructor
  · rw [rotated.bytes, counted.bytes, same]
  · rw [rotated.retiring, counted.retiring, same]
  · rw [rotated.uncertain, counted.uncertain, same]
  · rw [rotated.owners, same]
    exact counted.ownersWithin
  · rw [rotated.bytes, rotated.definitionBytes]
    exact counted.bytesWithin
  · rw [rotated.retiring]
    exact counted.retiringWithin

/-- The order of the reservations does not matter for the report. -/
theorem Rotated.snapshot_eq {before after : Capacity ρ} (rotated : Rotated before after) :
    after.snapshot = before.snapshot := by
  have size : after.size = before.size := rotated.entries.length_eq
  unfold Capacity.snapshot
  rw [size, rotated.bytes, rotated.creating, rotated.retiring, rotated.uncertain, rotated.owners,
    rotated.definitionBytes, rotated.creations]

/-! ## The operations of the capacity -/

section Operations

variable {capacity : Capacity ρ} {key : Nat} {entry : Entry ρ}

/-- The counts of a map with a key, by those of the other keys. -/
theorem countsOf_found (found : capacity.entries.find key = some entry) :
    countsOf capacity.entries.entries =
      countsOf ((key, entry) :: (capacity.entries.erase key).entries) :=
  countsOf_perm (OrderedMap.perm_of_some found)

/-- The counts of a map with a key set, by those of the other keys. -/
theorem countsOf_set (map : OrderedMap Nat (Entry ρ)) (key : Nat) (entry : Entry ρ) :
    countsOf (map.set key entry).entries = countsOf ((key, entry) :: (map.erase key).entries) :=
  countsOf_perm (OrderedMap.perm_set map key entry)

/-- The counter of creations is another account. -/
theorem Counted.recount (counted : Counted capacity) (creating : Int) :
    Counted { capacity with creating := creating } :=
  ⟨counted.bytes, counted.retiring, counted.uncertain, counted.ownersWithin, counted.bytesWithin,
    counted.retiringWithin⟩

/-- A new reservation that fits is counted. -/
theorem Counted.add (counted : Counted capacity) {bytes : Nat}
    (absent : capacity.entries.find key = none) (fits : capacity.fits bytes = true) :
    Counted (capacity.add key bytes) := by
  obtain ⟨oneMore, within⟩ : capacity.size < capacity.maximumOwners ∧
      capacity.bytes + bytes ≤ capacity.maximumDefinitionBytes := by
    simpa [Capacity.fits] using fits
  have others : countsOf (capacity.entries.erase key).entries = countsOf capacity.entries.entries :=
    countsOf_perm (OrderedMap.perm_erase_of_none absent)
  have counts : countsOf (capacity.add key bytes).entries.entries = _ :=
    (countsOf_set capacity.entries key _).trans (countsOf_cons key _ _)
  rw [others] at counts
  constructor
  · rw [counts]
    show capacity.bytes + bytes = _
    rw [counted.bytes]
    rfl
  · rw [counts]
    show capacity.retiring = _
    rw [counted.retiring]
    rfl
  · rw [counts]
    show capacity.uncertain = _
    rw [counted.uncertain]
    rfl
  · rw [counts]
    exact oneMore
  · exact within
  · exact counted.retiringWithin

/-- What is known after a new reservation is added. -/
theorem kept_add (bytes other : Nat) : kept (capacity.add key bytes) other =
    if other = key then some (bytes, false, false) else kept capacity other := by
  unfold kept
  rw [show (capacity.add key bytes).entries.find other = _ from OrderedMap.find_set]
  split <;> rfl

/-- A share that is given back is no longer counted. -/
theorem Counted.release (counted : Counted capacity) (key : Nat) :
    Counted (capacity.release key) := by
  unfold Capacity.release
  split
  case h_1 => exact counted
  case h_2 entry found =>
    have counts := (countsOf_found found).trans (countsOf_cons key _ _)
    have bytes := counted.bytes
    have retiring := counted.retiring
    have uncertain := counted.uncertain
    have owners := counted.ownersWithin
    have bytesWithin := counted.bytesWithin
    have retiringWithin := counted.retiringWithin
    rw [counts] at bytes retiring uncertain owners
    dsimp only at bytes retiring uncertain owners
    constructor <;> dsimp only
    · omega
    · cases retires : entry.retiring <;> simp [retires] at retiring ⊢ <;> omega
    · cases doubtful : entry.uncertain <;> simp [doubtful] at uncertain ⊢ <;> omega
    · omega
    · omega
    · split <;> omega

/-- What is known after a release. -/
theorem kept_release (key other : Nat) : kept (capacity.release key) other =
    if other = key then none else kept capacity other := by
  unfold kept Capacity.release
  split
  case h_1 absent =>
    split
    case isTrue same => rw [same, absent]; rfl
    case isFalse => rfl
  case h_2 entry found =>
    rw [OrderedMap.find_erase]
    split <;> rfl

/-- A rotation of a reservation. -/
theorem rotated_rotate (found : capacity.entries.find key = some entry) :
    Rotated capacity (capacity.rotate key entry) :=
  ⟨⟨rfl, rfl, rfl, rfl⟩, OrderedMap.perm_rotate found, rfl, rfl, rfl⟩

/-- A touch is a rotation, or nothing. -/
theorem rotated_touch (key : Nat) : Rotated capacity (capacity.touch key) := by
  unfold Capacity.touch
  split
  case h_1 => exact .refl _
  case h_2 entry found =>
    split
    · exact .refl _
    · exact rotated_rotate found

/-- A change of an entry that keeps its bytes moves the counters by its flags. -/
theorem Counted.change (counted : Counted capacity) (changed : Entry ρ)
    (found : capacity.entries.find key = some entry) (bytes : changed.bytes = entry.bytes)
    (retiring uncertain : Int)
    (retires : retiring + entry.retiring.toNat = capacity.retiring + changed.retiring.toNat)
    (doubts : uncertain + entry.uncertain.toNat = capacity.uncertain + changed.uncertain.toNat)
    (within : retiring ≤ maximumRetiring) :
    Counted { capacity with
      entries := capacity.entries.set key changed, retiring := retiring,
      uncertain := uncertain } := by
  have before := (countsOf_found found).trans (countsOf_cons key _ _)
  have after := (countsOf_set capacity.entries key changed).trans (countsOf_cons key _ _)
  have bytesNow := counted.bytes
  have retiringNow := counted.retiring
  have uncertainNow := counted.uncertain
  have owners := counted.ownersWithin
  rw [before] at bytesNow retiringNow uncertainNow owners
  dsimp only at bytesNow retiringNow uncertainNow owners
  constructor
  · rw [after, bytesNow, bytes]
  · rw [after]
    dsimp only
    omega
  · rw [after]
    dsimp only
    omega
  · rw [after]
    exact owners
  · exact counted.bytesWithin
  · exact within

/-- Registering a reclaimer is not counted. -/
theorem Counted.setReclaimer (counted : Counted capacity) (key : Nat) (reclaim : ρ) :
    Counted (capacity.setReclaimer key reclaim) := by
  unfold Capacity.setReclaimer
  split
  case h_1 => exact counted
  case h_2 entry found =>
    split
    · exact counted
    · exact counted.change { entry with reclaim := some reclaim } found rfl _ _ rfl rfl
        counted.retiringWithin

/-- What is known after a change of an entry. -/
theorem kept_set (changed : Entry ρ) (other : Nat) {retiring uncertain : Int} :
    kept { capacity with
      entries := capacity.entries.set key changed, retiring := retiring,
      uncertain := uncertain } other =
    if other = key then some (markOf changed) else kept capacity other := by
  unfold kept
  rw [OrderedMap.find_set]
  split <;> rfl

/-- Registering a reclaimer does not change what is known. -/
theorem kept_setReclaimer (key : Nat) (reclaim : ρ) (other : Nat) :
    kept (capacity.setReclaimer key reclaim) other = kept capacity other := by
  unfold Capacity.setReclaimer
  split
  case h_1 => rfl
  case h_2 entry found =>
    split
    · rfl
    · refine (kept_set _ other).trans ?_
      split
      case isTrue same => rw [same, kept, found]; rfl
      case isFalse => rfl

/-- A retirement that begins is counted. -/
theorem Counted.beginRetirement (counted : Counted capacity) (key : Nat) :
    Counted (capacity.beginRetirement key).1 := by
  unfold Capacity.beginRetirement
  split
  case h_1 => exact counted
  case h_2 entry found =>
    split
    case isTrue => exact counted
    case isFalse allowed =>
      simp only [Bool.or_eq_true, decide_eq_true_eq, not_or, Bool.not_eq_true] at allowed
      obtain ⟨⟨_, staying⟩, below⟩ := allowed
      refine counted.change { entry with retiring := true } found rfl _ _ ?_ rfl (by omega)
      rw [staying]
      simp

/-- What is known after a retirement was asked for. -/
theorem kept_beginRetirement (key other : Nat) :
    kept (capacity.beginRetirement key).1 other =
      if other = key ∧ (capacity.beginRetirement key).2 = true then
        (kept capacity other).map fun mark => (mark.1, true, mark.2.2)
      else kept capacity other := by
  unfold Capacity.beginRetirement
  split
  case h_1 => simp
  case h_2 entry found =>
    split
    case isTrue => simp
    case isFalse =>
      refine (kept_set _ other).trans ?_
      by_cases same : other = key
      · rw [if_pos same, if_pos ⟨same, rfl⟩, same, kept, found]
        rfl
      · rw [if_neg same, if_neg fun both => same both.1]

/-- An uncertain reservation is counted once. -/
theorem Counted.markUncertain (counted : Counted capacity) (key : Nat) :
    Counted (capacity.markUncertain key) := by
  unfold Capacity.markUncertain
  split
  case h_1 => exact counted
  case h_2 entry found =>
    split
    case isTrue => exact counted
    case isFalse sure =>
      rw [Bool.not_eq_true] at sure
      refine counted.change { entry with uncertain := true, reclaim := none } found rfl _ _ rfl ?_
        counted.retiringWithin
      rw [sure]
      simp

/-- What is known after a reservation was marked. -/
theorem kept_markUncertain (key other : Nat) : kept (capacity.markUncertain key) other =
    if other = key then (kept capacity other).map fun mark => (mark.1, mark.2.1, true)
    else kept capacity other := by
  unfold Capacity.markUncertain
  split
  case h_1 absent =>
    split
    case isTrue same => rw [same, kept, absent]; rfl
    case isFalse => rfl
  case h_2 entry found =>
    split
    case isTrue doubtful =>
      split
      case isTrue same =>
        rw [same, kept, found]
        simp [markOf, doubtful]
      case isFalse => rfl
    case isFalse =>
      refine (kept_set _ other).trans ?_
      split
      case isTrue same => rw [same, kept, found]; rfl
      case isFalse => rfl

/-- The loop over the oldest reservations only rotates them, and calls the reclaimer of one that
neither retires nor is uncertain. -/
theorem reclaimIdle_spec (left : Nat) (capacity : Capacity ρ) :
    Rotated capacity (capacity.reclaimIdle left).1 ∧
      ∀ key reclaim rest, (capacity.reclaimIdle left).2 = some (key, reclaim, rest) →
        ∃ bytes, kept capacity key = some (bytes, false, false) := by
  induction left generalizing capacity with
  | zero => exact ⟨.refl _, nofun⟩
  | succ left hypothesis =>
    unfold Capacity.reclaimIdle
    split
    case isFalse => exact ⟨.refl _, nofun⟩
    case isTrue =>
      split
      case h_1 => exact ⟨.refl _, nofun⟩
      case h_2 key entry rest listed =>
        have found : capacity.entries.find key = some entry :=
          OrderedMap.mem_entries_iff.mp (listed ▸ List.mem_cons_self)
        have rotated := rotated_rotate found
        dsimp only
        split
        case h_1 reclaim called =>
          refine ⟨rotated, ?_⟩
          rintro _ _ _ ⟨⟩
          refine ⟨entry.bytes, ?_⟩
          have idle : entry.retiring = false ∧ entry.uncertain = false := by
            by_contra busy
            rw [if_pos (by cases retires : entry.retiring <;> simp_all)] at called
            cases called
          rw [kept, found, Option.map_some, markOf, idle.1, idle.2]
        case h_2 =>
          obtain ⟨further, spares⟩ := hypothesis (capacity.rotate key entry)
          refine ⟨rotated.trans further, fun called reclaim rest later => ?_⟩
          rw [← rotated.kept_eq]
          exact spares called reclaim rest later

end Operations

/-! ## One more event -/

section Events

variable {log : List (Event ε)} {event : Event ε} {key : Nat}

/-- An event that says nothing about reservations. -/
structure Quiet (event : Event ε) : Prop where
  grant : grantOf event = none
  release : ∀ key, releases key event = false
  retirement : ∀ key, retires key event = false
  doubt : ∀ key, doubts key event = false

/-- An event that says nothing about creations. -/
structure Outside (event : Event ε) : Prop where
  began : creationOf event = none
  ended : ∀ handle, endsCreation handle event = false

/-- The grants with one more event. -/
theorem grants_concat : grants (log ++ [event]) = grants log ++ (grantOf event).toList := by
  unfold grants
  rw [List.filterMap_append]
  cases found : grantOf event <;> simp [found]

/-- The creations with one more event. -/
theorem creations_concat :
    creations (log ++ [event]) = creations log ++ (creationOf event).toList := by
  unfold creations
  rw [List.filterMap_append]
  cases found : creationOf event <;> simp [found]

/-- A quiet event changes nothing that is known. -/
theorem markIn_quiet (quiet : Quiet event) (key : Nat) :
    markIn (log ++ [event]) key = markIn log key := by
  unfold markIn
  rw [grants_concat, quiet.grant]
  simp [quiet.release, quiet.retirement, quiet.doubt]

/-- A released reservation is no longer known. -/
theorem markIn_released (key other : Nat) : markIn (log ++ [.released key]) other =
    if other = key then none else markIn log other := by
  unfold markIn
  rw [grants_concat]
  by_cases same : other = key
  · simp [same, releases]
  · simp [same, Ne.symm same, releases, retires, doubts, grantOf]

/-- A reservation that may retire. -/
theorem markIn_retirement (key : Nat) (answer : Bool) (other : Nat) :
    markIn (log ++ [.retirementAsked key answer]) other =
      if other = key ∧ answer = true then
        (markIn log other).map fun mark => (mark.1, true, mark.2.2)
      else markIn log other := by
  unfold markIn
  rw [grants_concat]
  by_cases same : other = key
  · subst same
    cases answer
    · simp [releases, retires, doubts, grantOf]
    · simp only [List.any_append, List.any_cons, List.any_nil, releases, retires, doubts, grantOf,
        Bool.or_false, beq_self_eq_true, Bool.and_self, Bool.or_true, Option.toList_none,
        List.append_nil, and_self, ↓reduceIte]
      split <;> simp [Function.comp_def]
  · have apart : (key == other) = false := beq_eq_false_iff_ne.mpr (Ne.symm same)
    simp only [List.any_append, List.any_cons, List.any_nil, releases, retires, doubts, grantOf,
      Bool.or_false, apart, Bool.false_and, Option.toList_none, List.append_nil, same, false_and,
      ↓reduceIte]

/-- A reservation that is marked as uncertain. -/
theorem markIn_uncertain (key other : Nat) : markIn (log ++ [.uncertainMarked key]) other =
    if other = key then (markIn log other).map fun mark => (mark.1, mark.2.1, true)
    else markIn log other := by
  unfold markIn
  rw [grants_concat]
  by_cases same : other = key
  · subst same
    simp only [List.any_append, List.any_cons, List.any_nil, releases, retires, doubts, grantOf,
      Bool.or_false, beq_self_eq_true, Bool.or_true, Option.toList_none, List.append_nil,
      ↓reduceIte]
    split <;> simp [Function.comp_def]
  · have apart : (key == other) = false := beq_eq_false_iff_ne.mpr (Ne.symm same)
    simp only [List.any_append, List.any_cons, List.any_nil, releases, retires, doubts, grantOf,
      Bool.or_false, apart, Option.toList_none, List.append_nil, same, ↓reduceIte]

/-- No event has named a reservation yet. -/
def Unnamed (log : List (Event ε)) (key : Nat) : Prop :=
  ∀ event ∈ log, releases key event = false ∧ retires key event = false ∧
    doubts key event = false

/-- A reservation that is granted under a new key. -/
theorem markIn_granted (fresh : Unnamed log key) (absent : key ∉ (grants log).map Prod.fst)
    (bytes other : Nat) : markIn (log ++ [.granted key bytes]) other =
      if other = key then some (bytes, false, false) else markIn log other := by
  unfold markIn
  rw [grants_concat]
  simp only [grantOf, Option.toList_some, findIn_concat, List.any_append, List.any_cons,
    List.any_nil, releases, retires, doubts, Bool.or_false]
  by_cases same : other = key
  · subst same
    have released : log.any (releases other) = false :=
      List.any_eq_false.mpr fun event member => by simp [(fresh event member).1]
    have retired : log.any (retires other) = false :=
      List.any_eq_false.mpr fun event member => by simp [(fresh event member).2.1]
    have doubted : log.any (doubts other) = false :=
      List.any_eq_false.mpr fun event member => by simp [(fresh event member).2.2]
    simp [released, retired, doubted, findIn_eq_none_iff.mpr absent]
  · simp [same, Ne.symm same]

/-- A creation that is released is no longer open. -/
theorem openCreations_ended (handle : Nat) :
    openCreations (log ++ [.creationReleased handle]) =
      (openCreations log).filter fun other => other ≠ handle := by
  unfold openCreations
  rw [creations_concat, List.filter_filter]
  simp only [creationOf, Option.toList_none, List.append_nil]
  refine List.filter_congr fun other _ => ?_
  by_cases same : other = handle
  · simp [same, endsCreation]
  · simp [same, Ne.symm same, endsCreation]

/-- An event outside of the creations leaves them open. -/
theorem openCreations_outside (outside : Outside event) :
    openCreations (log ++ [event]) = openCreations log := by
  unfold openCreations
  rw [creations_concat, outside.began]
  simp [outside.ended]

end Events

/-! ## Every state of every run -/

/-- The capacity keeps what the users know of the reservations, and counts it. -/
structure Known (limits : Capacity ρ) (state : State ρ ε) : Prop where
  owners : state.capacity.maximumOwners = limits.maximumOwners
  definitionBytes : state.capacity.maximumDefinitionBytes = limits.maximumDefinitionBytes
  creations : state.capacity.maximumCreations = limits.maximumCreations
  counted : Counted state.capacity
  held : ∀ key, kept state.capacity key = markIn state.log key
  granted : (grants state.log).map Prod.fst = List.range state.handles
  unnamed : ∀ key, state.handles ≤ key → Unnamed state.log key
  sparing : ∀ before key after, state.log = before ++ .reclaimed key :: after →
    ∃ bytes, markIn before key = some (bytes, false, false)

/-- The capacity counts the creations that the users know. -/
structure Creating (state : State ρ ε) : Prop where
  begun : creations state.log = List.range state.creations.length
  flags : ∀ handle released, state.creations[handle]? = some released →
    released = state.log.any (endsCreation handle)
  unended : ∀ handle, state.creations.length ≤ handle →
    state.log.any (endsCreation handle) = false
  counted : state.capacity.creating = (openCreations state.log).length
  within : state.capacity.creating ≤ state.capacity.maximumCreations

section Steps

variable {limits : Capacity ρ} {state next : State ρ ε} {capacity : Capacity ρ} {event : Event ε}

/-- An event outside of the creations keeps their account. -/
theorem Creating.outside (creating : Creating state) (outside : Outside event)
    (frame : SameFrame state.capacity next.capacity) (same : next.creations = state.creations)
    (seen : next.log = state.log ++ [event]) : Creating next := by
  have ended : ∀ handle, next.log.any (endsCreation handle) =
      state.log.any (endsCreation handle) := by
    intro handle
    simp [seen, outside.ended]
  constructor
  · rw [seen, creations_concat, outside.began, same]
    simpa using creating.begun
  · intro handle released found
    rw [ended]
    exact creating.flags handle released (same ▸ found)
  · intro handle late
    rw [ended]
    exact creating.unended handle (same ▸ late)
  · rw [seen, openCreations_outside outside, frame.creating]
    exact creating.counted
  · rw [frame.creating, frame.creations]
    exact creating.within

/-- An event that grants nothing keeps the account of the reservations, if the capacity does as it
says. -/
theorem Known.see (known : Known limits state) (counted : Counted next.capacity)
    (held : ∀ key, kept next.capacity key = markIn (state.log ++ [event]) key)
    (owners : next.capacity.maximumOwners = state.capacity.maximumOwners)
    (definitionBytes :
      next.capacity.maximumDefinitionBytes = state.capacity.maximumDefinitionBytes)
    (creations : next.capacity.maximumCreations = state.capacity.maximumCreations)
    (same : next.handles = state.handles) (seen : next.log = state.log ++ [event])
    (ungranted : grantOf event = none)
    (named : ∀ key, state.handles ≤ key → releases key event = false ∧
      retires key event = false ∧ doubts key event = false)
    (sparing : ∀ key, event = .reclaimed key →
      ∃ bytes, markIn state.log key = some (bytes, false, false)) : Known limits next := by
  constructor
  · exact owners.trans known.owners
  · exact definitionBytes.trans known.definitionBytes
  · exact creations.trans known.creations
  · exact counted
  · rw [seen]
    exact held
  · rw [seen, grants_concat, ungranted, same]
    simpa using known.granted
  · intro key late found member
    rw [seen] at member
    rcases List.mem_append.mp member with earlier | last
    · exact known.unnamed key (same ▸ late) found earlier
    · rw [List.mem_singleton.mp last]
      exact named key (same ▸ late)
  · intro before key after split
    rcases concat_eq_append_cons (seen ▸ split) with ⟨rfl, last⟩ | ⟨between, earlier⟩
    · exact sparing key last
    · exact known.sparing before key between earlier

/-- The capacity accounts for what its users know. -/
structure Sound (limits : Capacity ρ) (state : State ρ ε) : Prop where
  known : Known limits state
  creating : Creating state

/-- The stack does not matter. -/
theorem Sound.restack (sound : Sound limits state) (stack : List Frame) :
    Sound limits { state with stack := stack } := by
  obtain ⟨known, creating⟩ := sound
  exact ⟨⟨known.owners, known.definitionBytes, known.creations, known.counted, known.held,
    known.granted, known.unnamed, known.sparing⟩, ⟨creating.begun, creating.flags,
    creating.unended, creating.counted, creating.within⟩⟩

/-- The order of the reservations does not matter. -/
theorem Sound.rotate (sound : Sound limits state) (rotated : Rotated state.capacity capacity) :
    Sound limits { state with capacity := capacity } := by
  obtain ⟨known, creating⟩ := sound
  refine ⟨⟨rotated.owners.trans known.owners, rotated.definitionBytes.trans known.definitionBytes,
    rotated.creations.trans known.creations, rotated.counted known.counted,
    fun key => (rotated.kept_eq key).trans (known.held key), known.granted, known.unnamed,
    known.sparing⟩, ⟨creating.begun, creating.flags, creating.unended,
    rotated.creating.trans creating.counted, ?_⟩⟩
  show capacity.creating ≤ capacity.maximumCreations
  rw [rotated.creating, rotated.creations]
  exact creating.within

/-- A call of a reservation handle. -/
theorem Sound.call (sound : Sound limits state) (frame : SameFrame state.capacity capacity)
    (counted : Counted capacity)
    (held : ∀ key, kept capacity key = markIn (state.log ++ [event]) key) (outside : Outside event)
    (ungranted : grantOf event = none)
    (named : ∀ key, state.handles ≤ key → releases key event = false ∧
      retires key event = false ∧ doubts key event = false)
    (sparing : ∀ key, event = .reclaimed key →
      ∃ bytes, markIn state.log key = some (bytes, false, false)) (stack : List Frame) :
    Sound limits
      { state with capacity := capacity, stack := stack, log := state.log ++ [event] } :=
  ⟨sound.known.see counted held frame.owners frame.definitionBytes frame.creations rfl rfl
    ungranted named sparing, sound.creating.outside outside frame rfl rfl⟩

/-- A quiet event behind which nothing but the order of the reservations differs. -/
theorem Sound.saw (sound : Sound limits state) (rotated : Rotated state.capacity capacity)
    (quiet : Quiet event) (outside : Outside event) (kind : ∀ key, event ≠ .reclaimed key) :
    Sound limits ({ state with capacity := capacity }.saw event) := by
  refine sound.call rotated.toSameFrame (rotated.counted sound.known.counted) ?_ outside quiet.grant
    (fun key _ => ⟨quiet.release key, quiet.retirement key, quiet.doubt key⟩)
    (fun key same => absurd same (kind key)) state.stack
  intro key
  rw [rotated.kept_eq, sound.known.held, markIn_quiet quiet]

/-- A refusal changes nothing. -/
theorem Sound.refused (sound : Sound limits state) (error : ReserveError ε) :
    Sound limits (state.saw (.refused error)) :=
  sound.saw (.refl state.capacity) ⟨rfl, fun _ => rfl, fun _ => rfl, fun _ => rfl⟩
    ⟨rfl, fun _ => rfl⟩ nofun

/-- A new key is free. -/
theorem Known.absent (known : Known limits state) :
    state.capacity.entries.find state.handles = none := by
  have unknown : markIn state.log state.handles = none := by
    unfold markIn
    rw [findIn_eq_none_iff.mpr, Option.map_none, ite_self]
    rw [known.granted, List.mem_range]
    exact Nat.lt_irrefl _
  have free := (known.held state.handles).trans unknown
  exact Option.map_eq_none_iff.mp free

/-- A reservation that fits is granted. -/
theorem Sound.grant (sound : Sound limits state) {bytes : Nat}
    (fits : state.capacity.fits bytes = true) : Sound limits (state.grant bytes) := by
  have known := sound.known
  refine ⟨⟨known.owners, known.definitionBytes, known.creations,
    known.counted.add known.absent fits, ?_, ?_, ?_, ?_⟩,
    sound.creating.outside ⟨rfl, fun _ => rfl⟩ ⟨rfl, rfl, rfl, rfl⟩ rfl rfl⟩
  · intro key
    have fresh : state.handles ∉ (grants state.log).map Prod.fst := by
      rw [known.granted, List.mem_range]
      exact Nat.lt_irrefl _
    refine (kept_add bytes key).trans ?_
    show _ = markIn (state.log ++ [.granted state.handles bytes]) key
    rw [markIn_granted (known.unnamed _ (Nat.le_refl _)) fresh, known.held]
  · show (grants (state.log ++ [.granted state.handles bytes])).map Prod.fst =
      List.range (state.handles + 1)
    rw [grants_concat, List.map_append, known.granted, List.range_succ]
    rfl
  · intro key late found member
    rcases List.mem_append.mp member with earlier | last
    · exact known.unnamed key (Nat.le_of_succ_le late) found earlier
    · rw [List.mem_singleton.mp last]
      exact ⟨rfl, rfl, rfl⟩
  · intro before key after split
    rcases concat_eq_append_cons split with ⟨_, same⟩ | ⟨between, earlier⟩
    · cases same
    · exact known.sparing before key between earlier

/-- A reservation is granted or refused. -/
theorem Sound.admitOrRefuse (sound : Sound limits state) (bytes : Nat) :
    Sound limits (state.admitOrRefuse bytes) := by
  unfold State.admitOrRefuse
  split
  case isTrue fits => exact sound.grant fits
  case isFalse => exact sound.refused _

/-- The inspection of the oldest reservations. -/
theorem Sound.inspect (sound : Sound limits state) (bytes left : Nat) :
    Sound limits (state.inspect bytes left) := by
  obtain ⟨rotated, spares⟩ := reclaimIdle_spec left state.capacity
  unfold State.inspect
  split
  case h_1 capacity key reclaim rest called =>
    rw [called] at rotated spares
    obtain ⟨bytes, idle⟩ := spares key reclaim rest rfl
    have quiet : Quiet (Event.reclaimed key : Event ε) :=
      ⟨rfl, fun _ => rfl, fun _ => rfl, fun _ => rfl⟩
    refine sound.call rotated.toSameFrame (rotated.counted sound.known.counted) ?_
      ⟨rfl, fun _ => rfl⟩ rfl (fun _ _ => ⟨rfl, rfl, rfl⟩) ?_ _
    · intro other
      rw [rotated.kept_eq, sound.known.held, markIn_quiet quiet]
    · rintro _ ⟨⟩
      exact ⟨bytes, (sound.known.held key).symm.trans idle⟩
  case h_2 capacity finished =>
    rw [finished] at rotated
    exact (sound.rotate rotated).admitOrRefuse bytes

/-- A reservation. -/
theorem Sound.reserve (sound : Sound limits state) (bytes : Int) :
    Sound limits (state.reserve bytes) := by
  unfold State.reserve
  split_ifs with _ fits
  · exact sound.refused _
  · exact sound.grant fits
  · exact sound.inspect _ _
  · exact sound.admitOrRefuse _

/-- A creation begins, or is refused. -/
theorem Sound.beginCreation (sound : Sound limits state) : Sound limits state.beginCreation := by
  have creating := sound.creating
  unfold State.beginCreation
  split
  case isTrue =>
    exact sound.saw (.refl state.capacity) ⟨rfl, fun _ => rfl, fun _ => rfl, fun _ => rfl⟩
      ⟨rfl, fun _ => rfl⟩ nofun
  case isFalse below =>
    have quiet : Quiet (Event.creationBegan state.creations.length : Event ε) :=
      ⟨rfl, fun _ => rfl, fun _ => rfl, fun _ => rfl⟩
    have ended : ∀ handle, (state.log ++ [Event.creationBegan state.creations.length]).any
        (endsCreation handle) = state.log.any (endsCreation handle) := by
      simp [endsCreation]
    have began : creations (state.log ++ [Event.creationBegan state.creations.length]) =
        creations state.log ++ [state.creations.length] := creations_concat
    refine ⟨sound.known.see (sound.known.counted.recount _) ?_ rfl rfl rfl rfl rfl rfl
      (fun _ _ => ⟨rfl, rfl, rfl⟩) nofun, ?_, ?_, ?_, ?_, ?_⟩
    · exact fun key => (sound.known.held key).trans (markIn_quiet quiet key).symm
    · dsimp only
      rw [began, creating.begun, List.length_append, List.length_singleton, List.range_succ]
    · intro handle released found
      dsimp only at found ⊢
      rw [ended]
      rcases Nat.lt_trichotomy handle state.creations.length with early | last | late
      · rw [List.getElem?_append_left early] at found
        exact creating.flags handle released found
      · subst last
        rw [List.getElem?_concat_length] at found
        rw [creating.unended _ (Nat.le_refl _)]
        exact (Option.some.inj found).symm
      · have outside : (state.creations ++ [false]).length ≤ handle := by
          rw [List.length_append]
          exact late
        rw [List.getElem?_eq_none outside] at found
        cases found
    · intro handle late
      dsimp only at late ⊢
      rw [List.length_append] at late
      rw [ended]
      exact creating.unended handle (by omega)
    · have opened : openCreations (state.log ++ [Event.creationBegan state.creations.length]) =
          openCreations state.log ++ [state.creations.length] := by
        unfold openCreations
        rw [began, List.filter_append]
        simp [ended, creating.unended _ (Nat.le_refl _)]
      dsimp only
      rw [opened, List.length_append, creating.counted]
      rfl
    · dsimp only
      omega

/-- A creation is released once. -/
theorem Sound.releaseCreation (sound : Sound limits state) {handle : Nat} {released : Bool}
    (found : state.creations[handle]? = some released) :
    Sound limits (state.releaseCreation handle released) := by
  have creating := sound.creating
  have quiet : Quiet (Event.creationReleased handle : Event ε) :=
    ⟨rfl, fun _ => rfl, fun _ => rfl, fun _ => rfl⟩
  have inside : handle < state.creations.length := (List.getElem?_eq_some_iff.mp found).1
  have began : creations (state.log ++ [Event.creationReleased handle]) = creations state.log := by
    rw [creations_concat]
    simp [creationOf]
  have ended : ∀ other, (state.log ++ [Event.creationReleased handle]).any (endsCreation other) =
      (state.log.any (endsCreation other) || handle == other) := by
    simp [endsCreation]
  have later : ∀ other, state.creations.length ≤ other →
      (state.log ++ [Event.creationReleased handle]).any (endsCreation other) = false := by
    intro other late
    rw [ended, creating.unended other late]
    exact beq_eq_false_iff_ne.mpr (by omega)
  have flag := creating.flags handle released found
  unfold State.releaseCreation
  split
  case isTrue again =>
    refine ⟨sound.known.see sound.known.counted ?_ rfl rfl rfl rfl rfl rfl
      (fun _ _ => ⟨rfl, rfl, rfl⟩) nofun, ?_, ?_, later, ?_, creating.within⟩
    · exact fun key => (sound.known.held key).trans (markIn_quiet quiet key).symm
    · exact began.trans creating.begun
    · intro other flagged placed
      have same := creating.flags other flagged placed
      show flagged = (state.log ++ [Event.creationReleased handle]).any (endsCreation other)
      rw [ended]
      by_cases this : handle = other
      · subst this
        rw [same, ← flag, again, Bool.true_or]
      · rw [beq_eq_false_iff_ne.mpr this, Bool.or_false, same]
    · have closed : (openCreations state.log).filter (fun other => other ≠ handle) =
          openCreations state.log := by
        refine List.filter_eq_self.mpr fun other member => ?_
        have opened := (List.mem_filter.mp member).2
        refine decide_eq_true fun same => ?_
        rw [same, ← flag, again] at opened
        cases opened
      show state.capacity.creating =
        (openCreations (state.log ++ [Event.creationReleased handle])).length
      rw [openCreations_ended, closed]
      exact creating.counted
  case isFalse first =>
    have unreleased : state.log.any (endsCreation handle) = false :=
      flag.symm.trans (Bool.eq_false_iff.mpr first)
    have listed : handle ∈ openCreations state.log := by
      refine List.mem_filter.mpr ⟨?_, by simp [unreleased]⟩
      rw [creating.begun]
      exact List.mem_range.mpr inside
    have distinct : (openCreations state.log).Nodup := by
      refine List.Nodup.filter _ ?_
      rw [creating.begun]
      exact List.nodup_range
    have one : ((openCreations state.log).filter fun other => other ≠ handle).length + 1 =
        (openCreations state.log).length := by
      have erased : (openCreations state.log).filter (fun other => other ≠ handle) =
          (openCreations state.log).erase handle := by
        rw [List.Nodup.erase_eq_filter distinct]
        refine List.filter_congr fun other _ => ?_
        by_cases same : other = handle <;> simp [same]
      have filled := List.length_pos_of_mem listed
      rw [erased, List.length_erase_of_mem listed]
      omega
    have counted := creating.counted
    have within := creating.within
    refine ⟨sound.known.see (sound.known.counted.recount _) ?_ rfl rfl rfl rfl rfl rfl
      (fun _ _ => ⟨rfl, rfl, rfl⟩) nofun, ?_, ?_, ?_, ?_, ?_⟩
    · exact fun key => (sound.known.held key).trans (markIn_quiet quiet key).symm
    · rw [List.length_set]
      exact began.trans creating.begun
    · intro other flagged placed
      show flagged = (state.log ++ [Event.creationReleased handle]).any (endsCreation other)
      dsimp only at placed
      rw [ended]
      rw [List.getElem?_set] at placed
      split at placed
      case isTrue same =>
        rw [same, beq_self_eq_true, Bool.or_true]
        exact (Option.some.inj placed).symm
      case isFalse other_one =>
        rw [beq_eq_false_iff_ne.mpr other_one, Bool.or_false]
        exact creating.flags other flagged placed
    · intro other late
      rw [List.length_set] at late
      exact later other late
    · show state.capacity.creating - 1 =
        (openCreations (state.log ++ [Event.creationReleased handle])).length
      rw [openCreations_ended]
      omega
    · dsimp only
      omega

/-- Giving a share back keeps the limits. -/
theorem frame_release (capacity : Capacity ρ) (key : Nat) :
    SameFrame capacity (capacity.release key) := by
  unfold Capacity.release
  split <;> exact ⟨rfl, rfl, rfl, rfl⟩

/-- Registering a reclaimer keeps the limits. -/
theorem frame_setReclaimer (capacity : Capacity ρ) (key : Nat) (reclaim : ρ) :
    SameFrame capacity (capacity.setReclaimer key reclaim) := by
  unfold Capacity.setReclaimer
  split
  · exact ⟨rfl, rfl, rfl, rfl⟩
  · split <;> exact ⟨rfl, rfl, rfl, rfl⟩

/-- Beginning a retirement keeps the limits. -/
theorem frame_beginRetirement (capacity : Capacity ρ) (key : Nat) :
    SameFrame capacity (capacity.beginRetirement key).1 := by
  unfold Capacity.beginRetirement
  split
  · exact ⟨rfl, rfl, rfl, rfl⟩
  · split <;> exact ⟨rfl, rfl, rfl, rfl⟩

/-- Marking a reservation keeps the limits. -/
theorem frame_markUncertain (capacity : Capacity ρ) (key : Nat) :
    SameFrame capacity (capacity.markUncertain key) := by
  unfold Capacity.markUncertain
  split
  · exact ⟨rfl, rfl, rfl, rfl⟩
  · split <;> exact ⟨rfl, rfl, rfl, rfl⟩

/-- Every turn keeps the account. -/
theorem perform_sound (turn : Turn ρ ε) (sound : Sound limits state)
    (taken : perform turn state = some next) : Sound limits next := by
  have counted := sound.known.counted
  have held := sound.known.held
  cases turn with
  | beginCreation =>
    obtain rfl := Option.some.inj taken
    exact sound.beginCreation
  | releaseCreation handle =>
    obtain ⟨released, found, rfl⟩ := Option.map_eq_some_iff.mp taken
    exact sound.releaseCreation found
  | reserve bytes =>
    obtain rfl := Option.some.inj taken
    exact sound.reserve bytes
  | release key =>
    obtain ⟨given, same⟩ := Option.ite_none_right_eq_some.mp taken
    obtain rfl := Option.some.inj same
    refine sound.call (frame_release _ key) (counted.release key) (fun other => ?_)
      ⟨rfl, fun _ => rfl⟩ rfl (fun other late => ⟨?_, rfl, rfl⟩) ?_ state.stack
    · rw [kept_release, markIn_released, held]
    · exact beq_eq_false_iff_ne.mpr (Nat.ne_of_lt (Nat.lt_of_lt_of_le given late))
    · exact nofun
  | setReclaimer key reclaim =>
    obtain ⟨given, same⟩ := Option.ite_none_right_eq_some.mp taken
    obtain rfl := Option.some.inj same
    refine sound.call (frame_setReclaimer _ key reclaim) (counted.setReclaimer key reclaim)
      (fun other => ?_) ⟨rfl, fun _ => rfl⟩ rfl (fun _ _ => ⟨rfl, rfl, rfl⟩) ?_ state.stack
    · rw [kept_setReclaimer, held, markIn_quiet ⟨rfl, fun _ => rfl, fun _ => rfl, fun _ => rfl⟩]
    · exact nofun
  | touch key =>
    obtain ⟨given, same⟩ := Option.ite_none_right_eq_some.mp taken
    obtain rfl := Option.some.inj same
    exact sound.saw (rotated_touch key) ⟨rfl, fun _ => rfl, fun _ => rfl, fun _ => rfl⟩
      ⟨rfl, fun _ => rfl⟩ nofun
  | beginRetirement key =>
    obtain ⟨given, same⟩ := Option.ite_none_right_eq_some.mp taken
    obtain rfl := Option.some.inj same
    refine sound.call (frame_beginRetirement _ key) (counted.beginRetirement key) (fun other => ?_)
      ⟨rfl, fun _ => rfl⟩ rfl (fun other late => ⟨rfl, ?_, rfl⟩) ?_ state.stack
    · rw [kept_beginRetirement, markIn_retirement, held]
    · have apart := beq_eq_false_iff_ne.mpr (Nat.ne_of_lt (Nat.lt_of_lt_of_le given late))
      rw [retires, apart, Bool.false_and]
    · exact nofun
  | markUncertain key =>
    obtain ⟨given, same⟩ := Option.ite_none_right_eq_some.mp taken
    obtain rfl := Option.some.inj same
    refine sound.call (frame_markUncertain _ key) (counted.markUncertain key) (fun other => ?_)
      ⟨rfl, fun _ => rfl⟩ rfl (fun other late => ⟨rfl, rfl, ?_⟩) ?_ state.stack
    · rw [kept_markUncertain, markIn_uncertain, held]
    · exact beq_eq_false_iff_ne.mpr (Nat.ne_of_lt (Nat.lt_of_lt_of_le given late))
    · exact nofun
  | reclaimerReturns =>
    simp only [perform] at taken
    split at taken
    case h_1 => cases taken
    case h_2 frame stack _ =>
      obtain rfl := Option.some.inj taken
      exact (sound.restack stack).inspect frame.bytes frame.left
  | reclaimerThrows error =>
    simp only [perform] at taken
    split at taken
    case h_1 => cases taken
    case h_2 frame stack _ =>
      obtain rfl := Option.some.inj taken
      exact (sound.restack stack).refused (.reclaimer error)

end Steps

/-! ## The account -/

section Account

variable {limits : Capacity ρ} {state next : State ρ ε}

/-- The limits that a capacity may be created with. -/
theorem create_sound {options : Limits} (created : create options = .ok limits) :
    Sound limits (start limits : State ρ ε) := by
  simp only [create, bind_eq_ok, pure_eq_ok] at created
  obtain ⟨owners, _, bytes, _, creations, _, rfl⟩ := created
  refine ⟨⟨rfl, rfl, rfl, ?_, fun _ => rfl, rfl, ?_, fun before key after split => ?_⟩,
    ⟨rfl, ?_, fun _ _ => rfl, rfl, Int.natCast_nonneg _⟩⟩
  · exact ⟨rfl, rfl, rfl, Nat.zero_le _, Int.natCast_nonneg _, Int.natCast_nonneg _⟩
  · intro _ _ _ member
    cases member
  · cases before <;> cases split
  · intro _ _ found
    cases found

/-- No reservation is granted twice. -/
theorem Known.distinct (known : Known limits state) :
    ((grants state.log).map Prod.fst).Nodup := by
  rw [known.granted]
  exact List.nodup_range

/-- The reservations that are kept, with their bytes, are the unreleased ones. -/
theorem Known.perm (known : Known limits state) :
    (state.capacity.entries.entries.map fun entry => (entry.1, entry.2.bytes)).Perm
      (unreleased state.log) := by
  have keys : ((state.capacity.entries.entries.map fun entry =>
      (entry.1, entry.2.bytes)).map Prod.fst).Nodup := by
    rw [List.map_map]
    exact state.capacity.entries.distinct
  refine (List.perm_ext_iff_of_nodup (.of_map Prod.fst keys)
    (List.Nodup.filter _ (.of_map Prod.fst known.distinct))).mpr ?_
  rintro ⟨key, bytes⟩
  have listed : (key, bytes) ∈ grants state.log ↔ findIn key (grants state.log) = some bytes :=
    (OrderedMap.mem_entries_iff :
      (key, bytes) ∈ (⟨grants state.log, known.distinct⟩ : OrderedMap Nat Nat).entries ↔ _)
  have held : (state.capacity.entries.find key).map markOf = markIn state.log key := known.held key
  rw [List.mem_map, List.mem_filter, listed]
  constructor
  · rintro ⟨⟨found, entry⟩, member, same⟩
    obtain ⟨rfl, rfl⟩ := Prod.mk.inj same
    dsimp only at held member ⊢
    rw [OrderedMap.mem_entries_iff.mp member, markIn] at held
    split at held
    case isTrue => cases held
    case isFalse unreleased =>
      obtain ⟨bytes, read, same⟩ := Option.map_eq_some_iff.mp held.symm
      refine ⟨?_, by simpa using unreleased⟩
      rw [read]
      exact congrArg some (Prod.mk.inj same).1
  · rintro ⟨found, released⟩
    have unreleased : state.log.any (releases key) = false := by simpa using released
    rw [markIn, unreleased, found] at held
    obtain ⟨entry, read, same⟩ := Option.map_eq_some_iff.mp held
    exact ⟨(key, entry), OrderedMap.mem_entries_iff.mpr read, by
      rw [← (Prod.mk.inj same).1]⟩

/-- The flags of the reservations that are kept. -/
theorem Known.flags (known : Known limits state) {entry : Nat × Entry ρ}
    (member : entry ∈ state.capacity.entries.entries) :
    entry.2.retiring = state.log.any (retires entry.1) ∧
      entry.2.uncertain = state.log.any (doubts entry.1) := by
  have held : (state.capacity.entries.find entry.1).map markOf = markIn state.log entry.1 :=
    known.held entry.1
  rw [OrderedMap.mem_entries_iff.mp member, markIn] at held
  split at held
  case isTrue => cases held
  case isFalse =>
    obtain ⟨bytes, _, same⟩ := Option.map_eq_some_iff.mp held.symm
    have flags := (Prod.mk.inj same).2
    exact ⟨(Prod.mk.inj flags).1.symm, (Prod.mk.inj flags).2.symm⟩

/-- What is counted by a flag of the entries is counted by what the users know. -/
theorem Known.countP_eq (known : Known limits state) (flag : Entry ρ → Bool) (seen : Nat → Bool)
    (same : ∀ entry ∈ state.capacity.entries.entries, flag entry.2 = seen entry.1) :
    (state.capacity.entries.entries.countP fun entry => flag entry.2) =
      ((unreleased state.log).filter fun grant => seen grant.1).length := by
  rw [← List.countP_eq_length_filter, ← known.perm.countP_eq, List.countP_map]
  refine List.countP_congr fun entry member => ?_
  rw [Function.comp_apply, same entry member]

/-- What a turn adds to what the users see, and that a refusal adds nothing else. -/
structure Seen (state next : State ρ ε) : Prop where
  event : ∃ event, next.log = state.log ++ [event]
  refusal : ∀ error, next.log = state.log ++ [.refused error] →
    Rotated state.capacity next.capacity

/-- An event that is no refusal. -/
theorem seen_other (event : Event ε) (seen : next.log = state.log ++ [event])
    (accepted : ∀ error, event ≠ .refused error) : Seen state next := by
  refine ⟨⟨event, seen⟩, fun error same => ?_⟩
  have equal := (List.append_cancel_left (seen.symm.trans same) : [event] = [.refused error])
  exact absurd (List.singleton_inj.mp equal) (accepted error)

/-- A reservation is granted, or refused and nothing else. -/
theorem seen_admitOrRefuse {before : State ρ ε} (bytes : Nat) (same : state.log = before.log)
    (rotated : Rotated before.capacity state.capacity) : Seen before (state.admitOrRefuse bytes) := by
  unfold State.admitOrRefuse
  split
  case isTrue =>
    exact seen_other (.granted state.handles bytes) (congrArg (· ++ [_]) same) nofun
  case isFalse => exact ⟨⟨_, congrArg (· ++ [_]) same⟩, fun _ _ => rotated⟩

/-- The inspection calls a reclaimer, or the reservation is granted or refused. -/
theorem seen_inspect {before : State ρ ε} (bytes left : Nat) (same : state.log = before.log)
    (kept : state.capacity = before.capacity) : Seen before (state.inspect bytes left) := by
  have rotated := (reclaimIdle_spec left state.capacity).1
  unfold State.inspect
  split
  case h_1 capacity key reclaim rest _ =>
    exact seen_other (.reclaimed key) (congrArg (· ++ [_]) same) nofun
  case h_2 capacity finished =>
    rw [finished, kept] at rotated
    exact seen_admitOrRefuse bytes same rotated

/-- Every turn adds one event to what the users see, and a refusal adds nothing else. -/
theorem perform_seen {turn : Turn ρ ε} (taken : perform turn state = some next) :
    Seen state next := by
  cases turn with
  | beginCreation =>
    obtain rfl := Option.some.inj taken
    unfold State.beginCreation
    split
    · exact seen_other .creationRefused rfl nofun
    · exact seen_other (.creationBegan state.creations.length) rfl nofun
  | releaseCreation handle =>
    obtain ⟨released, _, rfl⟩ := Option.map_eq_some_iff.mp taken
    unfold State.releaseCreation
    split <;> exact seen_other (.creationReleased handle) rfl nofun
  | reserve bytes =>
    obtain rfl := Option.some.inj taken
    unfold State.reserve
    split_ifs
    · exact ⟨⟨_, rfl⟩, fun _ _ => .refl _⟩
    · exact seen_other (.granted state.handles bytes.toNat) rfl nofun
    · exact seen_inspect _ _ rfl rfl
    · exact seen_admitOrRefuse _ rfl (.refl _)
  | release key =>
    obtain ⟨_, same⟩ := Option.ite_none_right_eq_some.mp taken
    obtain rfl := Option.some.inj same
    exact seen_other (.released key) rfl nofun
  | setReclaimer key reclaim =>
    obtain ⟨_, same⟩ := Option.ite_none_right_eq_some.mp taken
    obtain rfl := Option.some.inj same
    exact seen_other (.reclaimerSet key) rfl nofun
  | touch key =>
    obtain ⟨_, same⟩ := Option.ite_none_right_eq_some.mp taken
    obtain rfl := Option.some.inj same
    exact seen_other (.touched key) rfl nofun
  | beginRetirement key =>
    obtain ⟨_, same⟩ := Option.ite_none_right_eq_some.mp taken
    obtain rfl := Option.some.inj same
    exact seen_other (.retirementAsked key _) rfl nofun
  | markUncertain key =>
    obtain ⟨_, same⟩ := Option.ite_none_right_eq_some.mp taken
    obtain rfl := Option.some.inj same
    exact seen_other (.uncertainMarked key) rfl nofun
  | reclaimerReturns =>
    simp only [perform] at taken
    split at taken
    case h_1 => cases taken
    case h_2 frame stack _ =>
      obtain rfl := Option.some.inj taken
      exact seen_inspect _ _ rfl rfl
  | reclaimerThrows error =>
    simp only [perform] at taken
    split at taken
    case h_1 => cases taken
    case h_2 frame stack _ =>
      obtain rfl := Option.some.inj taken
      exact ⟨⟨_, rfl⟩, fun _ _ => .refl _⟩

/-- A release of a reservation that was released before gives nothing back. -/
theorem release_again (known : Known limits state) {key : Nat}
    (released : state.log.any (releases key) = true)
    (taken : perform (.release key) state = some next) : next.capacity = state.capacity := by
  obtain ⟨_, same⟩ := Option.ite_none_right_eq_some.mp taken
  obtain rfl := Option.some.inj same
  have unknown : markIn state.log key = none := by rw [markIn, if_pos released]
  have absent := Option.map_eq_none_iff.mp ((known.held key).trans unknown)
  show state.capacity.release key = state.capacity
  rw [Capacity.release, absent]

/-- The report of a state counts what the users know, and stays within the limits. -/
structure Accounted (limits : Capacity ρ) (state : State ρ ε) : Prop where
  owners : state.capacity.snapshot.owners = (unreleased state.log).length
  definitionBytes :
    state.capacity.snapshot.definitionBytes = ((unreleased state.log).map Prod.snd).sum
  creating : state.capacity.snapshot.creating = (openCreations state.log).length
  retiring : state.capacity.snapshot.retiring = (retiringOnes state.log).length
  uncertain : state.capacity.snapshot.uncertain = (uncertainOnes state.log).length
  ownersWithin : state.capacity.snapshot.owners ≤ limits.maximumOwners
  bytesWithin : state.capacity.snapshot.definitionBytes ≤ limits.maximumDefinitionBytes
  creatingWithin : state.capacity.snapshot.creating ≤ limits.maximumCreations
  retiringWithin : state.capacity.snapshot.retiring ≤ 4
  /-- A reclaimer is called only for a reservation that is unreleased, does not retire and is not
  uncertain. -/
  spares : ∀ before key after, state.log = before ++ .reclaimed key :: after →
    key ∈ (unreleased before).map Prod.fst ∧ before.any (retires key) = false ∧
      before.any (doubts key) = false
  /-- The share of a reservation is given back by its first release only. -/
  givesBackOnce : ∀ key next, perform (.release key) state = some next →
    state.log.any (releases key) = true → next.capacity = state.capacity
  /-- Behind a refusal nothing but the order of the reservations differs. -/
  refusesCleanly : ∀ turn next error, perform turn state = some next →
    next.log = state.log ++ [.refused error] →
      next.capacity.snapshot = state.capacity.snapshot ∧
        next.capacity.entries.entries.Perm state.capacity.entries.entries

/-- A sound state is accounted for. -/
theorem Sound.accounted (sound : Sound limits state) : Accounted limits state where
  owners := by
    have count := sound.known.perm.length_eq
    rw [List.length_map] at count
    exact count
  definitionBytes := by
    show state.capacity.bytes = _
    rw [sound.known.counted.bytes, ← (sound.known.perm.map Prod.snd).sum_eq, List.map_map]
    rfl
  creating := sound.creating.counted
  retiring := by
    show state.capacity.retiring = _
    rw [sound.known.counted.retiring]
    exact congrArg _ (sound.known.countP_eq Entry.retiring (fun key => state.log.any (retires key))
      fun entry member => (sound.known.flags member).1)
  uncertain := by
    show state.capacity.uncertain = _
    rw [sound.known.counted.uncertain]
    exact congrArg _ (sound.known.countP_eq Entry.uncertain (fun key => state.log.any (doubts key))
      fun entry member => (sound.known.flags member).2)
  ownersWithin := sound.known.owners ▸ sound.known.counted.ownersWithin
  bytesWithin := sound.known.definitionBytes ▸ sound.known.counted.bytesWithin
  creatingWithin := sound.known.creations ▸ sound.creating.within
  retiringWithin := sound.known.counted.retiringWithin
  spares := by
    intro before key after split
    obtain ⟨bytes, idle⟩ := sound.known.sparing before key after split
    unfold markIn at idle
    split at idle
    case isTrue => cases idle
    case isFalse unreleased =>
      obtain ⟨found, listed, same⟩ := Option.map_eq_some_iff.mp idle
      have flags := Prod.mk.inj (Prod.mk.inj same).2
      have granted : key ∈ (grants before).map Prod.fst := by
        by_contra absent
        rw [findIn_eq_none_iff.mpr absent] at listed
        cases listed
      obtain ⟨grant, member, rfl⟩ := List.mem_map.mp granted
      refine ⟨List.mem_map_of_mem (List.mem_filter.mpr ⟨member, ?_⟩), flags.1, flags.2⟩
      simpa using unreleased
  givesBackOnce := fun _ _ taken released => release_again sound.known released taken
  refusesCleanly := fun _ _ error taken refused =>
    have rotated := (perform_seen taken).refusal error refused
    ⟨rotated.snapshot_eq, rotated.entries⟩

/-- In every state of every run the report counts exactly what the users know: the unreleased
reservations with their bytes, the retiring and the uncertain ones and the unreleased creations,
within their limits. -/
theorem capacity_accounted {options : Limits} {turns : List (Turn ρ ε)}
    (created : create options = .ok limits)
    (reached : runTurns perform (start limits) turns = some state) : Accounted limits state :=
  (runTurns_invariant (Sound limits) (fun turn _ _ sound taken => perform_sound turn sound taken)
    (create_sound created) reached).accounted

end Account

/-! ## A reclaimer that calls back -/

/-- One owner at a time. -/
def sampleLimits : Limits where
  maximumOwners := some 1
  maximumDefinitionBytes := none
  maximumCreations := none

/-- The capacity for one owner. -/
def sampleCapacity : Capacity Unit where
  maximumOwners := 1
  maximumDefinitionBytes := 16 * 1024 * 1024
  maximumCreations := 8
  entries := ∅
  bytes := 0
  creating := 0
  retiring := 0
  uncertain := 0

/-- The reclaimer of the first reservation retires and releases it, and reserves the share for
itself, so that the reservation that called it is refused; late calls follow. -/
def sampleTurns : List (Turn Unit Unit) :=
  [.beginCreation, .reserve 10, .setReclaimer 0 (), .reserve 5, .beginRetirement 0, .release 0,
    .reserve 3, .reclaimerReturns, .release 0, .markUncertain 0, .markUncertain 1,
    .releaseCreation 0, .releaseCreation 0]

/-- What its users see. -/
def sampleLog : List (Event Unit) :=
  [.creationBegan 0, .granted 0 10, .reclaimerSet 0, .reclaimed 0, .retirementAsked 0 true,
    .released 0, .granted 1 3, .refused .exhausted, .released 0, .uncertainMarked 0,
    .uncertainMarked 1, .creationReleased 0, .creationReleased 0]

/-- The run takes place and is accounted for. -/
theorem capacity_accounted_sample :
    ∃ state, runTurns perform (start sampleCapacity) sampleTurns = some state ∧
      state.log = sampleLog ∧ Accounted sampleCapacity state := by
  have created : create sampleLimits = .ok sampleCapacity := by decide
  have reached : ∃ state : State Unit Unit,
      runTurns perform (start sampleCapacity) sampleTurns = some state ∧ state.log = sampleLog :=
    ⟨_, rfl, by decide⟩
  obtain ⟨state, taken, seen⟩ := reached
  exact ⟨state, taken, seen, capacity_accounted created taken⟩

end Crewon.Verif.AgentRuntimeCapacity
