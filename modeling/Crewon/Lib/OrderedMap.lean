import Mathlib.Data.List.Basic
import Mathlib.Data.List.Nodup

/-!
# Maps that remember the order of insertion

A map of the host language iterates over its keys in the order of their first insertion;
setting a key that is present replaces its value in place. A map is its list of entries with
the proof that no key occurs twice.
-/

namespace Crewon.Lib

variable {κ ν : Type} [DecidableEq κ]

/-- The value of a key in a list of entries. -/
def findIn (key : κ) : List (κ × ν) → Option ν
  | [] => none
  | (found, value) :: rest => if found = key then some value else findIn key rest

/-- Replace the value of a key in place, or append the key. -/
def setIn (key : κ) (value : ν) : List (κ × ν) → List (κ × ν)
  | [] => [(key, value)]
  | (found, old) :: rest =>
    if found = key then (key, value) :: rest else (found, old) :: setIn key value rest

/-- The keys after a key is set: the same ones, or the new one at the end. -/
theorem setIn_keys (key : κ) (value : ν) (entries : List (κ × ν)) :
    (setIn key value entries).map Prod.fst =
      if key ∈ entries.map Prod.fst then entries.map Prod.fst
      else entries.map Prod.fst ++ [key] := by
  induction entries with
  | nil => simp [setIn]
  | cons entry rest hypothesis =>
    obtain ⟨found, old⟩ := entry
    by_cases same : found = key
    · simp [setIn, same]
    · have other : key ≠ found := fun equal => same equal.symm
      simp only [setIn, same, ↓reduceIte, List.map_cons, hypothesis, List.mem_cons, other,
        false_or]
      split <;> simp

/-- A key is found exactly when it occurs. -/
theorem findIn_eq_none_iff {key : κ} {entries : List (κ × ν)} :
    findIn key entries = none ↔ key ∉ entries.map Prod.fst := by
  induction entries with
  | nil => simp [findIn]
  | cons entry rest hypothesis =>
    obtain ⟨found, old⟩ := entry
    by_cases same : found = key
    · simp [findIn, same]
    · have other : key ≠ found := fun equal => same equal.symm
      simp [findIn, same, other, hypothesis]

/-- Reading a key after a key is set. -/
theorem findIn_setIn (key other : κ) (value : ν) (entries : List (κ × ν)) :
    findIn other (setIn key value entries) =
      if other = key then some value else findIn other entries := by
  induction entries with
  | nil =>
    by_cases same : key = other
    · simp [setIn, findIn, same]
    · simp [setIn, findIn, same, Ne.symm same]
  | cons entry rest hypothesis =>
    obtain ⟨found, old⟩ := entry
    by_cases first : found = key
    · subst first
      by_cases same : found = other
      · simp [setIn, findIn, same]
      · simp [setIn, findIn, same, Ne.symm same]
    · by_cases same : found = other
      · subst same
        simp [setIn, findIn, first]
      · simp only [setIn, first, ↓reduceIte, findIn, same, hypothesis]

/-- Reading a key after a key is removed. -/
theorem findIn_filter_ne (key other : κ) (entries : List (κ × ν)) :
    findIn other (entries.filter fun entry => entry.1 ≠ key) =
      if other = key then none else findIn other entries := by
  induction entries with
  | nil => simp [findIn]
  | cons entry rest hypothesis =>
    obtain ⟨found, old⟩ := entry
    simp only [ne_eq, decide_not] at hypothesis ⊢
    by_cases first : found = key
    · subst first
      rw [List.filter_cons_of_neg (by simp), hypothesis]
      by_cases same : found = other
      · simp [same]
      · simp [findIn, same, Ne.symm same]
    · by_cases same : found = other
      · subst same
        simp [findIn, first]
      · simp [findIn, first, same, hypothesis]

/-- A key that is found occurs with its value. -/
theorem mem_of_findIn {key : κ} {value : ν} {entries : List (κ × ν)}
    (present : findIn key entries = some value) : (key, value) ∈ entries := by
  induction entries with
  | nil => cases present
  | cons entry rest hypothesis =>
    obtain ⟨found, old⟩ := entry
    rw [findIn] at present
    split at present
    case isTrue same =>
      cases present
      rw [same]
      exact List.mem_cons_self
    case isFalse => exact List.mem_cons_of_mem _ (hypothesis present)

/-- A key that occurs once is found with its value. -/
theorem findIn_of_mem {key : κ} {value : ν} {entries : List (κ × ν)}
    (distinct : (entries.map Prod.fst).Nodup) (member : (key, value) ∈ entries) :
    findIn key entries = some value := by
  cases found : findIn key entries with
  | none => exact absurd (List.mem_map_of_mem member) (findIn_eq_none_iff.mp found)
  | some other =>
    have one := List.inj_on_of_nodup_map distinct (mem_of_findIn found) member rfl
    rw [(Prod.mk.inj one).2]

/-- A map of the host language. -/
structure OrderedMap (κ ν : Type) where
  /-- Keys with their values, in the order of insertion. -/
  entries : List (κ × ν)
  /-- No key occurs twice. -/
  distinct : (entries.map Prod.fst).Nodup
deriving DecidableEq

namespace OrderedMap

/-- The map without keys. -/
def empty : OrderedMap κ ν := ⟨[], List.nodup_nil⟩

instance : EmptyCollection (OrderedMap κ ν) := ⟨empty⟩

/-- The value of a key, if the key is present. -/
def find (map : OrderedMap κ ν) (key : κ) : Option ν := findIn key map.entries

/-- Set the value of a key. -/
def set (map : OrderedMap κ ν) (key : κ) (value : ν) : OrderedMap κ ν where
  entries := setIn key value map.entries
  distinct := by
    rw [setIn_keys]
    split
    case isTrue => exact map.distinct
    case isFalse absent =>
      exact List.nodup_append.mpr ⟨map.distinct, List.nodup_singleton _, by
        intro key member other single
        rw [List.mem_singleton.mp single]
        exact fun same => absent (same ▸ member)⟩

/-- Remove a key. -/
def erase (map : OrderedMap κ ν) (key : κ) : OrderedMap κ ν where
  entries := map.entries.filter fun entry => entry.1 ≠ key
  distinct := map.distinct.sublist (List.filter_sublist.map Prod.fst)

/-- Set several keys in order. -/
def setAll (map : OrderedMap κ ν) (additions : List (κ × ν)) : OrderedMap κ ν :=
  additions.foldl (fun current entry => current.set entry.1 entry.2) map

/-- The values in the order of insertion. -/
def values (map : OrderedMap κ ν) : List ν := map.entries.map Prod.snd

variable {map : OrderedMap κ ν} {key other : κ} {value : ν}

@[simp] theorem find_empty : (empty : OrderedMap κ ν).find key = none := rfl

/-- Reading a key after a key is set. -/
theorem find_set : (map.set key value).find other =
    if other = key then some value else map.find other :=
  findIn_setIn key other value map.entries

/-- Reading a key after a key is removed. -/
theorem find_erase : (map.erase key).find other = if other = key then none else map.find other :=
  findIn_filter_ne key other map.entries

@[simp] theorem find_set_self : (map.set key value).find key = some value := by
  simp [find_set]

/-- Setting a key leaves every other key alone. -/
theorem find_set_of_ne (different : other ≠ key) :
    (map.set key value).find other = map.find other := by
  simp [find_set, different]

/-- The entries are exactly the keys with their values. -/
theorem mem_entries_iff : (key, value) ∈ map.entries ↔ map.find key = some value :=
  ⟨findIn_of_mem map.distinct, mem_of_findIn⟩

/-- The values are the values of some key. -/
theorem mem_values_iff : value ∈ map.values ↔ ∃ key, map.find key = some value := by
  simp only [values, List.mem_map, Prod.exists]
  constructor
  · rintro ⟨found, read, member, rfl⟩
    exact ⟨found, mem_entries_iff.mp member⟩
  · rintro ⟨found, read⟩
    exact ⟨found, value, mem_entries_iff.mpr read, rfl⟩

/-- Setting no key changes nothing. -/
@[simp] theorem setAll_nil : map.setAll [] = map := rfl

/-- Setting several keys sets the first one and then the others. -/
@[simp] theorem setAll_cons (entry : κ × ν) (rest : List (κ × ν)) :
    map.setAll (entry :: rest) = (map.set entry.1 entry.2).setAll rest := rfl

/-- A key is present after several keys are set when it was before or is one of them. -/
theorem find_setAll_isSome {additions : List (κ × ν)} :
    ((map.setAll additions).find key).isSome = true ↔
      (map.find key).isSome = true ∨ key ∈ additions.map Prod.fst := by
  induction additions generalizing map with
  | nil => simp
  | cons entry rest hypothesis =>
    rw [setAll_cons, hypothesis, find_set]
    by_cases same : key = entry.1
    · simp [same]
    · simp [same]

/-- Setting several keys leaves every other key alone. -/
theorem find_setAll_of_notMem {additions : List (κ × ν)}
    (absent : key ∉ additions.map Prod.fst) : (map.setAll additions).find key = map.find key := by
  induction additions generalizing map with
  | nil => rfl
  | cons entry rest hypothesis =>
    rw [List.map_cons, List.mem_cons, not_or] at absent
    rw [setAll_cons, hypothesis absent.2, find_set_of_ne absent.1]

/-- A value read after several keys are set is one of those set or was there before. -/
theorem mem_or_find_of_setAll {additions : List (κ × ν)}
    (present : (map.setAll additions).find key = some value) :
    (key, value) ∈ additions ∨ map.find key = some value := by
  induction additions generalizing map with
  | nil => exact .inr present
  | cons entry rest hypothesis =>
    rw [setAll_cons] at present
    rcases hypothesis present with later | earlier
    · exact .inl (List.mem_cons_of_mem entry later)
    · rw [find_set] at earlier
      by_cases same : key = entry.1
      · rw [if_pos same, Option.some.injEq] at earlier
        have first : (key, value) = entry := Prod.ext same earlier.symm
        exact .inl (first ▸ List.mem_cons_self)
      · rw [if_neg same] at earlier
        exact .inr earlier

/-- Setting a key to the value it has changes nothing. -/
theorem set_of_find (present : map.find key = some value) : map.set key value = map := by
  obtain ⟨entries, distinct⟩ := map
  have same : setIn key value entries = entries := by
    simp only [find] at present
    clear distinct
    induction entries with
    | nil => simp [findIn] at present
    | cons entry rest hypothesis =>
      obtain ⟨found, old⟩ := entry
      by_cases same : found = key
      · simp only [findIn, same, ↓reduceIte, Option.some.injEq] at present
        simp [setIn, same, present]
      · simp only [findIn, same, ↓reduceIte] at present
        simp [setIn, same, hypothesis present]
  simp only [set, same]

/-- Setting keys to the values they have changes nothing. -/
theorem setAll_of_find {additions : List (κ × ν)}
    (present : ∀ entry ∈ additions, map.find entry.1 = some entry.2) :
    map.setAll additions = map := by
  induction additions with
  | nil => rfl
  | cons entry rest hypothesis =>
    rw [setAll_cons, set_of_find (present entry List.mem_cons_self)]
    exact hypothesis fun found member => present found (List.mem_cons_of_mem entry member)

end OrderedMap

end Crewon.Lib
