import Crewon.Lib.OrderedMap
import Mathlib.Data.List.Perm.Basic

/-!
# The entries of a map, up to their order

What is counted or added up over the entries of a map does not depend on their order. Setting a key
puts one entry in front of those of the other keys, and removing a key leaves the others.
-/

namespace Crewon.Lib.OrderedMap

variable {κ ν : Type} [DecidableEq κ] {map : OrderedMap κ ν} {key : κ} {value : ν}

omit [DecidableEq κ] in
/-- No entry occurs twice. -/
theorem entries_nodup (map : OrderedMap κ ν) : map.entries.Nodup := .of_map Prod.fst map.distinct

/-- An entry in front of those of the other keys occurs once. -/
theorem cons_erase_nodup (map : OrderedMap κ ν) (key : κ) (value : ν) :
    ((key, value) :: (map.erase key).entries).Nodup := by
  refine List.nodup_cons.mpr ⟨?_, entries_nodup _⟩
  rw [mem_entries_iff, find_erase, if_pos rfl]
  exact nofun

/-- Maps that read the same have the same entries. -/
theorem perm_of_find {left right : OrderedMap κ ν}
    (same : ∀ key, left.find key = right.find key) : left.entries.Perm right.entries := by
  refine (List.perm_ext_iff_of_nodup (entries_nodup left) (entries_nodup right)).mpr ?_
  rintro ⟨key, value⟩
  rw [mem_entries_iff, mem_entries_iff, same key]

/-- The entries after a key is set. -/
theorem perm_set (map : OrderedMap κ ν) (key : κ) (value : ν) :
    (map.set key value).entries.Perm ((key, value) :: (map.erase key).entries) := by
  refine (List.perm_ext_iff_of_nodup (entries_nodup _) (cons_erase_nodup map key value)).mpr ?_
  rintro ⟨other, found⟩
  rw [List.mem_cons, mem_entries_iff, mem_entries_iff, find_set, find_erase, Prod.mk.injEq]
  by_cases same : other = key
  · simp [same, eq_comm]
  · simp [same]

/-- The entries of a map with a key that is present. -/
theorem perm_of_some (found : map.find key = some value) :
    map.entries.Perm ((key, value) :: (map.erase key).entries) := by
  have kept : (map.set key value).entries = map.entries := by rw [set_of_find found]
  exact kept ▸ perm_set map key value

/-- Removing a key that is absent changes nothing. -/
theorem perm_erase_of_none (absent : map.find key = none) :
    (map.erase key).entries.Perm map.entries := by
  refine perm_of_find fun other => ?_
  rw [find_erase]
  by_cases same : other = key
  · rw [if_pos same, same, absent]
  · rw [if_neg same]

/-- A key that is moved to the end keeps the entries. -/
theorem perm_rotate (found : map.find key = some value) :
    ((map.erase key).set key value).entries.Perm map.entries := by
  refine perm_of_find fun other => ?_
  rw [find_set, find_erase]
  by_cases same : other = key
  · rw [if_pos same, same, found]
  · rw [if_neg same, if_neg same]

end Crewon.Lib.OrderedMap
