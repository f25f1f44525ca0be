import Mathlib.Data.List.Nodup

/-!
# Logs with tombstones

A log only grows. Entries leave its effect by a tombstone on their place, while a second list
keeps the entries in effect. The rules relate the places with a tombstone to the entries in
effect through appends and cuts, and read the entries in effect off the places without one.
-/

namespace Crewon.Lib

variable {α β : Type}

/-- The marked places of a log are those of the entries that are not kept. -/
structure Tombstones (entries kept : List α) (marked : Nat → Prop) : Prop where
  /-- No entry occurs twice. -/
  distinct : entries.Nodup
  /-- The kept entries stand in the order of the log. -/
  sublist : kept.Sublist entries
  /-- A place is marked exactly when its entry is not kept. -/
  marks : ∀ place, marked place ↔ ∃ entry, entries[place]? = some entry ∧ entry ∉ kept

/-- The members of a part of a list without repetitions, in the order of the list, are that
part. -/
theorem filter_mem_sublist [DecidableEq α] {kept entries : List α} (distinct : entries.Nodup)
    (sublist : kept.Sublist entries) : entries.filter (· ∈ kept) = kept := by
  induction sublist with
  | slnil => rfl
  | @cons kept entries entry sublist hypothesis =>
    obtain ⟨absent, rest⟩ := List.nodup_cons.mp distinct
    have dropped : entry ∉ kept := fun member => absent (sublist.subset member)
    rw [List.filter_cons_of_neg (by simpa using dropped)]
    exact hypothesis rest
  | @cons_cons kept entries entry sublist hypothesis =>
    obtain ⟨absent, rest⟩ := List.nodup_cons.mp distinct
    rw [List.filter_cons_of_pos (by simp)]
    have same : entries.filter (· ∈ entry :: kept) = entries.filter (· ∈ kept) := by
      apply List.filter_congr
      intro found member
      have other : found ≠ entry := fun equal => absent (equal ▸ member)
      simp [other]
    rw [same, hypothesis rest]

namespace Tombstones

variable {entries kept : List α} {marked : Nat → Prop}

/-- The empty log has no tombstone. -/
theorem nil : Tombstones ([] : List α) [] fun _ => False where
  distinct := List.nodup_nil
  sublist := List.Sublist.refl []
  marks := by simp

/-- The entry of a marked place is not kept, and no place without an entry is marked. -/
theorem not_marked (tombstones : Tombstones entries kept marked) {place : Nat} {entry : α}
    (found : entries[place]? = some entry) (member : entry ∈ kept) : ¬ marked place := by
  intro mark
  obtain ⟨other, there, absent⟩ := (tombstones.marks place).mp mark
  obtain rfl := Option.some.inj (found.symm.trans there)
  exact absent member

/-- New entries are in effect. -/
theorem append (tombstones : Tombstones entries kept marked) {new : List α}
    (distinct : (entries ++ new).Nodup) : Tombstones (entries ++ new) (kept ++ new) marked where
  distinct := distinct
  sublist := tombstones.sublist.append (List.Sublist.refl new)
  marks := by
    obtain ⟨_, _, apart⟩ := List.nodup_append.mp distinct
    intro place
    rw [tombstones.marks]
    constructor
    · rintro ⟨entry, found, absent⟩
      have old : entry ∈ entries := List.mem_of_getElem? found
      refine ⟨entry, ?_, ?_⟩
      · rw [List.getElem?_append_left (List.getElem?_eq_some_iff.mp found).1]
        exact found
      · intro member
        cases List.mem_append.mp member with
        | inl earlier => exact absent earlier
        | inr later => exact apart entry old entry later rfl
    · rintro ⟨entry, found, absent⟩
      rw [List.mem_append, not_or] at absent
      by_cases old : place < entries.length
      · rw [List.getElem?_append_left old] at found
        exact ⟨entry, found, absent.1⟩
      · rw [List.getElem?_append_right (Nat.le_of_not_lt old)] at found
        exact absurd (List.mem_of_getElem? found) absent.2

/-- A cut marks the places of the entries it takes out of effect. -/
theorem cut (tombstones : Tombstones entries kept marked) {left : List α}
    (sublist : left.Sublist kept) {after : Nat → Prop}
    (marks : ∀ place, after place ↔
      marked place ∨ ∃ entry, entries[place]? = some entry ∧ entry ∈ kept ∧ entry ∉ left) :
    Tombstones entries left after where
  distinct := tombstones.distinct
  sublist := sublist.trans tombstones.sublist
  marks := by
    intro place
    rw [marks, tombstones.marks]
    constructor
    · rintro (⟨entry, found, absent⟩ | ⟨entry, found, _, absent⟩)
      · exact ⟨entry, found, fun member => absent (sublist.subset member)⟩
      · exact ⟨entry, found, absent⟩
    · rintro ⟨entry, found, absent⟩
      by_cases member : entry ∈ kept
      · exact .inr ⟨entry, found, member, absent⟩
      · exact .inl ⟨entry, found, member⟩

/-- Of the entries with a label each, those whose label is visible are the kept ones, when a label
is visible exactly on a place without a mark. -/
theorem view [DecidableEq α] (tombstones : Tombstones entries kept marked)
    {pairs : List (β × α)} (labeled : pairs.map Prod.snd = entries) (visible : β → Bool)
    (shows : ∀ (place : Nat) pair, pairs[place]? = some pair →
      (visible pair.1 = true ↔ ¬ marked place)) :
    (pairs.filter fun pair => visible pair.1).map Prod.snd = kept := by
  have same : pairs.filter (fun pair => visible pair.1) =
      pairs.filter (fun pair => pair.2 ∈ kept) := by
    apply List.filter_congr
    intro pair member
    obtain ⟨place, here⟩ := List.getElem?_of_mem member
    have found : entries[place]? = some pair.2 := by
      rw [← labeled, List.getElem?_map, here]
      rfl
    rw [Bool.eq_iff_iff, shows place pair here, decide_eq_true_eq, tombstones.marks]
    constructor
    · intro unmarked
      by_contra absent
      exact unmarked ⟨pair.2, found, absent⟩
    · rintro kept ⟨entry, there, absent⟩
      obtain rfl := Option.some.inj (found.symm.trans there)
      exact absent kept
  have mapped : (pairs.filter fun pair => pair.2 ∈ kept).map Prod.snd =
      (pairs.map Prod.snd).filter (· ∈ kept) := by
    rw [List.filter_map]
    rfl
  rw [same, mapped, labeled]
  exact filter_mem_sublist tombstones.distinct tombstones.sublist

end Tombstones

end Crewon.Lib
