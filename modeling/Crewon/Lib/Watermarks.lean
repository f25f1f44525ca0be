import Mathlib.Data.List.Nodup

/-!
# Logs with watermarks

Entries of a log may come from numbered sources, many of them with a number of its own kind: an
entry names the key of its source and its number there. A watermark for each key lies above all
numbers taken in so far, so that an entry above the watermark is a new one. The rules keep the
numbers of each key ascending while the log grows.
-/

namespace Crewon.Lib

variable {α κ : Type} [DecidableEq κ] {source : α → Option (κ × Int)}

/-- The number of an entry in the sources of a key. -/
def numberOf (source : α → Option (κ × Int)) (key : κ) (entry : α) : Option Int :=
  (source entry).bind fun origin => if origin.1 = key then some origin.2 else none

/-- The numbers of a log in the sources of a key. -/
def numbersOf (source : α → Option (κ × Int)) (key : κ) (log : List α) : List Int :=
  log.filterMap (numberOf source key)

/-- The number of an entry that has one. -/
theorem numberOf_eq_some {key : κ} {entry : α} {number : Int} :
    numberOf source key entry = some number ↔ source entry = some (key, number) := by
  unfold numberOf
  cases source entry with
  | none => simp
  | some origin =>
    obtain ⟨found, own⟩ := origin
    by_cases same : found = key
    · simp [same]
    · simp [same]

/-- The numbers of a log in two parts. -/
theorem numbersOf_append (key : κ) (before after : List α) :
    numbersOf source key (before ++ after) =
      numbersOf source key before ++ numbersOf source key after :=
  List.filterMap_append

/-- A number of a log is that of one of its entries. -/
theorem mem_numbersOf {key : κ} {log : List α} {number : Int} :
    number ∈ numbersOf source key log ↔ ∃ entry ∈ log, source entry = some (key, number) := by
  simp only [numbersOf, List.mem_filterMap, numberOf_eq_some]

/-- Entries without a source have no numbers. -/
theorem numbersOf_sourceless {log : List α} (sourceless : ∀ entry ∈ log, source entry = none)
    (key : κ) : numbersOf source key log = [] := by
  rw [List.eq_nil_iff_forall_not_mem]
  intro number member
  obtain ⟨entry, there, named⟩ := mem_numbersOf.mp member
  rw [sourceless entry there] at named
  cases named

/-- An entry numbered below the ones behind it. -/
theorem ascending_cons {key : κ} {entry : α} {rest : List α}
    (ascending : (numbersOf source key rest).Pairwise (· < ·))
    (below : ∀ number, source entry = some (key, number) →
      ∀ later ∈ numbersOf source key rest, number < later) :
    (numbersOf source key (entry :: rest)).Pairwise (· < ·) := by
  unfold numbersOf at ascending below ⊢
  rw [List.filterMap_cons]
  split
  · exact ascending
  · rename_i number numbered
    exact List.pairwise_cons.mpr ⟨below number (numberOf_eq_some.mp numbered), ascending⟩

/-- A part of entries whose numbers ascend has ascending numbers. -/
theorem ascending_sublist {key : κ} {part log : List α} (sublist : part.Sublist log)
    (ascending : (numbersOf source key log).Pairwise (· < ·)) :
    (numbersOf source key part).Pairwise (· < ·) :=
  ascending.sublist (sublist.filterMap (numberOf source key))

/-- The numbers of every key ascend along the log and lie below its watermark. -/
structure Marked (source : α → Option (κ × Int)) (log : List α) (mark : κ → Int) : Prop where
  /-- Every number is larger than the ones before it. -/
  ascending : ∀ key, (numbersOf source key log).Pairwise (· < ·)
  /-- No number is larger than the watermark. -/
  below : ∀ key, ∀ number ∈ numbersOf source key log, number ≤ mark key

namespace Marked

variable {log : List α} {mark : κ → Int}

/-- The empty log. -/
theorem nil : Marked source [] mark :=
  ⟨fun _ => List.Pairwise.nil, fun _ _ member => absurd member List.not_mem_nil⟩

/-- A watermark may rise. -/
theorem raise (marked : Marked source log mark) {higher : κ → Int}
    (rises : ∀ key, mark key ≤ higher key) : Marked source log higher :=
  ⟨marked.ascending, fun key number member =>
    Int.le_trans (marked.below key number member) (rises key)⟩

/-- Entries above the old watermarks and below the new ones, ascending by themselves. -/
theorem append (marked : Marked source log mark) {new : List α} {higher : κ → Int}
    (ascending : ∀ key, (numbersOf source key new).Pairwise (· < ·))
    (above : ∀ key, ∀ number ∈ numbersOf source key new, mark key < number)
    (below : ∀ key, ∀ number ∈ numbersOf source key new, number ≤ higher key)
    (rises : ∀ key, mark key ≤ higher key) : Marked source (log ++ new) higher where
  ascending := by
    intro key
    rw [numbersOf_append, List.pairwise_append]
    refine ⟨marked.ascending key, ascending key, ?_⟩
    intro old earlier number later
    have first := marked.below key old earlier
    have second := above key number later
    omega
  below := by
    intro key number member
    rw [numbersOf_append, List.mem_append] at member
    cases member with
    | inl earlier => exact (marked.raise rises).below key number earlier
    | inr later => exact below key number later

/-- Entries without a source do not matter. -/
theorem append_sourceless (marked : Marked source log mark) {new : List α}
    (sourceless : ∀ entry ∈ new, source entry = none) : Marked source (log ++ new) mark := by
  have none (key : κ) : numbersOf source key new = [] := numbersOf_sourceless sourceless key
  apply marked.append
  · intro key
    rw [none]
    exact List.Pairwise.nil
  · intro key number member
    rw [none] at member
    exact absurd member List.not_mem_nil
  · intro key number member
    rw [none] at member
    exact absurd member List.not_mem_nil
  · exact fun key => Int.le_refl (mark key)

/-- No source occurs twice in the log. -/
theorem distinct (marked : Marked source log mark) : (log.filterMap source).Nodup := by
  have ascending := marked.ascending
  clear marked
  induction log with
  | nil => exact List.nodup_nil
  | cons entry rest hypothesis =>
    have later : (rest.filterMap source).Nodup := by
      apply hypothesis
      intro key
      have whole := ascending key
      unfold numbersOf at whole
      rw [List.filterMap_cons] at whole
      split at whole
      · exact whole
      · exact List.Pairwise.of_cons whole
    rw [List.filterMap_cons]
    split
    · exact later
    · rename_i origin named
      obtain ⟨key, number⟩ := origin
      refine List.nodup_cons.mpr ⟨?_, later⟩
      intro again
      obtain ⟨other, there, same⟩ := List.mem_filterMap.mp again
      have whole := ascending key
      unfold numbersOf at whole
      rw [List.filterMap_cons, numberOf_eq_some.mpr named] at whole
      have member : number ∈ numbersOf source key rest := mem_numbersOf.mpr ⟨other, there, same⟩
      exact absurd (List.rel_of_pairwise_cons whole member) (Int.lt_irrefl number)

end Marked

end Crewon.Lib
