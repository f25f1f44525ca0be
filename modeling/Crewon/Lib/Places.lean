import Mathlib.Data.List.Basic

/-!
# Places in a list

Where an entry of a list stands once the list has been put together from two parts.
-/

namespace Crewon.Lib

variable {α : Type}

/-- A place in two lists, one behind the other, is in the first or in the second. -/
theorem append_eq_append_cons {left right first last : List α} {entry : α}
    (split : left ++ right = first ++ entry :: last) :
    (∃ between, left = first ++ entry :: between ∧ last = between ++ right) ∨
      ∃ between, first = left ++ between ∧ right = between ++ entry :: last := by
  rcases List.append_eq_append_iff.mp split with ⟨between, front, back⟩ | ⟨between, front, back⟩
  · exact .inr ⟨between, front, back⟩
  · cases between with
    | nil => exact .inr ⟨[], by simpa using front.symm, by simpa using back.symm⟩
    | cons head between =>
      obtain ⟨rfl, rfl⟩ := List.cons.inj back
      exact .inl ⟨between, front, rfl⟩

/-- A place in a list with one more entry is the last one, or a place in the list. -/
theorem concat_eq_append_cons {before earlier later : List α} {last entry : α}
    (split : before ++ [last] = earlier ++ entry :: later) :
    (before = earlier ∧ last = entry) ∨ ∃ init, before = earlier ++ entry :: init := by
  rcases append_eq_append_cons split with ⟨init, inner, _⟩ | ⟨between, front, back⟩
  · exact .inr ⟨init, inner⟩
  · obtain ⟨rfl, ends⟩ := List.append_eq_singleton_iff.mp back.symm |>.resolve_right (by simp)
    exact .inl ⟨by simpa using front.symm, (List.cons.inj ends).1.symm⟩

end Crewon.Lib
