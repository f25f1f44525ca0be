import Crewon.Js.TextOrder
import Mathlib.Data.Prod.Lex

/-!
# Locale-sensitive comparison

The host compares texts as its locale orders them. Which order that is depends on the host; it is a
consistent comparator, so that a sort by it is determined.
-/

namespace Crewon.Js

/-- The host's comparison of texts. -/
structure Collation where
  /-- Negative when the left text comes first, positive when the right one does. -/
  localeCompare : JsString → JsString → Int
  /-- Exchanging the texts exchanges the answer. -/
  exchanged : ∀ left right, localeCompare left right < 0 ↔ 0 < localeCompare right left
  /-- What does not come behind one text does not come behind any that the other does not. -/
  transitive : ∀ first second third, localeCompare first second ≤ 0 →
    localeCompare second third ≤ 0 → localeCompare first third ≤ 0

namespace Collation

/-- A comparison by a rank. -/
def ofRank {β : Type} [LinearOrder β] (rank : JsString → β) : Collation where
  localeCompare left right :=
    if rank left < rank right then -1 else if rank right < rank left then 1 else 0
  exchanged left right := by
    split_ifs with less other <;> simp_all [lt_asymm]
  transitive first second third := by
    have order : ∀ left right, (if rank left < rank right then (-1 : Int)
        else if rank right < rank left then 1 else 0) ≤ 0 ↔ rank left ≤ rank right := by
      intro left right
      split_ifs with less greater
      · simpa using less.le
      · simpa using greater
      · simpa using not_lt.mp greater
    rw [order, order, order]
    exact le_trans

/-- A letter in lower case. -/
def lowerCase (code : Nat) : Nat := if 65 ≤ code ∧ code ≤ 90 then code + 32 else code

/-- A letter in the other case. -/
def otherCase (code : Nat) : Nat :=
  if 65 ≤ code ∧ code ≤ 90 then code + 32 else if 97 ≤ code ∧ code ≤ 122 then code - 32 else code

/-- The order of words in a dictionary of plain letters: case counts only where nothing else differs,
and then the small letter comes first. -/
def dictionary : Collation :=
  ofRank fun text => toLex (text.codes.map lowerCase, text.codes.map otherCase)

end Collation

end Crewon.Js
