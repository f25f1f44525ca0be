import Crewon.Js.DateText

/-!
# Dates in any format of the host

Apart from its own format, the host reads dates in formats of its choice. All that is known of these
is that it reads back what it writes.
-/

namespace Crewon.Js

/-- The host reads the dates that it writes. -/
def ReadsDates (parseDate : JsString → Option Int) : Prop :=
  ∀ millis text, toIsoString millis = some text → parseDate text = some millis

/-- Its own format is one of those that the host reads. -/
theorem readsDates_isoParse : ReadsDates isoParse := fun _ _ => isoParse_toIsoString

/-- A date that the host writes ends in `Z`. -/
theorem toIsoString_last {millis : Int} {text : JsString}
    (written : toIsoString millis = some text) : text.units.getLast? = some (unit 'Z') := by
  unfold toIsoString at written
  split at written
  · cases written
  · obtain rfl := Option.some.inj written
    exact List.getLast?_concat

section Reading

variable (parseDate : JsString → Option Int)

/-- Both texts name instants and the first is strictly earlier. -/
def parsesEarlier (left right : JsString) : Bool :=
  match parseDate left, parseDate right with
  | some first, some second => first < second
  | _, _ => false

/-- The text ends in `Z` and names an instant. -/
def endsInUtc (text : JsString) : Bool :=
  text.units.getLast? == some (unit 'Z') && (parseDate text).isSome

/-- The text names an instant and is what the host writes for it. -/
def isWrittenDate (text : JsString) : Bool :=
  match parseDate text with
  | some millis => toIsoString millis == some text
  | none => false

end Reading

variable {parseDate : JsString → Option Int}

/-- A date that the host writes ends in `Z` and names an instant. -/
theorem endsInUtc_written (reads : ReadsDates parseDate) {millis : Int} {text : JsString}
    (written : toIsoString millis = some text) : endsInUtc parseDate text = true := by
  simp [endsInUtc, toIsoString_last written, reads millis text written]

/-- A date that the host writes is one. -/
theorem isWrittenDate_written (reads : ReadsDates parseDate) {millis : Int} {text : JsString}
    (written : toIsoString millis = some text) : isWrittenDate parseDate text = true := by
  simp [isWrittenDate, reads millis text written, written]

/-- A text is not earlier than itself. -/
theorem parsesEarlier_self (text : JsString) : parsesEarlier parseDate text text = false := by
  unfold parsesEarlier
  cases parseDate text with
  | none => rfl
  | some instant => simp

/-- What is not earlier stays so. -/
theorem parsesEarlier_trans {first second third : JsString}
    (named : (parseDate second).isSome = true)
    (early : parsesEarlier parseDate second first = false)
    (late : parsesEarlier parseDate third second = false) :
    parsesEarlier parseDate third first = false := by
  obtain ⟨middle, named⟩ := Option.isSome_iff_exists.mp named
  unfold parsesEarlier at early late ⊢
  rw [named] at early late
  cases start : parseDate first with
  | none => cases parseDate third <;> rfl
  | some start' =>
    cases stop : parseDate third with
    | none => rfl
    | some stop' =>
      simp only [start, stop, decide_eq_false_iff_not] at early late ⊢
      omega

end Crewon.Js
