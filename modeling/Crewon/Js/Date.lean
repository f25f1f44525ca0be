import Crewon.Js.Text

/-!
# Timestamps

The program writes instants as texts of the pattern
`^\d{4}-\d{2}-\d{2}T\d{2}:\d{2}:\d{2}(?:\.\d+)?Z$` and compares them by the milliseconds they
stand for. Reading one follows the host: a day up to 31 is allowed in every month and runs
over into the next one, the hour 24 is allowed at midnight only, and digits of the fraction
after the third are dropped.
-/

namespace Crewon.Js

/-- The fields of a timestamp text. -/
structure TimestampFields where
  /-- Calendar year. -/
  year : Nat
  /-- Calendar month, as written. -/
  month : Nat
  /-- Day of the month, as written. -/
  day : Nat
  /-- Hour, as written. -/
  hour : Nat
  /-- Minute, as written. -/
  minute : Nat
  /-- Second, as written. -/
  second : Nat
  /-- Milliseconds of the fraction. -/
  millisecond : Nat
deriving DecidableEq

/-- The value of a list of decimal digits, none when some unit is not a digit. -/
def decimalValue (units : List UInt16) : Option Nat :=
  if units.all isDigit then
    some (units.foldl (fun value point => value * 10 + (point.toNat - 48)) 0)
  else none

/-- The milliseconds of the fraction and the closing `Z`. -/
def fractionMillis : List UInt16 → Option Nat
  | [] => none
  | first :: rest =>
    if first = unit 'Z' then if rest = [] then some 0 else none
    else if first = unit '.' then
      match rest.reverse with
      | [] => none
      | last :: digits =>
        if last = unit 'Z' ∧ digits ≠ [] then
          (decimalValue digits.reverse).bind fun _ =>
            decimalValue ((digits.reverse ++ [unit '0', unit '0']).take 3)
        else none
    else none

/-- The fields of a text of the timestamp pattern; none when the text has another form. -/
def timestampFields (text : JsString) : Option TimestampFields :=
  match text.units with
  | y1 :: y2 :: y3 :: y4 :: s1 :: m1 :: m2 :: s2 :: d1 :: d2 :: t :: h1 :: h2 :: c1 ::
      n1 :: n2 :: c2 :: e1 :: e2 :: rest =>
    if s1 = unit '-' ∧ s2 = unit '-' ∧ t = unit 'T' ∧ c1 = unit ':' ∧ c2 = unit ':' then do
      let year ← decimalValue [y1, y2, y3, y4]
      let month ← decimalValue [m1, m2]
      let day ← decimalValue [d1, d2]
      let hour ← decimalValue [h1, h2]
      let minute ← decimalValue [n1, n2]
      let second ← decimalValue [e1, e2]
      let millisecond ← fractionMillis rest
      some ⟨year, month, day, hour, minute, second, millisecond⟩
    else none
  | _ => none

/-- The days from the first of January 1970 to a date of the proleptic Gregorian calendar. -/
def daysFromCivil (year month day : Int) : Int :=
  let shifted := if month ≤ 2 then year - 1 else year
  let era := shifted / 400
  let yearOfEra := shifted - era * 400
  let monthFromMarch := if 2 < month then month - 3 else month + 9
  let dayOfYear := (153 * monthFromMarch + 2) / 5 + day - 1
  let dayOfEra := yearOfEra * 365 + yearOfEra / 4 - yearOfEra / 100 + dayOfYear
  era * 146097 + dayOfEra - 719468

/-- The fields name an instant. -/
def TimestampFields.isInstant (fields : TimestampFields) : Bool :=
  1 ≤ fields.month && fields.month ≤ 12 && 1 ≤ fields.day && fields.day ≤ 31 &&
    fields.minute ≤ 59 && fields.second ≤ 59 &&
    (fields.hour ≤ 23 ||
      (fields.hour == 24 && fields.minute == 0 && fields.second == 0 && fields.millisecond == 0))

/-- The milliseconds since the epoch that the fields stand for. -/
def TimestampFields.millis (fields : TimestampFields) : Int :=
  daysFromCivil fields.year fields.month fields.day * 86400000 + fields.hour * 3600000 +
    fields.minute * 60000 + fields.second * 1000 + fields.millisecond

/-- The instant a timestamp text stands for; none when it has another form or names none. -/
def dateParse (text : JsString) : Option Int := do
  let fields ← timestampFields text
  if fields.isInstant then some fields.millis else none

/-- The text is a timestamp the program accepts. -/
def isTimestamp (text : JsString) : Bool := (dateParse text).isSome

/-- Both texts name instants and the first is strictly earlier. -/
def isEarlier (left right : JsString) : Bool :=
  match dateParse left, dateParse right with
  | some first, some second => first < second
  | _, _ => false

/-- Both texts name instants and the second is not before the first. -/
def NoLater (first second : JsString) : Prop :=
  ∃ start stop, dateParse first = some start ∧ dateParse second = some stop ∧ start ≤ stop

/-- A timestamp names an instant. -/
theorem isTimestamp_iff {text : JsString} :
    isTimestamp text = true ↔ ∃ instant, dateParse text = some instant := by
  rw [isTimestamp, Option.isSome_iff_exists]

/-- Two timestamps are in order unless the second is earlier. -/
theorem noLater_iff {first second : JsString} :
    NoLater first second ↔ isTimestamp first = true ∧ isTimestamp second = true ∧
      isEarlier second first = false := by
  constructor
  · rintro ⟨start, stop, firstIs, secondIs, ordered⟩
    simp [isTimestamp, isEarlier, firstIs, secondIs, ordered]
  · rintro ⟨firstIs, secondIs, ordered⟩
    obtain ⟨start, firstIs⟩ := isTimestamp_iff.mp firstIs
    obtain ⟨stop, secondIs⟩ := isTimestamp_iff.mp secondIs
    simp only [isEarlier, firstIs, secondIs, decide_eq_false_iff_not, Int.not_lt] at ordered
    exact ⟨start, stop, firstIs, secondIs, ordered⟩

/-- The order of two timestamps can be computed. -/
instance (first second : JsString) : Decidable (NoLater first second) :=
  decidable_of_iff _ noLater_iff.symm

/-- A timestamp is not later than itself. -/
theorem NoLater.refl {text : JsString} (valid : isTimestamp text = true) : NoLater text text := by
  obtain ⟨instant, named⟩ := isTimestamp_iff.mp valid
  exact ⟨instant, instant, named, named, Int.le_refl instant⟩

/-- Instants in order stay in order. -/
theorem NoLater.trans {first second third : JsString} (before : NoLater first second)
    (after : NoLater second third) : NoLater first third := by
  obtain ⟨start, middle, startIs, middleIs, early⟩ := before
  obtain ⟨same, stop, sameIs, stopIs, late⟩ := after
  obtain rfl : middle = same := Option.some.inj (middleIs.symm.trans sameIs)
  exact ⟨start, stop, startIs, stopIs, Int.le_trans early late⟩

/-- The year, month and day of a day counted from the first of January 1970. -/
def civilFromDays (days : Int) : Int × Int × Int :=
  let shifted := days + 719468
  let era := shifted / 146097
  let dayOfEra := shifted - era * 146097
  let yearOfEra := (dayOfEra - dayOfEra / 1460 + dayOfEra / 36524 - dayOfEra / 146096) / 365
  let dayOfYear := dayOfEra - (365 * yearOfEra + yearOfEra / 4 - yearOfEra / 100)
  let monthFromMarch := (5 * dayOfYear + 2) / 153
  let day := dayOfYear - (153 * monthFromMarch + 2) / 5 + 1
  let month := if monthFromMarch < 10 then monthFromMarch + 3 else monthFromMarch - 9
  let year := yearOfEra + era * 400 + if month ≤ 2 then 1 else 0
  (year, month, day)

/-- A number in decimal, padded with zeros to a width. -/
def padded (width value : Nat) : List UInt16 :=
  let digits := (Nat.repr value).toList.map unit
  List.replicate (width - digits.length) (unit '0') ++ digits

/-- The largest distance from the epoch of an instant, in milliseconds. -/
def maxInstant : Int := 8640000000000000

/-- The timestamp text of an instant; none when it lies too far from the epoch. -/
def toIsoString (millis : Int) : Option JsString :=
  if maxInstant < millis ∨ millis < -maxInstant then none
  else
    let days := millis / 86400000
    let rest := (millis - days * 86400000).toNat
    let (year, month, day) := civilFromDays days
    let yearText :=
      if 0 ≤ year ∧ year ≤ 9999 then padded 4 year.toNat
      else (if year < 0 then unit '-' else unit '+') :: padded 6 year.natAbs
    some ⟨yearText ++ [unit '-'] ++ padded 2 month.toNat ++ [unit '-'] ++ padded 2 day.toNat ++
      [unit 'T'] ++ padded 2 (rest / 3600000) ++ [unit ':'] ++ padded 2 (rest / 60000 % 60) ++
      [unit ':'] ++ padded 2 (rest / 1000 % 60) ++ [unit '.'] ++ padded 3 (rest % 1000) ++
      [unit 'Z']⟩

example : dateParse (js "1970-01-02T00:00:00.5Z") = some 86400500 := by decide

example : toIsoString 86400500 = some (js "1970-01-02T00:00:00.500Z") := by decide +kernel

end Crewon.Js
