import Crewon.Js.Date

/-!
# Timestamp texts and their instants

The text that the host writes for an instant names that instant again, and every timestamp names
an instant that the host can write. Both rest on the calendar: the year, the month and the day of
a day determine the day.
-/

namespace Crewon.Js

/-- The year and the day of the year of a day of an era of 400 years. -/
theorem dayOfYear_bounds {dayOfEra : Int} (low : 0 ≤ dayOfEra) (high : dayOfEra ≤ 146096) :
    let yearOfEra := (dayOfEra - dayOfEra / 1460 + dayOfEra / 36524 - dayOfEra / 146096) / 365
    let dayOfYear := dayOfEra - (365 * yearOfEra + yearOfEra / 4 - yearOfEra / 100)
    (0 ≤ yearOfEra ∧ yearOfEra ≤ 399) ∧ 0 ≤ dayOfYear ∧ dayOfYear ≤ 366 := by
  intro yearOfEra dayOfYear
  have years : 0 ≤ yearOfEra ∧ yearOfEra ≤ 399 := by omega
  have century : dayOfEra / 36524 - dayOfEra / 146096 = yearOfEra / 100 := by
    have cases : dayOfEra / 36524 = 0 ∨ dayOfEra / 36524 = 1 ∨ dayOfEra / 36524 = 2 ∨
      dayOfEra / 36524 = 3 ∨ dayOfEra / 36524 = 4 := by omega
    rcases cases with c | c | c | c | c <;> omega
  have bounds : 365 * yearOfEra ≤ dayOfEra - dayOfEra / 1460 + yearOfEra / 100 ∧
      dayOfEra - dayOfEra / 1460 + yearOfEra / 100 ≤ 365 * yearOfEra + 364 := by omega
  have enough : yearOfEra / 100 = 0 ∨ 25 ≤ dayOfEra / 1460 := by omega
  clear_value yearOfEra
  -- a year of the era has as many leap days before it as four-year cycles, one fewer at most
  have leaps : yearOfEra / 4 ≤ dayOfEra / 1460 ∧ dayOfEra / 1460 ≤ yearOfEra / 4 + 1 := by omega
  refine ⟨years, ?_, ?_⟩ <;> omega

/-- The month and the day of the month of a day of a year that begins with March. -/
theorem daysFromCivil_ofYear {era yearOfEra dayOfYear : Int}
    (years : 0 ≤ yearOfEra ∧ yearOfEra ≤ 399) (days : 0 ≤ dayOfYear ∧ dayOfYear ≤ 366) :
    let monthFromMarch := (5 * dayOfYear + 2) / 153
    let day := dayOfYear - (153 * monthFromMarch + 2) / 5 + 1
    let month := if monthFromMarch < 10 then monthFromMarch + 3 else monthFromMarch - 9
    let year := yearOfEra + era * 400 + if month ≤ 2 then 1 else 0
    daysFromCivil year month day =
        era * 146097 + (yearOfEra * 365 + yearOfEra / 4 - yearOfEra / 100 + dayOfYear) - 719468 ∧
      (1 ≤ month ∧ month ≤ 12) ∧ 1 ≤ day ∧ day ≤ 31 := by
  intro monthFromMarch day month year
  have months : 0 ≤ monthFromMarch ∧ monthFromMarch ≤ 11 := by omega
  have dayIs : day = dayOfYear - (153 * monthFromMarch + 2) / 5 + 1 := rfl
  have monthIs : month = if monthFromMarch < 10 then monthFromMarch + 3 else monthFromMarch - 9 :=
    rfl
  have yearIs : year = yearOfEra + era * 400 + if month ≤ 2 then 1 else 0 := rfl
  have ofMonth : 1 ≤ day ∧ day ≤ 31 := by omega
  have ofYear : 1 ≤ month ∧ month ≤ 12 := by
    rw [monthIs]
    split <;> omega
  have back : (if 2 < month then month - 3 else month + 9) = monthFromMarch := by
    rw [monthIs]
    split_ifs <;> omega
  have shifted : (if month ≤ 2 then year - 1 else year) = yearOfEra + era * 400 := by
    rw [yearIs]
    split_ifs <;> omega
  refine ⟨?_, ofYear, ofMonth⟩
  have whole : (yearOfEra + era * 400) / 400 = era := by omega
  simp only [daysFromCivil, back, shifted, whole]
  omega

/-- The date of a day is a month and a day of the calendar, and names the day. -/
theorem daysFromCivil_civilFromDays (days : Int) :
    daysFromCivil (civilFromDays days).1 (civilFromDays days).2.1 (civilFromDays days).2.2 = days ∧
      (1 ≤ (civilFromDays days).2.1 ∧ (civilFromDays days).2.1 ≤ 12) ∧
      1 ≤ (civilFromDays days).2.2 ∧ (civilFromDays days).2.2 ≤ 31 := by
  have low : 0 ≤ days + 719468 - (days + 719468) / 146097 * 146097 := by omega
  have high : days + 719468 - (days + 719468) / 146097 * 146097 ≤ 146096 := by omega
  obtain ⟨years, ofYear⟩ := dayOfYear_bounds low high
  obtain ⟨named, month, day⟩ := daysFromCivil_ofYear  years ofYear
  exact ⟨named.trans (by omega), month, day⟩

/-- The unit of a digit keeps its code. -/
theorem toNat_unit_digit {c : Char} (digit : c.isDigit = true) :
    (unit c).toNat = c.toNat ∧ isDigit (unit c) = true := by
  have bounds : 48 ≤ c.toNat ∧ c.toNat ≤ 57 := by
    simp only [Char.isDigit, Bool.and_eq_true, decide_eq_true_eq] at digit
    exact digit
  have code : (unit c).toNat = c.toNat := by
    simp only [unit, UInt16.toNat_ofNat']
    omega
  refine ⟨code, ?_⟩
  simp only [isDigit, Bool.and_eq_true, decide_eq_true_eq, UInt16.le_iff_toNat_le, code]
  exact bounds

/-- Units of digits are read as the number that the digits write. -/
theorem decimalValue_digits {digits : List Char} (all : ∀ c ∈ digits, c.isDigit = true) :
    decimalValue (digits.map unit) = some (Nat.ofDigitChars 10 digits 0) := by
  have units : (digits.map unit).all isDigit = true := by
    simp only [List.all_map, List.all_eq_true, Function.comp_apply]
    exact fun c member => (toNat_unit_digit (all c member)).2
  have fold (value : Nat) : (digits.map unit).foldl
      (fun value point => value * 10 + (point.toNat - 48)) value =
        Nat.ofDigitChars 10 digits value := by
    clear units
    induction digits generalizing value with
    | nil => rfl
    | cons c rest hypothesis =>
      have code := (toNat_unit_digit (all c List.mem_cons_self)).1
      have step : value * 10 + ((unit c).toNat - 48) = 10 * value + (c.toNat - 48) := by
        rw [code]
        omega
      rw [List.map_cons, List.foldl_cons, step,
        hypothesis (fun found member => all found (List.mem_cons_of_mem _ member)),
        Nat.ofDigitChars_cons]
      rfl
  rw [decimalValue, if_pos units, fold]

/-- The units of a padded number are digits. -/
theorem padded_digits (width value : Nat) : ∃ digits : List Char,
    padded width value = digits.map unit ∧ (∀ c ∈ digits, c.isDigit = true) ∧
      Nat.ofDigitChars 10 digits 0 = value ∧
      (value < 10 ^ width → 0 < width → digits.length = width) := by
  refine ⟨List.replicate (width - (Nat.toDigits 10 value).length) '0' ++ Nat.toDigits 10 value,
    ?_, ?_, ?_, ?_⟩
  · simp [padded]
  · intro c member
    cases List.mem_append.mp member with
    | inl zero => rw [List.eq_of_mem_replicate zero]; rfl
    | inr digit => exact Nat.isDigit_of_mem_toDigits (by decide) (by decide) digit
  · simp [Nat.ofDigitChars_append]
  · intro fits positive
    have short := (Nat.length_toDigits_le_iff (by decide) positive).mpr fits
    simp only [List.length_append, List.length_replicate]
    omega

/-- A number padded to a width it fits is read back, and has that width. -/
theorem decimalValue_padded (width : Nat) {value : Nat} (positive : 0 < width)
    (fits : value < 10 ^ width) :
    decimalValue (padded width value) = some value ∧ (padded width value).length = width := by
  obtain ⟨digits, written, all, read, wide⟩ := padded_digits width value
  rw [written, decimalValue_digits all, read, List.length_map]
  exact ⟨rfl, wide fits positive⟩

/-- A list of two units. -/
theorem units_two {units : List UInt16} (wide : units.length = 2) :
    ∃ first second, units = [first, second] := List.length_eq_two.mp wide

/-- A list of four units. -/
theorem units_four {units : List UInt16} (wide : units.length = 4) :
    ∃ first second third fourth, units = [first, second, third, fourth] := by
  match units, wide with
  | [first, second, third, fourth], _ => exact ⟨first, second, third, fourth, rfl⟩

/-- A fraction of three digits is read as its milliseconds. -/
theorem fractionMillis_padded {value : Nat} (fits : value < 1000) :
    fractionMillis (unit '.' :: (padded 3 value ++ [unit 'Z'])) = some value := by
  obtain ⟨read, wide⟩ := decimalValue_padded 3 (by decide) fits
  obtain ⟨first, second, third, written⟩ := List.length_eq_three.mp wide
  have dot : unit '.' ≠ unit 'Z' := by decide
  rw [written] at read ⊢
  simp [fractionMillis, dot, read]

/-- The fields of a timestamp fit their places in its text. -/
structure TimestampFields.Fits (fields : TimestampFields) : Prop where
  year : fields.year < 10000
  month : fields.month < 100
  day : fields.day < 100
  hour : fields.hour < 100
  minute : fields.minute < 100
  second : fields.second < 100
  millisecond : fields.millisecond < 1000

/-- The text of fields. -/
def TimestampFields.written (fields : TimestampFields) : JsString :=
  ⟨padded 4 fields.year ++ [unit '-'] ++ padded 2 fields.month ++ [unit '-'] ++
    padded 2 fields.day ++ [unit 'T'] ++ padded 2 fields.hour ++ [unit ':'] ++
    padded 2 fields.minute ++ [unit ':'] ++ padded 2 fields.second ++ [unit '.'] ++
    padded 3 fields.millisecond ++ [unit 'Z']⟩

/-- Fields that fit are read back from their text. -/
theorem timestampFields_written {fields : TimestampFields} (fits : fields.Fits) :
    timestampFields fields.written = some fields := by
  obtain ⟨year, wide⟩ := decimalValue_padded 4 (by decide) fits.year
  obtain ⟨y1, y2, y3, y4, yearIs⟩ := units_four wide
  obtain ⟨month, wide⟩ := decimalValue_padded 2 (by decide) fits.month
  obtain ⟨m1, m2, monthIs⟩ := units_two wide
  obtain ⟨day, wide⟩ := decimalValue_padded 2 (by decide) fits.day
  obtain ⟨d1, d2, dayIs⟩ := units_two wide
  obtain ⟨hour, wide⟩ := decimalValue_padded 2 (by decide) fits.hour
  obtain ⟨h1, h2, hourIs⟩ := units_two wide
  obtain ⟨minute, wide⟩ := decimalValue_padded 2 (by decide) fits.minute
  obtain ⟨n1, n2, minuteIs⟩ := units_two wide
  obtain ⟨second, wide⟩ := decimalValue_padded 2 (by decide) fits.second
  obtain ⟨e1, e2, secondIs⟩ := units_two wide
  have fraction := fractionMillis_padded fits.millisecond
  rw [yearIs] at year
  rw [monthIs] at month
  rw [dayIs] at day
  rw [hourIs] at hour
  rw [minuteIs] at minute
  rw [secondIs] at second
  simp [TimestampFields.written, timestampFields, yearIs, monthIs, dayIs, hourIs, minuteIs,
    secondIs, year, month, day, hour, minute, second, fraction]

/-- A timestamp text begins with a digit. -/
theorem timestampFields_head {first : UInt16} {rest : List UInt16} {fields : TimestampFields}
    (found : timestampFields ⟨first :: rest⟩ = some fields) : isDigit first = true := by
  unfold timestampFields at found
  split at found
  case h_2 => simp at found
  case h_1 split =>
    obtain ⟨rfl, _⟩ := List.cons.inj split
    split at found
    case isFalse => simp at found
    case isTrue =>
      obtain ⟨year, read, _⟩ := Option.bind_eq_some_iff.mp found
      unfold decimalValue at read
      split at read
      case isFalse => simp at read
      case isTrue digits =>
        simp only [List.all_cons, Bool.and_eq_true] at digits
        exact digits.1

/-- The text of fields after the year. -/
def TimestampFields.tail (fields : TimestampFields) : List UInt16 :=
  [unit '-'] ++ padded 2 fields.month ++ [unit '-'] ++ padded 2 fields.day ++ [unit 'T'] ++
    padded 2 fields.hour ++ [unit ':'] ++ padded 2 fields.minute ++ [unit ':'] ++
    padded 2 fields.second ++ [unit '.'] ++ padded 3 fields.millisecond ++ [unit 'Z']

/-- The milliseconds that the fields stand for in a year. -/
def TimestampFields.millisIn (fields : TimestampFields) (year : Int) : Int :=
  daysFromCivil year fields.month fields.day * 86400000 + fields.hour * 3600000 +
    fields.minute * 60000 + fields.second * 1000 + fields.millisecond

/-- The text of a year: four digits, or a sign and six digits. -/
def yearText (year : Int) : List UInt16 :=
  if 0 ≤ year ∧ year ≤ 9999 then padded 4 year.toNat
  else (if year < 0 then unit '-' else unit '+') :: padded 6 year.natAbs

/-- The text that the host writes for an instant is that of fields which name the instant. -/
theorem toIsoString_fields {millis : Int} {text : JsString}
    (written : toIsoString millis = some text) : ∃ (year : Int) (fields : TimestampFields),
      fields.year = 0 ∧ fields.Fits ∧ fields.isInstant = true ∧ fields.millisIn year = millis ∧
        (-1000000 < year ∧ year < 1000000) ∧ text = ⟨yearText year ++ fields.tail⟩ := by
  have calendar := daysFromCivil_civilFromDays (millis / 86400000)
  have years : -maxInstant ≤ millis ∧ millis ≤ maxInstant →
      -1000000 < (civilFromDays (millis / 86400000)).1 ∧
        (civilFromDays (millis / 86400000)).1 < 1000000 := by
    intro within
    have low : 0 ≤ millis / 86400000 + 719468 - (millis / 86400000 + 719468) / 146097 * 146097 := by
      omega
    have high : millis / 86400000 + 719468 - (millis / 86400000 + 719468) / 146097 * 146097 ≤
      146096 := by omega
    have era := (dayOfYear_bounds low high).1
    simp only [maxInstant] at within
    simp only [civilFromDays] at era ⊢
    split_ifs <;> omega
  simp only [toIsoString] at written
  split at written
  case isTrue => simp at written
  case isFalse inside =>
    have bounds := years (by omega)
    generalize civilFromDays (millis / 86400000) = date at written calendar bounds
    obtain ⟨year, month, day⟩ := date
    obtain ⟨named, months, days⟩ := calendar
    dsimp only at named months days bounds
    generalize restIs : (millis - millis / 86400000 * 86400000).toNat = rest at written
    have restBound : rest < 86400000 ∧ (rest : Int) = millis - millis / 86400000 * 86400000 := by
      omega
    simp only [Option.some.injEq] at written
    let fields : TimestampFields := ⟨0, month.toNat, day.toNat, rest / 3600000,
      rest / 60000 % 60, rest / 1000 % 60, rest % 1000⟩
    refine ⟨year, fields, rfl, ?_, ?_, ?_, bounds, ?_⟩
    · constructor <;> simp only [fields] <;> omega
    · simp only [TimestampFields.isInstant, fields, Bool.and_eq_true, Bool.or_eq_true,
        decide_eq_true_eq]
      refine ⟨⟨⟨⟨⟨⟨?_, ?_⟩, ?_⟩, ?_⟩, ?_⟩, ?_⟩, .inl ?_⟩ <;> omega
    · have monthIs : ((month.toNat : Nat) : Int) = month := by omega
      have dayIs : ((day.toNat : Nat) : Int) = day := by omega
      simp only [TimestampFields.millisIn, fields, monthIs, dayIs, named]
      omega
    · rw [← written]
      simp only [yearText, TimestampFields.tail, fields, List.append_assoc]

/-- Fields of a common year name the instant of their text. -/
theorem dateParse_common {fields : TimestampFields} {year : Int} (fits : fields.Fits)
    (instant : fields.isInstant = true) (common : 0 ≤ year ∧ year ≤ 9999) :
    dateParse ⟨yearText year ++ fields.tail⟩ = some (fields.millisIn year) := by
  let date : TimestampFields := { fields with year := year.toNat }
  have dated : date.Fits := { fits with year := by simp only [date]; omega }
  have named : (⟨yearText year ++ fields.tail⟩ : JsString) = date.written := by
    simp only [yearText, if_pos common, TimestampFields.tail, TimestampFields.written, date,
      List.append_assoc]
  have yearIs : ((year.toNat : Nat) : Int) = year := by omega
  have held : date.isInstant = true := instant
  have millisIs : date.millis = fields.millisIn year := by
    simp only [TimestampFields.millis, TimestampFields.millisIn, date, yearIs]
  rw [named, dateParse, timestampFields_written dated]
  simp [held, millisIs]

/-- A year outside the common range is written with a sign. -/
theorem dateParse_expanded {year : Int} {rest : List UInt16} (rare : ¬ (0 ≤ year ∧ year ≤ 9999)) :
    dateParse ⟨yearText year ++ rest⟩ = none := by
  cases parsed : dateParse ⟨yearText year ++ rest⟩ with
  | none => rfl
  | some millis =>
    simp only [dateParse, Option.bind_eq_bind, Option.bind_eq_some_iff] at parsed
    obtain ⟨fields, found, _⟩ := parsed
    rw [yearText, if_neg rare, List.cons_append] at found
    have digit := timestampFields_head found
    split at digit <;> exact absurd digit (by decide)

/-- The text that the host writes for an instant, as far as it is a timestamp, names the
instant. -/
theorem dateParse_toIsoString {millis : Int} {text : JsString}
    (written : toIsoString millis = some text) (valid : isTimestamp text = true) :
    dateParse text = some millis := by
  obtain ⟨year, fields, _, fits, instant, named, _, rfl⟩ := toIsoString_fields written
  by_cases common : 0 ≤ year ∧ year ≤ 9999
  · rw [dateParse_common fits instant common, named]
  · simp [isTimestamp, dateParse_expanded common] at valid

/-- The instant of a text whose year has a sign and six digits. -/
def expandedParse (text : JsString) : Option Int :=
  match text.units with
  | sign :: y1 :: y2 :: y3 :: y4 :: y5 :: y6 :: rest =>
    if sign = unit '+' ∨ sign = unit '-' then do
      let value ← decimalValue [y1, y2, y3, y4, y5, y6]
      -- what follows the year reads like that of a year of four digits
      let fields ← timestampFields ⟨padded 4 0 ++ rest⟩
      let year : Int := if sign = unit '-' then -value else value
      let millis := fields.millisIn year
      if fields.isInstant = true ∧ ¬ (sign = unit '-' ∧ value = 0) ∧ -maxInstant ≤ millis ∧
          millis ≤ maxInstant
      then some millis else none
    else none
  | _ => none

/-- The instant of a text in the format that the host writes instants in. -/
def isoParse (text : JsString) : Option Int := (dateParse text).or (expandedParse text)

/-- The text is the one that the host writes for the instant it names. -/
def canonicalUtc (text : JsString) : Bool :=
  match isoParse text with
  | some millis => toIsoString millis = some text
  | none => false

/-- A list of six units. -/
theorem units_six {units : List UInt16} (wide : units.length = 6) :
    ∃ first second third fourth fifth sixth,
      units = [first, second, third, fourth, fifth, sixth] := by
  match units, wide with
  | [first, second, third, fourth, fifth, sixth], _ =>
    exact ⟨first, second, third, fourth, fifth, sixth, rfl⟩

/-- The text that the host writes for an instant names the instant. -/
theorem isoParse_toIsoString {millis : Int} {text : JsString}
    (written : toIsoString millis = some text) : isoParse text = some millis := by
  have within : ¬ (maxInstant < millis ∨ millis < -maxInstant) := by
    intro outside
    rw [toIsoString, if_pos outside] at written
    exact absurd written (by simp)
  obtain ⟨year, fields, zero, fits, instant, named, bounds, rfl⟩ := toIsoString_fields written
  by_cases common : 0 ≤ year ∧ year ≤ 9999
  · rw [isoParse, dateParse_common fits instant common, named]
    rfl
  · have small : year.natAbs < 10 ^ 6 := by omega
    obtain ⟨read, wide⟩ := decimalValue_padded 6 (by decide) small
    obtain ⟨y1, y2, y3, y4, y5, y6, digits⟩ := units_six wide
    rw [digits] at read
    have tail : timestampFields ⟨padded 4 0 ++ fields.tail⟩ = some fields := by
      rw [← timestampFields_written fits, TimestampFields.written, TimestampFields.tail, zero]
      simp only [List.append_assoc]
    have range : -maxInstant ≤ millis ∧ millis ≤ maxInstant := by omega
    have signs : unit '+' ≠ unit '-' := by decide
    rw [isoParse, dateParse_expanded common, Option.none_or, yearText, if_neg common, digits]
    by_cases negative : year < 0
    · have yearIs : -(year.natAbs : Int) = year := by omega
      generalize year.natAbs = magnitude at read yearIs
      have nonzero : magnitude ≠ 0 := by omega
      simp [expandedParse, negative, read, tail, yearIs, instant, named, nonzero, range]
    · have yearIs : (year.natAbs : Int) = year := by omega
      generalize year.natAbs = magnitude at read yearIs
      simp [expandedParse, negative, read, tail, yearIs, instant, named, signs, range]

/-- The text that the host writes for an instant is canonical. -/
theorem canonicalUtc_toIsoString {millis : Int} {text : JsString}
    (written : toIsoString millis = some text) : canonicalUtc text = true := by
  rw [canonicalUtc, isoParse_toIsoString written]
  simpa using written

/-- Units that are read as a number are too few for a larger one. -/
theorem decimalValue_lt {units : List UInt16} {value : Nat}
    (read : decimalValue units = some value) : value < 10 ^ units.length := by
  unfold decimalValue at read
  split at read
  case isFalse => simp at read
  case isTrue digits =>
    obtain rfl := Option.some.inj read
    have fold (start : Nat) : units.foldl (fun value point => value * 10 + (point.toNat - 48)) start <
        (start + 1) * 10 ^ units.length := by
      clear read
      induction units generalizing start with
      | nil => simp
      | cons first rest hypothesis =>
        simp only [List.all_cons, Bool.and_eq_true] at digits
        have small : first.toNat ≤ 57 := by
          have bound := digits.1
          simp only [isDigit, Bool.and_eq_true, decide_eq_true_eq,
            UInt16.le_iff_toNat_le] at bound
          exact bound.2
        have step := hypothesis digits.2 (start * 10 + (first.toNat - 48))
        rw [List.foldl_cons, List.length_cons, Nat.pow_succ]
        calc
          _ < (start * 10 + (first.toNat - 48) + 1) * 10 ^ rest.length := step
          _ ≤ ((start + 1) * 10) * 10 ^ rest.length := Nat.mul_le_mul_right _ (by omega)
          _ = (start + 1) * (10 ^ rest.length * 10) := by rw [Nat.mul_assoc, Nat.mul_comm 10]
    simpa using fold 0

/-- The milliseconds of a fraction stay below a second. -/
theorem fractionMillis_lt {units : List UInt16} {value : Nat}
    (read : fractionMillis units = some value) : value < 1000 := by
  unfold fractionMillis at read
  split at read
  case h_1 => simp at read
  case h_2 =>
    split_ifs at read with closing last dot
    · obtain rfl := Option.some.inj read
      decide
    · split at read
      case h_1 => simp at read
      case h_2 found digits _ =>
        split_ifs at read
        obtain ⟨_, _, written⟩ := Option.bind_eq_some_iff.mp read
        have bound := decimalValue_lt written
        have short : ((digits.reverse ++ [unit '0', unit '0']).take 3).length ≤ 3 := by
          rw [List.length_take]
          omega
        exact Nat.lt_of_lt_of_le bound (Nat.pow_le_pow_right (by decide) short)

/-- The year and the milliseconds that a timestamp text writes. -/
theorem timestampFields_bounds {text : JsString} {fields : TimestampFields}
    (found : timestampFields text = some fields) :
    fields.year < 10000 ∧ fields.millisecond < 1000 := by
  unfold timestampFields at found
  split at found
  case h_2 => simp at found
  case h_1 =>
    split_ifs at found
    simp only [Option.bind_eq_bind, Option.bind_eq_some_iff, Option.some.injEq] at found
    obtain ⟨year, yearRead, _, _, _, _, _, _, _, _, _, _, millisecond, fraction, rfl⟩ := found
    exact ⟨by simpa using decimalValue_lt yearRead, fractionMillis_lt fraction⟩

/-- Every timestamp is within the instants that the host can write. -/
theorem dateParse_bounds {text : JsString} {millis : Int} (parsed : dateParse text = some millis) :
    -maxInstant ≤ millis ∧ millis ≤ maxInstant := by
  simp only [dateParse, Option.bind_eq_bind, Option.bind_eq_some_iff] at parsed
  obtain ⟨fields, found, parsed⟩ := parsed
  obtain ⟨year, millisecond⟩ := timestampFields_bounds found
  split_ifs at parsed with instant
  obtain rfl := Option.some.inj parsed
  simp only [TimestampFields.isInstant, Bool.and_eq_true, Bool.or_eq_true, decide_eq_true_eq,
    beq_iff_eq] at instant
  have days : -800000 ≤ daysFromCivil fields.year fields.month fields.day ∧
      daysFromCivil fields.year fields.month fields.day ≤ 3000000 := by
    simp only [daysFromCivil]
    constructor <;> split_ifs <;> omega
  simp only [TimestampFields.millis, maxInstant]
  omega

/-- An instant between two timestamps can be written. -/
theorem toIsoString_between {first last : JsString} {start stop millis : Int}
    (startIs : dateParse first = some start) (stopIs : dateParse last = some stop)
    (low : start ≤ millis) (high : millis ≤ stop) : ∃ text, toIsoString millis = some text := by
  have lower := (dateParse_bounds startIs).1
  have upper := (dateParse_bounds stopIs).2
  have inside : ¬ (maxInstant < millis ∨ millis < -maxInstant) := by omega
  rw [toIsoString, if_neg inside]
  exact ⟨_, rfl⟩

end Crewon.Js
