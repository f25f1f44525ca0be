import Crewon.Js.Text

/-!
# Keys made of JSON texts

The program keys maps by the JSON text of a short list of strings. The host escapes quotes,
backslashes, controls and lone surrogates, so that the text can be read back: two lists with the
same text are the same list.
-/

namespace Crewon.Js

/-- The lower case hexadecimal digit of a number below sixteen. -/
def hexDigit (value : Nat) : UInt16 :=
  if value < 10 then UInt16.ofNat (0x30 + value) else UInt16.ofNat (0x57 + value)

/-- The number of a lower case hexadecimal digit. -/
def hexValue (digit : UInt16) : Nat :=
  if digit.toNat < 0x40 then digit.toNat - 0x30 else digit.toNat - 0x57

/-- The escape of a unit as four hexadecimal digits. -/
def hexEscape (point : UInt16) : List UInt16 :=
  [unit '\\', unit 'u', hexDigit (point.toNat / 0x1000), hexDigit (point.toNat / 0x100 % 0x10),
    hexDigit (point.toNat / 0x10 % 0x10), hexDigit (point.toNat % 0x10)]

/-- The units with a short escape, and its letter. -/
def shortEscape (point : UInt16) : Option UInt16 :=
  if point = 8 then some (unit 'b')
  else if point = 9 then some (unit 't')
  else if point = 10 then some (unit 'n')
  else if point = 12 then some (unit 'f')
  else if point = 13 then some (unit 'r')
  else if point = unit '"' then some (unit '"')
  else if point = unit '\\' then some (unit '\\')
  else none

/-- A unit that stands alone, as it is written inside a JSON text. -/
def escapeUnit (point : UInt16) : List UInt16 :=
  match shortEscape point with
  | some letter => [unit '\\', letter]
  | none =>
    if point < 0x20 || JsString.isHigh point || JsString.isLow point then hexEscape point
    else [point]

/-- The units of a text as they are written inside a JSON text; a pair of surrogates is kept. -/
def quoteUnits : List UInt16 → List UInt16
  | [] => []
  | [single] => escapeUnit single
  | first :: second :: rest =>
    if JsString.isHigh first && JsString.isLow second then first :: second :: quoteUnits rest
    else escapeUnit first ++ quoteUnits (second :: rest)

/-- A text as a JSON text. -/
def quote (text : JsString) : List UInt16 :=
  unit '"' :: quoteUnits text.units ++ [unit '"']

/-- A text or the absent value as a JSON text. -/
def quoteNullable : Option JsString → List UInt16
  | none => (js "null").units
  | some text => quote text

/-- The JSON text of a list of two. -/
def stringifyPair (first : Option JsString) (second : JsString) : JsString :=
  ⟨unit '[' :: quoteNullable first ++ unit ',' :: quote second ++ [unit ']']⟩

/-- The unit that a letter after a backslash stands for. -/
def unescapeLetter (letter : UInt16) : UInt16 :=
  if letter = unit 'b' then 8
  else if letter = unit 't' then 9
  else if letter = unit 'n' then 10
  else if letter = unit 'f' then 12
  else if letter = unit 'r' then 13
  else letter

/-- Read one unit off a JSON text. -/
def readUnit : List UInt16 → UInt16 × List UInt16
  | [] => (0, [])
  | first :: rest =>
    if first = unit '\\' then
      match rest with
      | letter :: a :: b :: c :: d :: tail =>
        if letter = unit 'u' then
          (UInt16.ofNat (hexValue a * 0x1000 + hexValue b * 0x100 + hexValue c * 0x10 + hexValue d),
            tail)
        else (unescapeLetter letter, a :: b :: c :: d :: tail)
      | letter :: tail => (unescapeLetter letter, tail)
      | [] => (0, [])
    else (first, rest)

/-- A digit stands for its number. -/
theorem hexValue_hexDigit {value : Nat} (small : value < 16) : hexValue (hexDigit value) = value := by
  have table : ∀ digit : Fin 16, hexValue (hexDigit digit.val) = digit.val := by decide
  exact table ⟨value, small⟩

/-- Four digits are read back. -/
theorem readUnit_hexEscape (point : UInt16) (tail : List UInt16) :
    readUnit (hexEscape point ++ tail) = (point, tail) := by
  have bound : point.toNat < 0x10000 := point.toNat_lt
  have high := hexValue_hexDigit (show point.toNat / 0x1000 < 16 by omega)
  have second := hexValue_hexDigit (show point.toNat / 0x100 % 0x10 < 16 by omega)
  have third := hexValue_hexDigit (show point.toNat / 0x10 % 0x10 < 16 by omega)
  have low := hexValue_hexDigit (show point.toNat % 0x10 < 16 by omega)
  have sum : point.toNat / 0x1000 * 0x1000 + point.toNat / 0x100 % 0x10 * 0x100 +
      point.toNat / 0x10 % 0x10 * 0x10 + point.toNat % 0x10 = point.toNat := by omega
  simp only [hexEscape, List.cons_append, List.nil_append, readUnit, ↓reduceIte, high, second,
    third, low, sum, UInt16.ofNat_toNat]

/-- A letter after a backslash is read back, whatever follows. -/
theorem readUnit_letter {letter : UInt16} (short : letter ≠ unit 'u') (tail : List UInt16) :
    readUnit (unit '\\' :: letter :: tail) = (unescapeLetter letter, tail) := by
  match tail with
  | [] | [_] | [_, _] | [_, _, _] => simp [readUnit]
  | a :: b :: c :: d :: more => simp [readUnit, short]

/-- A short escape is undone. -/
theorem unescape_shortEscape {point letter : UInt16} (short : shortEscape point = some letter) :
    letter ≠ unit 'u' ∧ unescapeLetter letter = point := by
  unfold shortEscape at short
  split_ifs at short with h1 h2 h3 h4 h5 h6 h7 <;>
    (rw [Option.some.injEq] at short; subst short; subst point; decide)

/-- A unit is read back from its escape. -/
theorem readUnit_escapeUnit (point : UInt16) (tail : List UInt16) :
    readUnit (escapeUnit point ++ tail) = (point, tail) := by
  unfold escapeUnit
  cases short : shortEscape point with
  | some letter =>
    obtain ⟨notHex, same⟩ := unescape_shortEscape short
    show readUnit (unit '\\' :: letter :: tail) = _
    rw [readUnit_letter notHex, same]
  | none =>
    by_cases escaped : (point < 0x20 || JsString.isHigh point || JsString.isLow point) = true
    · simp only [escaped, ↓reduceIte]
      exact readUnit_hexEscape point tail
    · have plain : point ≠ unit '\\' := by
        rintro rfl
        simp [shortEscape] at short
        revert short
        decide
      simp only [escaped]
      show readUnit (point :: tail) = _
      simp [readUnit, plain]

/-- An escape neither is empty nor starts with a quote. -/
theorem escapeUnit_head (point : UInt16) : ∃ first rest, escapeUnit point = first :: rest ∧
    first ≠ unit '"' := by
  unfold escapeUnit
  cases short : shortEscape point with
  | some letter => exact ⟨_, _, rfl, by decide⟩
  | none =>
    by_cases escaped : (point < 0x20 || JsString.isHigh point || JsString.isLow point) = true
    · simp only [escaped, ↓reduceIte]
      exact ⟨_, _, rfl, by decide⟩
    · simp only [escaped]
      refine ⟨point, [], rfl, ?_⟩
      rintro rfl
      revert short
      decide

/-- A text spells the units when each unit can be read off it in turn. -/
inductive Spells : List UInt16 → List UInt16 → Prop where
  | nil : Spells [] []
  | cons {point first : UInt16} {code points text : List UInt16}
      (reads : ∀ tail, readUnit (first :: code ++ tail) = (point, tail))
      (opens : first ≠ unit '"') (rest : Spells points text) :
      Spells (point :: points) (first :: code ++ text)

/-- A unit in front of a spelled text. -/
theorem Spells.escape (point : UInt16) {points text : List UInt16} (rest : Spells points text) :
    Spells (point :: points) (escapeUnit point ++ text) := by
  obtain ⟨first, code, same, opens⟩ := escapeUnit_head point
  have reads := readUnit_escapeUnit point
  rw [same] at reads ⊢
  exact .cons reads opens rest

/-- A surrogate in front of a spelled text needs no escape. -/
theorem Spells.surrogate {point : UInt16} {points text : List UInt16}
    (surrogate : 0xD800 ≤ point) (rest : Spells points text) :
    Spells (point :: points) (point :: text) := by
  have notBackslash : point ≠ unit '\\' := by
    rintro rfl
    exact absurd surrogate (by decide)
  have notQuote : point ≠ unit '"' := by
    rintro rfl
    exact absurd surrogate (by decide)
  have reads : ∀ tail, readUnit (point :: [] ++ tail) = (point, tail) := by
    intro tail
    simp [readUnit, notBackslash]
  exact .cons reads notQuote rest

/-- What is written for a text spells its units. -/
theorem spells_quoteUnits (points : List UInt16) : Spells points (quoteUnits points) := by
  fun_induction quoteUnits points with
  | case1 => exact .nil
  | case2 single =>
    have alone := Spells.escape single .nil
    rwa [List.append_nil] at alone
  | case3 first second rest pair hypothesis =>
    simp only [JsString.isHigh, JsString.isLow, Bool.and_eq_true, decide_eq_true_eq] at pair
    have low : 0xD800 ≤ second := UInt16.le_trans (by decide) pair.2.1
    exact .surrogate pair.1.1 (.surrogate low hypothesis)
  | case4 first second rest _ hypothesis => exact .escape first hypothesis

/-- A spelled text is read back up to the closing quote. -/
theorem Spells.inj {left right leftText rightText leftTail rightTail : List UInt16}
    (first : Spells left leftText) (second : Spells right rightText)
    (same : leftText ++ unit '"' :: leftTail = rightText ++ unit '"' :: rightTail) :
    left = right ∧ leftTail = rightTail := by
  induction first generalizing right rightText with
  | nil =>
    cases second with
    | nil => exact ⟨rfl, (List.cons.inj same).2⟩
    | cons _ opens _ => exact absurd (List.cons.inj same).1.symm opens
  | cons reads opens _ hypothesis =>
    cases second with
    | nil => exact absurd (List.cons.inj same).1 opens
    | cons otherReads _ otherRest =>
      rw [List.append_assoc, List.append_assoc] at same
      have read := congrArg readUnit same
      rw [reads, otherReads] at read
      obtain ⟨samePoint, sameText⟩ := Prod.mk.inj read
      obtain ⟨samePoints, sameTail⟩ := hypothesis otherRest sameText
      exact ⟨by rw [samePoint, samePoints], sameTail⟩

/-- A quoted text is read back, whatever follows it. -/
theorem quote_inj {left right : JsString} {leftTail rightTail : List UInt16}
    (same : quote left ++ leftTail = quote right ++ rightTail) :
    left = right ∧ leftTail = rightTail := by
  simp only [quote, List.cons_append, List.append_assoc, List.nil_append,
    List.cons.injEq, true_and] at same
  obtain ⟨sameUnits, sameTail⟩ :=
    (spells_quoteUnits left.units).inj (spells_quoteUnits right.units) same
  exact ⟨JsString.ext_units sameUnits, sameTail⟩

/-- A quoted text or the absent value is read back, whatever follows it. -/
theorem quoteNullable_inj {left right : Option JsString} {leftTail rightTail : List UInt16}
    (same : quoteNullable left ++ leftTail = quoteNullable right ++ rightTail) :
    left = right ∧ leftTail = rightTail := by
  have letters : (js "null").units = [unit 'n', unit 'u', unit 'l', unit 'l'] := by decide
  have different (text : JsString) (after behind : List UInt16) :
      quote text ++ after ≠ (js "null").units ++ behind := by
    intro equal
    rw [letters, quote, List.cons_append, List.cons_append, List.cons_append] at equal
    exact absurd (List.cons.inj equal).1 (by decide)
  cases left with
  | none =>
    cases right with
    | none => exact ⟨rfl, List.append_cancel_left same⟩
    | some text => exact absurd same.symm (different text rightTail leftTail)
  | some text =>
    cases right with
    | none => exact absurd same (different text leftTail rightTail)
    | some other =>
      obtain ⟨sameText, sameTail⟩ := quote_inj same
      exact ⟨by rw [sameText], sameTail⟩

/-- Two lists with the same JSON text are the same list. -/
theorem stringifyPair_inj {first otherFirst : Option JsString} {second otherSecond : JsString}
    (same : stringifyPair first second = stringifyPair otherFirst otherSecond) :
    first = otherFirst ∧ second = otherSecond := by
  have units := congrArg JsString.units same
  simp only [stringifyPair, List.cons_append, List.append_assoc, List.cons.injEq,
    true_and] at units
  obtain ⟨sameFirst, rest⟩ := quoteNullable_inj units
  obtain ⟨sameSecond, _⟩ := quote_inj (List.cons.inj rest).2
  exact ⟨sameFirst, sameSecond⟩

end Crewon.Js
