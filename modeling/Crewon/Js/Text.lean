import Mathlib.Algebra.GroupWithZero.Nat
import Mathlib.Data.List.Basic

/-!
# Strings of the host language

A string is a list of UTF-16 code units; a lone surrogate is allowed. The operations are the
ones the program calls on strings: trimming, measuring the UTF-8 encoding, walking the code
points, and the anchored patterns it tests identifiers, digests and timestamps against.
-/

namespace Crewon.Js

/-- A string of the host language, as its UTF-16 code units. -/
structure JsString where
  /-- The code units in order. -/
  units : List UInt16
deriving DecidableEq

/-- The UTF-16 encoding of one code point. -/
def utf16Units (point : Nat) : List UInt16 :=
  if point < 0x10000 then [UInt16.ofNat point]
  else
    let offset := point - 0x10000
    [UInt16.ofNat (0xD800 + offset / 0x400), UInt16.ofNat (0xDC00 + offset % 0x400)]

/-- A literal text as a string of the host language. -/
def js (text : String) : JsString := ⟨text.toList.flatMap fun c => utf16Units c.toNat⟩

/-- The unit of an ASCII character. -/
def unit (c : Char) : UInt16 := UInt16.ofNat c.toNat

namespace JsString

/-- The empty string. -/
def empty : JsString := ⟨[]⟩

/-- The number of code units. -/
def length (text : JsString) : Nat := text.units.length

/-- Concatenation. -/
def append (left right : JsString) : JsString := ⟨left.units ++ right.units⟩

instance : Append JsString := ⟨append⟩

@[simp] theorem units_append (left right : JsString) :
    (left ++ right).units = left.units ++ right.units := rfl

/-- Two strings with the same units are equal. -/
theorem ext_units {left right : JsString} (same : left.units = right.units) : left = right := by
  cases left
  cases right
  simpa using same

/-- White space and line terminators, the units that trimming removes. -/
def isSpace (point : UInt16) : Bool :=
  (9 ≤ point && point ≤ 13) || point == 0x20 || point == 0xA0 || point == 0x1680 ||
    (0x2000 ≤ point && point ≤ 0x200A) || point == 0x2028 || point == 0x2029 ||
    point == 0x202F || point == 0x205F || point == 0x3000 || point == 0xFEFF

/-- The string without white space at either end. -/
def trim (text : JsString) : JsString :=
  ⟨((text.units.dropWhile isSpace).reverse.dropWhile isSpace).reverse⟩

/-- Nothing is left after trimming. -/
def isBlank (text : JsString) : Bool := text.trim.length == 0

/-- A leading surrogate. -/
def isHigh (point : UInt16) : Bool := 0xD800 ≤ point && point < 0xDC00

/-- A trailing surrogate. -/
def isLow (point : UInt16) : Bool := 0xDC00 ≤ point && point < 0xE000

/-- The code points of a list of units; a lone surrogate stands for itself. -/
def pointsOf : List UInt16 → List Nat
  | [] => []
  | [single] => [single.toNat]
  | first :: second :: rest =>
    if isHigh first && isLow second then
      (0x10000 + (first.toNat - 0xD800) * 0x400 + (second.toNat - 0xDC00)) :: pointsOf rest
    else first.toNat :: pointsOf (second :: rest)

/-- The code points, as iteration over the string yields them. -/
def codePoints (text : JsString) : List Nat := pointsOf text.units

/-- The bytes of one code point in UTF-8; a lone surrogate is written as U+FFFD. -/
def utf8Width (point : Nat) : Nat :=
  if point < 0x80 then 1 else if point < 0x800 then 2 else if point < 0x10000 then 3 else 4

/-- The length of the UTF-8 encoding. -/
def byteLength (text : JsString) : Nat := (text.codePoints.map utf8Width).sum

/-- The bytes of a list of units in UTF-8. -/
def unitsWidth (points : List UInt16) : Nat := ((pointsOf points).map utf8Width).sum

/-- A unit outside the surrogates, or a lone one, takes at most three bytes. -/
theorem unitsWidth_cons_le (first : UInt16) (rest : List UInt16) :
    unitsWidth (first :: rest) ≤ utf8Width first.toNat + unitsWidth rest := by
  cases rest with
  | nil => simp [unitsWidth, pointsOf]
  | cons second rest =>
    unfold unitsWidth
    rw [pointsOf]
    split
    case isTrue pair =>
      simp only [isHigh, isLow, Bool.and_eq_true, decide_eq_true_eq] at pair
      have firstLarge : 0xD800 ≤ first.toNat := pair.1.1
      have secondLarge : 0xDC00 ≤ second.toNat := pair.2.1
      have firstBound : first.toNat < 0x10000 := first.toNat_lt
      have secondBound : second.toNat < 0x10000 := second.toNat_lt
      have notHigh : isHigh second = false := by
        simp only [isHigh, Bool.and_eq_false_iff, decide_eq_false_iff_not]
        right
        show ¬ second.toNat < 0xDC00
        omega
      have alone : pointsOf (second :: rest) = second.toNat :: pointsOf rest := by
        cases rest with
        | nil => rfl
        | cons third more => simp [pointsOf, notHigh]
      have firstWidth : utf8Width first.toNat = 3 := by
        unfold utf8Width
        rw [if_neg (by omega), if_neg (by omega), if_pos firstBound]
      have secondWidth : utf8Width second.toNat = 3 := by
        unfold utf8Width
        rw [if_neg (by omega), if_neg (by omega), if_pos secondBound]
      have pairWidth (point : Nat) : utf8Width point ≤ 4 := by
        unfold utf8Width
        split_ifs <;> omega
      have bound := pairWidth (0x10000 + (first.toNat - 0xD800) * 0x400 +
        (second.toNat - 0xDC00))
      rw [alone, List.map_cons, List.sum_cons, List.map_cons, List.sum_cons, firstWidth,
        secondWidth]
      omega
    case isFalse => simp

/-- Joining two strings does not make them longer in UTF-8. -/
theorem byteLength_append_le (left right : JsString) :
    (left ++ right).byteLength ≤ left.byteLength + right.byteLength := by
  show unitsWidth (left.units ++ right.units) ≤ unitsWidth left.units + unitsWidth right.units
  generalize left.units = points
  fun_induction pointsOf points with
  | case1 => simp [unitsWidth, pointsOf]
  | case2 single =>
    have step := unitsWidth_cons_le single right.units
    have alone : unitsWidth [single] = utf8Width single.toNat := by simp [unitsWidth, pointsOf]
    rw [alone]
    exact step
  | case3 first second rest pair hypothesis =>
    simp only [unitsWidth, List.cons_append, pointsOf, pair, ↓reduceIte, List.map_cons,
      List.sum_cons] at hypothesis ⊢
    omega
  | case4 first second rest single hypothesis =>
    simp only [unitsWidth, List.cons_append, pointsOf, single] at hypothesis ⊢
    simp only [Bool.false_eq_true, ↓reduceIte, List.map_cons, List.sum_cons] at hypothesis ⊢
    omega

/-- A string takes at most three bytes for each unit. -/
theorem byteLength_le_length (text : JsString) : text.byteLength ≤ 3 * text.length := by
  show unitsWidth text.units ≤ 3 * text.units.length
  induction text.units with
  | nil => exact Nat.le_refl 0
  | cons first rest hypothesis =>
    have step := unitsWidth_cons_le first rest
    have bound : first.toNat < 0x10000 := first.toNat_lt
    have width : utf8Width first.toNat ≤ 3 := by
      unfold utf8Width
      split_ifs <;> omega
    rw [List.length_cons]
    omega

/-- The string is at most this long in UTF-8. -/
def fitsBytes (text : JsString) (maxBytes : Nat) : Bool := text.byteLength ≤ maxBytes

/-- Some code point is a surrogate without its partner. -/
def hasLoneSurrogate (text : JsString) : Bool :=
  text.codePoints.any fun point => 0xD800 ≤ point && point < 0xE000

/-- A C0 control character. -/
def isControl (point : UInt16) : Bool := point < 0x20

/-- A C0 control character or delete. -/
def isControlOrDelete (point : UInt16) : Bool := point < 0x20 || point == 0x7F

/-- A control character other than tab, line feed and carriage return, or delete. -/
def isTextControl (point : UInt16) : Bool :=
  isControlOrDelete point && !(point == 9 || point == 10 || point == 13)

/-- The order of code units, the order in which strings compare. -/
def unitsBefore : List UInt16 → List UInt16 → Bool
  | [], [] => false
  | [], _ :: _ => true
  | _ :: _, [] => false
  | left :: lefts, right :: rights =>
    left < right || (left == right && unitsBefore lefts rights)

/-- The string comes strictly before the other. -/
def before (left right : JsString) : Bool := unitsBefore left.units right.units

/-- The parts between the occurrences of a unit. -/
def splitOn (text : JsString) (separator : UInt16) : List JsString :=
  (text.units.splitOn separator).map JsString.mk

/-- The string starts with this unit. -/
def startsWith (text : JsString) (first : UInt16) : Bool := text.units.head? == some first

end JsString

/-- A literal text has at most two units for each character. -/
theorem length_js_le (chars : List Char) : (js (String.ofList chars)).length ≤ 2 * chars.length := by
  show ((String.ofList chars).toList.flatMap fun c => utf16Units c.toNat).length ≤ _
  rw [String.toList_ofList]
  induction chars with
  | nil => exact Nat.le_refl 0
  | cons first rest hypothesis =>
    have units : (utf16Units first.toNat).length ≤ 2 := by
      unfold utf16Units
      split <;> simp
    rw [List.flatMap_cons, List.length_append, List.length_cons]
    omega

/-- A literal text takes at most six bytes for each character. -/
theorem byteLength_js_le (chars : List Char) :
    (js (String.ofList chars)).byteLength ≤ 6 * chars.length := by
  have units := length_js_le chars
  have bytes := (js (String.ofList chars)).byteLength_le_length
  omega

/-- An ASCII digit. -/
def isDigit (point : UInt16) : Bool := unit '0' ≤ point && point ≤ unit '9'

/-- A lower case ASCII letter. -/
def isLowerLetter (point : UInt16) : Bool := unit 'a' ≤ point && point ≤ unit 'z'

/-- An ASCII letter or digit. -/
def isAlphanumeric (point : UInt16) : Bool :=
  isDigit point || isLowerLetter point || (unit 'A' ≤ point && point ≤ unit 'Z')

/-- A lower case hexadecimal digit. -/
def isHexDigit (point : UInt16) : Bool :=
  isDigit point || (unit 'a' ≤ point && point ≤ unit 'f')

/-- The pattern `^sha256:[a-f0-9]{64}$`. -/
def isDigest (text : JsString) : Bool :=
  text.units.take 7 == (js "sha256:").units && (text.units.drop 7).all isHexDigit &&
    text.units.length == 71

/-- The pattern `^[A-Za-z0-9][A-Za-z0-9._:-]*$`. -/
def isOpaqueId (text : JsString) : Bool :=
  match text.units with
  | [] => false
  | first :: rest => isAlphanumeric first && rest.all fun point =>
      isAlphanumeric point || point == unit '.' || point == unit '_' || point == unit ':' ||
        point == unit '-'

/-- The pattern `^[a-z0-9][a-z0-9._-]{0,63}$`. -/
def isItemId (text : JsString) : Bool :=
  match text.units with
  | [] => false
  | first :: rest => (isDigit first || isLowerLetter first) && rest.length ≤ 63 &&
      rest.all fun point => isDigit point || isLowerLetter point || point == unit '.' ||
        point == unit '_' || point == unit '-'

/-- The digest whose hexadecimal digits are all the given one. -/
def uniformDigest (digit : Char) : JsString :=
  ⟨(js "sha256:").units ++ List.replicate 64 (unit digit)⟩

end Crewon.Js
