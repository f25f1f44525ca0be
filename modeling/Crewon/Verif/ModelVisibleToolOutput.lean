import Crewon.ToolBroker.ModelVisibleToolOutput
import Crewon.Verif.Characters

/-!
# Cutting the output of a tool

The two loops take a beginning and an end of whole characters that share none and fit their budget,
and the reserve holds the line between them, whatever number it states. So a cut is never refused,
what a model sees is never too long, and the line states what is left out.
-/

namespace Crewon.Verif.ModelVisibleToolOutput

open Crewon.Js Crewon.Checked Crewon.Domain Crewon.Context Crewon.ToolBroker
open Crewon.Verif.Characters

/-- Entries are taken from the front. -/
theorem takeFitting_prefix (budget bytes : Nat) (values : List JsString) :
    takeFitting budget bytes values <+: values := by
  fun_induction takeFitting budget bytes values with
  | case1 => exact List.prefix_refl []
  | case2 bytes value rest fits hypothesis =>
    obtain ⟨later, together⟩ := hypothesis
    exact ⟨later, by rw [List.cons_append, together]⟩
  | case3 bytes value rest full => exact List.nil_prefix

/-- The entries that are taken fit the budget. -/
theorem takeFitting_fits {budget bytes : Nat} (room : bytes ≤ budget) (values : List JsString) :
    bytes + bytesOf (takeFitting budget bytes values) ≤ budget := by
  fun_induction takeFitting budget bytes values with
  | case1 bytes => simpa [bytesOf] using room
  | case2 bytes value rest fits hypothesis =>
    have later := hypothesis fits
    unfold bytesOf at later ⊢
    rw [List.map_cons, List.sum_cons]
    omega
  | case3 bytes value rest full => simpa [bytesOf] using room

/-- The entries that are taken from behind. -/
theorem bytesOf_reverse (values : List JsString) : bytesOf values.reverse = bytesOf values := by
  unfold bytesOf
  rw [List.map_reverse, List.sum_reverse]

/-- Characters in a row are the units of each. -/
theorem join_mk (values : List (List UInt16)) :
    join (values.map JsString.mk) = ⟨values.flatten⟩ := by
  unfold join
  rw [List.flatMap_map]
  simp [List.flatMap]

/-- All characters of a text in a row are the text. -/
theorem join_characters (text : JsString) : join (characters text) = text := by
  rw [characters, join_mk, charactersOf_flatten]

/-- Entries in two parts have the bytes of both. -/
theorem bytesOf_append (front back : List JsString) :
    bytesOf (front ++ back) = bytesOf front + bytesOf back := by
  unfold bytesOf
  rw [List.map_append, List.sum_append]

/-- A row of characters of a text has the bytes of each. -/
theorem byteLength_join {text : JsString} {front middle back : List JsString}
    (split : characters text = front ++ middle ++ back) :
    (join middle).byteLength = bytesOf middle := by
  obtain ⟨start, ends, whole, startOf, rfl⟩ := List.map_eq_append_iff.mp split
  obtain ⟨first, second, rfl, rfl, rfl⟩ := List.map_eq_append_iff.mp startOf
  rw [join_mk, bytesOf, List.map_map]
  exact unitsWidth_flatten whole

/-- The line fits the reserve. -/
theorem byteLength_omissionMarker_le {omitted : Nat} (small : omitted < 10 ^ 40) :
    (omissionMarker omitted).byteLength ≤ 64 := by
  have number := byteLength_decimal_le (by decide) small
  have start : (js "\n…").byteLength = 4 := by decide
  have finish : (js " bytes truncated…\n").byteLength = 20 := by decide
  have joined := (js "\n…" ++ decimal (omitted : Int)).byteLength_append_le (js " bytes truncated…\n")
  have front := (js "\n…").byteLength_append_le (decimal (omitted : Int))
  unfold omissionMarker
  omega

/-- What the two loops take: a beginning and an end that share nothing and fit the budget. -/
theorem cut_spec (output : JsString) {budget half : Nat} (smaller : half ≤ budget) :
    let head := takeFitting half 0 (characters output)
    let tail := (takeFitting (budget - bytesOf head) 0
      ((characters output).drop head.length).reverse).reverse
    bytesOf head + bytesOf tail ≤ budget ∧
      ∃ middle, characters output = head ++ middle ++ tail := by
  intro head tail
  obtain ⟨rest, front⟩ := takeFitting_prefix half 0 (characters output)
  have remaining : (characters output).drop head.length = rest := by
    rw [← front, List.drop_left']
    rfl
  obtain ⟨middle, back⟩ := takeFitting_prefix (budget - bytesOf head) 0 rest.reverse
  have headFits := takeFitting_fits (Nat.zero_le half) (characters output)
  have tailFits := takeFitting_fits (Nat.zero_le (budget - bytesOf head)) rest.reverse
  have tailOf : tail = (takeFitting (budget - bytesOf head) 0 rest.reverse).reverse := by
    show (takeFitting (budget - bytesOf head) 0
      ((characters output).drop head.length).reverse).reverse = _
    rw [remaining]
  refine ⟨?_, middle.reverse, ?_⟩
  · rw [tailOf, bytesOf_reverse]
    show bytesOf (takeFitting half 0 (characters output)) + _ ≤ _
    have share : bytesOf head = bytesOf (takeFitting half 0 (characters output)) := rfl
    omega
  · have whole : rest = middle.reverse ++ tail := by
      rw [tailOf, ← List.reverse_append, back, List.reverse_reverse]
    rw [List.append_assoc, ← whole]
    exact front.symm

/-- Every output that has fewer than 2⁵³ bytes, the most an encoding can have, is cut without being
refused: a short one stays, and of a long one a beginning and an end of whole characters that share
none, with a line between them that states the bytes left out. -/
theorem modelVisibleToolOutput_sound (output : JsString) (encodable : output.byteLength < 2 ^ 53) :
    (output.byteLength ≤ 40000 → modelVisibleToolOutput output = .ok ⟨output, false⟩) ∧
    (40000 < output.byteLength → ∃ head middle tail : List JsString,
      characters output = head ++ middle ++ tail ∧
      ∃ (visible : JsString) (omitted : Nat), modelVisibleToolOutput output = .ok ⟨visible, true⟩ ∧
        visible = join head ++ omissionMarker omitted ++ join tail ∧
        visible.byteLength ≤ 40000 ∧
        output.byteLength = (join head).byteLength + omitted + (join tail).byteLength) := by
  constructor
  · intro short
    rw [modelVisibleToolOutput]
    exact if_pos short
  · intro long
    obtain ⟨fits, middle, split⟩ := cut_spec output
      (show (maxModelVisibleToolOutputBytes - 64) / 2 ≤ maxModelVisibleToolOutputBytes - 64 by
        decide)
    generalize headOf : takeFitting ((maxModelVisibleToolOutputBytes - 64) / 2) 0
      (characters output) = head at fits split
    generalize tailOf : (takeFitting (maxModelVisibleToolOutputBytes - 64 - bytesOf head) 0
      ((characters output).drop head.length).reverse).reverse = tail at fits split
    have headBytes : (join head).byteLength = bytesOf head :=
      byteLength_join (show characters output = [] ++ head ++ (middle ++ tail) by
        rw [split, List.nil_append, List.append_assoc])
    have tailBytes : (join tail).byteLength = bytesOf tail :=
      byteLength_join (show characters output = (head ++ middle) ++ tail ++ [] by
        rw [split, List.append_nil])
    have total : output.byteLength = bytesOf head + bytesOf middle + bytesOf tail := by
      have whole : (join (characters output)).byteLength = bytesOf (characters output) :=
        byteLength_join (show characters output = [] ++ characters output ++ [] by
          rw [List.nil_append, List.append_nil])
      rw [join_characters, split, bytesOf_append, bytesOf_append] at whole
      exact whole
    have omitted : (output.byteLength : Int) - bytesOf head - bytesOf tail =
        (bytesOf middle : Nat) := by omega
    have notShort : ¬ output.byteLength ≤ maxModelVisibleToolOutputBytes := Nat.not_le.mpr long
    have visible : ¬ maxModelVisibleToolOutputBytes <
        (join head ++ omissionMarker (bytesOf middle) ++ join tail).byteLength := by
      have marker := byteLength_omissionMarker_le (show bytesOf middle < 10 ^ 40 by omega)
      have front := (join head).byteLength_append_le (omissionMarker (bytesOf middle))
      have whole := (join head ++ omissionMarker (bytesOf middle)).byteLength_append_le (join tail)
      unfold maxModelVisibleToolOutputBytes at fits ⊢
      omega
    refine ⟨head, middle, tail, split, _, bytesOf middle, ?_, rfl, Nat.not_lt.mp visible, by omega⟩
    unfold modelVisibleToolOutput
    dsimp only
    rw [headOf, tailOf, omitted, if_neg notShort, if_neg visible]

theorem modelVisibleToolOutput_sample :
    modelVisibleToolOutput (js "done") = .ok ⟨js "done", false⟩ :=
  (modelVisibleToolOutput_sound (js "done") (by decide)).1 (by decide)

end Crewon.Verif.ModelVisibleToolOutput
