import Crewon.Domain.ThreadGoalPrompt
import Crewon.Verif.GoalSettlement
import Crewon.Verif.GovernedContext

/-!
# The prompts of a goal

The text around the objective leaves room for the notice whatever the counters are, so that a prompt
is never refused; the objective is quoted as a whole when the prompt is short enough, and otherwise
as far as whole characters fit. What is quoted holds no angle bracket.
-/

namespace Crewon.Verif.ThreadGoalPrompt

open Crewon.Js Crewon.Checked Crewon.Domain Crewon.Context
open Crewon.Verif.Characters Crewon.Verif.GovernedContext

/-- Replacing the ampersands first and the angle brackets then escapes every unit once. -/
theorem escapeXmlText_eq (value : JsString) : escapeXmlText value = escapeXml value := by
  unfold escapeXmlText replaceAll escapeXml
  rw [List.flatMap_assoc, List.flatMap_assoc]
  congr 2
  funext point
  unfold escapeXmlUnit
  by_cases ampersand : point = unit '&'
  · rw [if_pos ampersand, if_pos ampersand]
    decide
  · rw [if_neg ampersand, if_neg ampersand, List.flatMap_singleton]
    by_cases less : point = unit '<'
    · rw [if_pos less, if_pos less]
      decide
    · rw [if_neg less, if_neg less, List.flatMap_singleton]

/-- Appending what is written keeps what a fragment keeps. -/
theorem appendEscaped_eq (maximumBytes : Int) (bytes : Nat) (taken : EscapedContent)
    (chars : List JsString) :
    appendEscaped maximumBytes bytes taken.escaped chars =
      (takeCharacters maximumBytes bytes taken chars).escaped := by
  induction chars generalizing bytes taken with
  | nil => rfl
  | cons character rest hypothesis =>
    rw [appendEscaped, takeCharacters, escapeXmlText_eq]
    split_ifs
    · rfl
    · exact hypothesis _ ⟨taken.content ++ character, taken.escaped ++ escapeXml character⟩

/-- What is quoted of an objective is the longest part that fits. -/
theorem projectEscapedXmlText_longest (objective : JsString) {maximumBytes : Int}
    (room : 0 ≤ maximumBytes) :
    LongestFitting objective maximumBytes (projectEscapedXmlText objective maximumBytes) := by
  have same : projectEscapedXmlText objective maximumBytes =
      (projectEscapedContent objective maximumBytes).escaped :=
    appendEscaped_eq maximumBytes 0 ⟨.empty, .empty⟩ (characters objective)
  rw [same]
  exact projectEscapedContent_longest objective room

/-- A prompt is short, quotes the objective as a whole when it can and otherwise the longest part
that fits before the notice, and quotes no angle bracket. -/
structure BoundedPrompt (objective : JsString) (render : JsString → JsString) (prompt : JsString) :
    Prop where
  short : prompt.byteLength ≤ maxThreadGoalSteeringPromptBytes
  whole : (render (escapeXmlText objective)).byteLength ≤ maxThreadGoalSteeringPromptBytes →
    prompt = render (escapeXmlText objective)
  cut : maxThreadGoalSteeringPromptBytes < (render (escapeXmlText objective)).byteLength →
    ∃ count, prompt = render (escapeXmlText (firstCharacters objective count) ++
        truncatedGoalObjectiveNotice) ∧
      ∀ other, (render (escapeXmlText (firstCharacters objective other) ++
          truncatedGoalObjectiveNotice)).byteLength ≤ maxThreadGoalSteeringPromptBytes →
        (escapeXmlText (firstCharacters objective other)).length ≤
          (escapeXmlText (firstCharacters objective count)).length
  inert : ∃ quoted, prompt = render quoted ∧ hasAngle quoted.units = false

set_option maxRecDepth 4000 in
/-- The notice begins with a line feed and holds no angle bracket. -/
theorem notice_plain : truncatedGoalObjectiveNotice.units.head? = some (unit '\n') ∧
    hasAngle truncatedGoalObjectiveNotice.units = false := by
  decide_cbv

/-- The bytes of a quoted part and the notice. -/
theorem byteLength_notice (quoted : JsString) :
    (quoted ++ truncatedGoalObjectiveNotice).byteLength =
      quoted.byteLength + truncatedGoalObjectiveNotice.byteLength := by
  refine byteLength_append fun last _ next member => ?_
  rw [notice_plain.1] at member
  obtain rfl : unit '\n' = next := Option.some.inj member
  have low : JsString.isLow (unit '\n') = false := by decide
  rw [low, Bool.and_false]

section Render

variable {before after : JsString}
  (front : ∀ last ∈ before.units.getLast?, JsString.isHigh last = false)
  (back : ∀ next ∈ after.units.head?, JsString.isLow next = false)

include front back

/-- The bytes of a prompt are those of its parts. -/
theorem byteLength_render (quoted : JsString) :
    (before ++ quoted ++ after).byteLength =
      before.byteLength + quoted.byteLength + after.byteLength := by
  have outer : (before ++ quoted ++ after).byteLength =
      (before ++ quoted).byteLength + after.byteLength := by
    refine byteLength_append fun last _ next member => ?_
    rw [back next member, Bool.and_false]
  have inner : (before ++ quoted).byteLength = before.byteLength + quoted.byteLength := by
    refine byteLength_append fun last member next _ => ?_
    rw [front last member, Bool.false_and]
  omega

/-- A prompt around any objective is bounded when there is room for the notice. -/
theorem boundedThreadGoalObjectivePrompt_sound
    (room : before.byteLength + truncatedGoalObjectiveNotice.byteLength + after.byteLength ≤
      maxThreadGoalSteeringPromptBytes) (objective : JsString) (errorCode : String) :
    ∃ prompt, boundedThreadGoalObjectivePrompt objective
        (fun quoted => before ++ quoted ++ after) errorCode = .ok prompt ∧
      BoundedPrompt objective (fun quoted => before ++ quoted ++ after) prompt := by
  have plain : hasAngle (escapeXmlText objective).units = false := by
    rw [escapeXmlText_eq]
    exact hasAngle_escapeXml objective
  unfold boundedThreadGoalObjectivePrompt
  dsimp only
  by_cases short : (before ++ escapeXmlText objective ++ after).byteLength ≤
      maxThreadGoalSteeringPromptBytes
  · refine ⟨_, if_pos short, ?_⟩
    exact ⟨short, fun _ => rfl, fun long => absurd short (Nat.not_le.mpr long), _, rfl, plain⟩
  · rw [if_neg short]
    have fixed := byteLength_render front back truncatedGoalObjectiveNotice
    generalize budgetOf : (maxThreadGoalSteeringPromptBytes : Int) -
      (before ++ truncatedGoalObjectiveNotice ++ after).byteLength = budget
    have nonnegative : 0 ≤ budget := by omega
    obtain ⟨_, fits, count, same, most⟩ := projectEscapedXmlText_longest objective nonnegative
    have bytes := byteLength_render front back
      (projectEscapedXmlText objective budget ++ truncatedGoalObjectiveNotice)
    rw [byteLength_notice] at bytes
    have within : (before ++ (projectEscapedXmlText objective budget ++
        truncatedGoalObjectiveNotice) ++ after).byteLength ≤ maxThreadGoalSteeringPromptBytes := by
      omega
    have accepted : ¬ budget < 0 := Int.not_lt.mpr nonnegative
    refine ⟨_, ?_, within, fun long => absurd long short, fun _ => ⟨count, ?_, ?_⟩, _, rfl, ?_⟩
    · refine bind_eq_ok.mpr ⟨(), rejectIf_eq_ok.mpr accepted, ?_⟩
      exact bind_eq_ok.mpr ⟨(), rejectIf_eq_ok.mpr (Nat.not_lt.mpr within), rfl⟩
    · rw [same, escapeXmlText_eq]
    · intro other fitsOther
      rw [byteLength_render front back, byteLength_notice, escapeXmlText_eq] at fitsOther
      rw [escapeXmlText_eq, escapeXmlText_eq, ← same]
      exact most other (by omega)
    · rw [same, JsString.units_append, hasAngle_append, hasAngle_escapeXml, notice_plain.2]
      rfl

end Render

/-! ## The three prompts -/

/-- A safe number is written with at most sixteen bytes. -/
theorem byteLength_safe_le {value : Int} (counted : isNonNegativeInteger value = true) :
    (decimal value).byteLength ≤ 16 := by
  obtain ⟨nonnegative, safe⟩ := isNonNegativeInteger_iff.mp counted
  obtain ⟨number, rfl⟩ := Int.eq_ofNat_of_zero_le nonnegative
  unfold maxSafeInteger at safe
  exact byteLength_decimal_le (by decide) (by omega)

/-- The counters of a valid goal. -/
theorem counters_of_valid {goal : ThreadGoal} (valid : validateThreadGoal goal = .ok ()) :
    (∀ budget ∈ goal.tokenBudget, isPositiveInteger budget = true) ∧
      isNonNegativeInteger goal.tokensUsed = true ∧
      isNonNegativeInteger goal.timeUsedSeconds = true := by
  simp only [validateThreadGoal, bind_eq_ok, exists_unit, whenPresent_eq_ok,
    requirePositiveInteger, requireNonNegativeInteger, rejectIf_eq_ok] at valid
  obtain ⟨_, _, _, _, _, _, budget, tokens, time, _⟩ := valid
  exact ⟨fun value present => by simpa using budget value present, by simpa using tokens,
    by simpa using time⟩

/-- The budget is written with at most sixteen bytes. -/
theorem tokenBudgetText_le {goal : ThreadGoal} (valid : validateThreadGoal goal = .ok ()) :
    (tokenBudgetText goal).byteLength ≤ 16 := by
  unfold tokenBudgetText
  cases budgetOf : goal.tokenBudget with
  | none => decide
  | some budget =>
    have positive := isPositiveInteger_iff.mp ((counters_of_valid valid).1 budget budgetOf)
    exact byteLength_safe_le (isNonNegativeInteger_iff.mpr ⟨by omega, positive.2⟩)

/-- The rest of the budget is written with at most sixteen bytes. -/
theorem remainingTokensText_le {goal : ThreadGoal} (valid : validateThreadGoal goal = .ok ())
    {unbounded : String} (short : (js unbounded).byteLength ≤ 16) :
    (remainingTokensText goal unbounded).byteLength ≤ 16 := by
  unfold remainingTokensText
  cases budgetOf : goal.tokenBudget with
  | none => exact short
  | some budget =>
    have positive := isPositiveInteger_iff.mp ((counters_of_valid valid).1 budget budgetOf)
    have used := isNonNegativeInteger_iff.mp (counters_of_valid valid).2.1
    have remaining : isNonNegativeInteger (max 0 (budget - goal.tokensUsed)) = true :=
      isNonNegativeInteger_iff.mpr ⟨by omega, by omega⟩
    exact byteLength_safe_le remaining

set_option maxRecDepth 100000 in
/-- The bytes of the texts of all prompts. -/
theorem common_bytes :
    truncatedGoalObjectiveNotice.byteLength = 121 ∧ tokenBudgetLabel.byteLength = 17 ∧
      tokensRemainingLabel.byteLength = 21 := by
  refine ⟨?_, ?_, ?_⟩
  · exact (byteLength_ofList _).trans rfl
  · exact (byteLength_ofList _).trans rfl
  · exact (byteLength_ofList _).trans rfl

set_option maxRecDepth 100000 in
/-- The bytes of the continuation prompt. -/
theorem continuation_bytes :
    continuationOpening.byteLength = 186 ∧ continuationBehavior.byteLength = 556 ∧
      continuationWork.byteLength = 1132 ∧ continuationCompletionAudit.byteLength = 2884 ∧
      continuationBlockedAudit.byteLength = 1194 := by
  refine ⟨?_, ?_, ?_, ?_, ?_⟩
  · exact (byteLength_ofList _).trans rfl
  · exact (byteLength_ofList _).trans rfl
  · exact (byteLength_ofList _).trans rfl
  · exact (byteLength_ofList _).trans rfl
  · exact (byteLength_ofList _).trans rfl

set_option maxRecDepth 100000 in
/-- The bytes of the two other prompts. -/
theorem steering_bytes :
    objectiveUpdatedOpening.byteLength = 236 ∧ objectiveUpdatedUsage.byteLength = 53 ∧
      objectiveUpdatedClosing.byteLength = 244 ∧ budgetLimitedOpening.byteLength = 176 ∧
      budgetLimitedTime.byteLength = 66 ∧ budgetLimitedUsage.byteLength = 24 ∧
      budgetLimitedClosing.byteLength = 253 := by
  refine ⟨?_, ?_, ?_, ?_, ?_, ?_, ?_⟩
  · exact (byteLength_ofList _).trans rfl
  · exact (byteLength_ofList _).trans rfl
  · exact (byteLength_ofList _).trans rfl
  · exact (byteLength_ofList _).trans rfl
  · exact (byteLength_ofList _).trans rfl
  · exact (byteLength_ofList _).trans rfl
  · exact (byteLength_ofList _).trans rfl

/-- A prompt of an opening, the objective and further parts. -/
def around (opening : JsString) (parts : List JsString) (quoted : JsString) : JsString :=
  opening ++ quoted ++ ⟨parts.flatMap JsString.units⟩

/-- Such a prompt is bounded when its parts leave room for the notice. -/
theorem around_sound {opening first : JsString} {parts : List JsString}
    (plain : ∀ point ∈ opening.units, JsString.isHigh point = false)
    (begins : first.units.head? = some (unit '\n'))
    (room : opening.byteLength + ((first :: parts).map JsString.byteLength).sum ≤ 9878)
    (objective : JsString) (errorCode : String) :
    ∃ prompt, boundedThreadGoalObjectivePrompt objective (around opening (first :: parts))
        errorCode = .ok prompt ∧
      BoundedPrompt objective (around opening (first :: parts)) prompt := by
  refine boundedThreadGoalObjectivePrompt_sound ?_ ?_ ?_ objective errorCode
  · exact fun last member => plain last (List.mem_of_getLast? member)
  · intro next member
    rw [List.flatMap_cons, List.head?_append, begins] at member
    obtain rfl : unit '\n' = next := Option.some.inj member
    decide
  · have rest := byteLength_parts_le (first :: parts)
    have notice := common_bytes.1
    unfold maxThreadGoalSteeringPromptBytes
    omega

/-- The continuation prompt around an objective. -/
def continuationRender (goal : ThreadGoal) : JsString → JsString :=
  around continuationOpening [continuationBehavior, decimal goal.tokensUsed, tokenBudgetLabel,
    tokenBudgetText goal, tokensRemainingLabel, remainingTokensText goal "unbounded",
    continuationWork, continuationCompletionAudit, continuationBlockedAudit]

/-- The prompt of an edited objective around it. -/
def objectiveUpdatedRender (goal : ThreadGoal) : JsString → JsString :=
  around objectiveUpdatedOpening [objectiveUpdatedUsage, decimal goal.tokensUsed,
    tokenBudgetLabel, tokenBudgetText goal, tokensRemainingLabel,
    remainingTokensText goal "unknown", objectiveUpdatedClosing]

/-- The prompt of a reached budget around an objective. -/
def budgetLimitedRender (goal : ThreadGoal) : JsString → JsString :=
  around budgetLimitedOpening [budgetLimitedTime, decimal goal.timeUsedSeconds,
    budgetLimitedUsage, decimal goal.tokensUsed, tokenBudgetLabel, tokenBudgetText goal,
    budgetLimitedClosing]

section Valid

variable {goal : ThreadGoal} (valid : validateThreadGoal goal = .ok ())

include valid

set_option maxRecDepth 100000 in
/-- The continuation prompt of a valid goal. -/
theorem continuation_sound :
    ∃ prompt, threadGoalContinuationPrompt goal = .ok prompt ∧
      BoundedPrompt goal.objective (continuationRender goal) prompt := by
  have render : (fun quoted => continuationOpening ++ quoted ++ continuationBehavior ++
      decimal goal.tokensUsed ++ tokenBudgetLabel ++ tokenBudgetText goal ++
      tokensRemainingLabel ++ remainingTokensText goal "unbounded" ++ continuationWork ++
      continuationCompletionAudit ++ continuationBlockedAudit) = continuationRender goal := by
    funext quoted
    exact JsString.ext_units (by simp [continuationRender, around])
  rw [threadGoalContinuationPrompt, render]
  obtain ⟨opening, behavior, work, completion, blocked⟩ := continuation_bytes
  obtain ⟨_, label, remainingLabel⟩ := common_bytes
  have used := byteLength_safe_le (counters_of_valid valid).2.1
  have budget := tokenBudgetText_le valid
  have remaining := remainingTokensText_le valid (show (js "unbounded").byteLength ≤ 16 by decide)
  have plain : ∀ point ∈ continuationOpening.units, JsString.isHigh point = false :=
    plain_ofList (by decide)
  have begins : continuationBehavior.units.head? = some (unit '\n') := head_ofList (by decide)
  refine around_sound plain begins ?_ _ _
  simp only [List.map_cons, List.map_nil, List.sum_cons, List.sum_nil, opening, behavior, work,
    completion, blocked, label, remainingLabel]
  linarith only [used, budget, remaining]

set_option maxRecDepth 100000 in
/-- The prompt of an edited objective of a valid goal. -/
theorem objectiveUpdated_sound (active : goal.status = .active) :
    ∃ prompt, threadGoalSteeringPrompt goal .objectiveUpdated = .ok prompt ∧
      BoundedPrompt goal.objective (objectiveUpdatedRender goal) prompt := by
  have render : (fun quoted => objectiveUpdatedOpening ++ quoted ++ objectiveUpdatedUsage ++
      decimal goal.tokensUsed ++ tokenBudgetLabel ++ tokenBudgetText goal ++
      tokensRemainingLabel ++ remainingTokensText goal "unknown" ++ objectiveUpdatedClosing) =
      objectiveUpdatedRender goal := by
    funext quoted
    exact JsString.ext_units (by simp [objectiveUpdatedRender, around])
  have admitted : ¬ goal.status ≠ .active := not_not.mpr active
  rw [threadGoalSteeringPrompt, render, @rejectIf_eq_ok _ _ _ _ () |>.mpr admitted, ok_bind]
  obtain ⟨opening, usage, closing, _⟩ := steering_bytes
  obtain ⟨_, label, remainingLabel⟩ := common_bytes
  have used := byteLength_safe_le (counters_of_valid valid).2.1
  have budget := tokenBudgetText_le valid
  have remaining := remainingTokensText_le valid (show (js "unknown").byteLength ≤ 16 by decide)
  have plain : ∀ point ∈ objectiveUpdatedOpening.units, JsString.isHigh point = false :=
    plain_ofList (by decide)
  have begins : objectiveUpdatedUsage.units.head? = some (unit '\n') := head_ofList (by decide)
  refine around_sound plain begins ?_ _ _
  simp only [List.map_cons, List.map_nil, List.sum_cons, List.sum_nil, opening, usage, closing,
    label, remainingLabel]
  linarith only [used, budget, remaining]

set_option maxRecDepth 100000 in
/-- The prompt of a reached budget of a valid goal. -/
theorem budgetLimited_sound (limited : goal.status = .budgetLimited) :
    ∃ prompt, threadGoalSteeringPrompt goal .budgetLimited = .ok prompt ∧
      BoundedPrompt goal.objective (budgetLimitedRender goal) prompt := by
  have render : (fun quoted => budgetLimitedOpening ++ quoted ++ budgetLimitedTime ++
      decimal goal.timeUsedSeconds ++ budgetLimitedUsage ++ decimal goal.tokensUsed ++
      tokenBudgetLabel ++ tokenBudgetText goal ++ budgetLimitedClosing) =
      budgetLimitedRender goal := by
    funext quoted
    exact JsString.ext_units (by simp [budgetLimitedRender, around])
  have admitted : ¬ goal.status ≠ .budgetLimited := not_not.mpr limited
  rw [threadGoalSteeringPrompt, render, @rejectIf_eq_ok _ _ _ _ () |>.mpr admitted, ok_bind]
  obtain ⟨_, _, _, opening, time, usage, closing⟩ := steering_bytes
  obtain ⟨_, label, remainingLabel⟩ := common_bytes
  have used := byteLength_safe_le (counters_of_valid valid).2.1
  have timeUsed := byteLength_safe_le (counters_of_valid valid).2.2
  have budget := tokenBudgetText_le valid
  have plain : ∀ point ∈ budgetLimitedOpening.units, JsString.isHigh point = false :=
    plain_ofList (by decide)
  have begins : budgetLimitedTime.units.head? = some (unit '\n') := head_ofList (by decide)
  refine around_sound plain begins ?_ _ _
  simp only [List.map_cons, List.map_nil, List.sum_cons, List.sum_nil, opening, time, usage,
    closing, label]
  linarith only [used, timeUsed, budget]

end Valid

/-- Every valid goal has its prompts, whatever its objective and its counters are: they are never
refused, they are short, they quote the objective as far as whole characters fit, and what they
quote holds no angle bracket. -/
theorem prompts_sound (goal : ThreadGoal) (valid : validateThreadGoal goal = .ok ()) :
    (∃ prompt, threadGoalContinuationPrompt goal = .ok prompt ∧
      BoundedPrompt goal.objective (continuationRender goal) prompt) ∧
    (goal.status = .active → ∃ prompt,
      threadGoalSteeringPrompt goal .objectiveUpdated = .ok prompt ∧
        BoundedPrompt goal.objective (objectiveUpdatedRender goal) prompt) ∧
    (goal.status = .budgetLimited → ∃ prompt,
      threadGoalSteeringPrompt goal .budgetLimited = .ok prompt ∧
        BoundedPrompt goal.objective (budgetLimitedRender goal) prompt) :=
  ⟨continuation_sound valid, objectiveUpdated_sound valid, budgetLimited_sound valid⟩

/-- The prompts of the sample goal, which is active. -/
theorem prompts_sample :
    validateThreadGoal GoalSettlement.sampleGoal = .ok () ∧
      ∃ prompt, threadGoalSteeringPrompt GoalSettlement.sampleGoal .objectiveUpdated = .ok prompt ∧
        BoundedPrompt (js "o") (objectiveUpdatedRender GoalSettlement.sampleGoal) prompt :=
  have valid := GoalSettlement.sampleGoal_valid.1
  ⟨valid, (prompts_sound GoalSettlement.sampleGoal valid).2.1 rfl⟩

end Crewon.Verif.ThreadGoalPrompt
