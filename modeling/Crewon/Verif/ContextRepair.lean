import Crewon.Verif.ModelHistoryProjection
import Mathlib

/-!
# The repair of tool calls and results

What a model is shown pairs every call with one result behind it. A result that answers no call is
dropped, a call without a result is given one, and nothing else changes; a second normalisation
changes nothing more.
-/

namespace Crewon.Verif.ContextRepair

open Crewon.Js Crewon.Checked Crewon.Domain Crewon.Lib Crewon.Context
open Crewon.Verif.ModelHistoryProjection

/-- The item is the call of a kind with an id. -/
def isCall (kind : ModelHistoryToolKind) (callId : JsString) : ContextHistoryItem → Bool
  | .toolCall found id _ _ => found = kind ∧ id = callId
  | _ => false

/-- The item is a result of a kind for an id. -/
def isResult (kind : ModelHistoryToolKind) (callId : JsString) : ContextHistoryItem → Bool
  | .toolResult found id _ => found = kind ∧ id = callId
  | _ => false

/-- Going back from the end, the call comes before any result for it. -/
def pending (kind : ModelHistoryToolKind) (callId : JsString)
    (before : List ContextProjectionEntry) : Bool :=
  (before.reverse.takeWhile fun entry => !isResult kind callId entry.item).any fun entry =>
    isCall kind callId entry.item

/-- Some result for the call comes later. -/
def answered (kind : ModelHistoryToolKind) (callId : JsString)
    (after : List ContextProjectionEntry) : Bool :=
  after.any fun entry => isResult kind callId entry.item

/-- What is shown of an entry between others: all of it, but for a result that answers no call, and
with a result behind a call that has none. -/
def shownOf (before : List ContextProjectionEntry) (entry : ContextProjectionEntry)
    (after : List ContextProjectionEntry) : List ContextProjectionEntry :=
  match entry.item with
  | .message _ _ => [entry]
  | .toolCall kind callId _ _ =>
    if answered kind callId after then [entry]
    else [entry, ⟨entry.sourceSequence, .toolResult kind callId missingToolResultOutput⟩]
  | .toolResult kind callId _ => if pending kind callId before then [entry] else []

/-- The change made to an entry between others. -/
def changeOf (before : List ContextProjectionEntry) (entry : ContextProjectionEntry)
    (after : List ContextProjectionEntry) : List ContextHistoryRepair :=
  match entry.item with
  | .message _ _ => []
  | .toolCall kind callId _ _ =>
    if answered kind callId after then [] else [⟨.missingToolResultInserted, kind, callId⟩]
  | .toolResult kind callId _ =>
    if pending kind callId before then [] else [⟨.orphanToolResultDropped, kind, callId⟩]

/-- What is shown of entries behind others. -/
def shown : List ContextProjectionEntry → List ContextProjectionEntry → List ContextProjectionEntry
  | _, [] => []
  | before, entry :: after => shownOf before entry after ++ shown (before ++ [entry]) after

/-- The changes made to entries behind others. -/
def changes : List ContextProjectionEntry → List ContextProjectionEntry → List ContextHistoryRepair
  | _, [] => []
  | before, entry :: after => changeOf before entry after ++ changes (before ++ [entry]) after

/-- Every call is followed by exactly one result for it, and every result follows its call. -/
structure Paired (items : List ContextHistoryItem) : Prop where
  /-- One result of the kind and the id of a call comes behind it. -/
  answered : ∀ before call after kind callId, items = before ++ call :: after →
    isCall kind callId call = true → after.countP (isResult kind callId) = 1
  /-- The call of the kind and the id of a result comes before it. -/
  follows : ∀ before result after kind callId, items = before ++ result :: after →
    isResult kind callId result = true → before.any (isCall kind callId) = true

variable {kind : ModelHistoryToolKind} {callId : JsString}

/-- A call is the call of its kind with its id. -/
theorem isCall_iff {item : ContextHistoryItem} :
    isCall kind callId item = true ↔ ∃ name input, item = .toolCall kind callId name input := by
  cases item <;> simp [isCall]

/-- A result is a result of its kind for its id. -/
theorem isResult_iff {item : ContextHistoryItem} :
    isResult kind callId item = true ↔ ∃ output, item = .toolResult kind callId output := by
  cases item <;> simp [isResult]

/-- A call waits behind one more entry, unless this is a result for it. -/
theorem pending_concat (before : List ContextProjectionEntry) (entry : ContextProjectionEntry) :
    pending kind callId (before ++ [entry]) =
      (!isResult kind callId entry.item &&
        (isCall kind callId entry.item || pending kind callId before)) := by
  unfold pending
  rw [List.reverse_concat, List.takeWhile_cons]
  cases isResult kind callId entry.item <;> simp

/-- A call waits until there is a result for it, when it is not called again. -/
theorem pending_append {before after : List ContextProjectionEntry}
    (once : ∀ entry ∈ after, isCall kind callId entry.item = false) :
    pending kind callId (before ++ after) =
      (pending kind callId before && !answered kind callId after) := by
  induction after using List.reverseRecOn with
  | nil => simp [answered]
  | append_singleton init last hypothesis =>
    have own : isCall kind callId last.item = false := once last (by simp)
    have earlier := hypothesis fun entry member => once entry (List.mem_append_left _ member)
    rw [← List.append_assoc, pending_concat, earlier, own]
    simp only [answered, List.any_append, List.any_cons, List.any_nil]
    cases isResult kind callId last.item <;> simp

/-- Entries that call no id call it with no kind. -/
theorem not_isCall_of_uncalled {entries : List ContextProjectionEntry}
    (uncalled : callId ∉ entries.filterMap calledId) :
    ∀ entry ∈ entries, isCall kind callId entry.item = false := by
  intro entry member
  by_contra called
  rw [Bool.not_eq_false] at called
  obtain ⟨name, input, said⟩ := isCall_iff.mp called
  exact uncalled (List.mem_filterMap.mpr ⟨entry, member, by simp [calledId, said]⟩)

/-- An entry that is a call calls its id. -/
theorem calledId_of_isCall {entry : ContextProjectionEntry}
    (called : isCall kind callId entry.item = true) : calledId entry = some callId := by
  obtain ⟨name, input, said⟩ := isCall_iff.mp called
  simp [calledId, said]

variable (callId) in
/-- What is found under an id after collecting is an earlier call or the call at its place. -/
theorem callsFrom_find {entries : List ContextProjectionEntry} {calls : IndexedCalls}
    (fresh : ∀ callId ∈ entries.filterMap calledId, calls.find callId = none)
    (distinct : (entries.filterMap calledId).Nodup) (index : Nat) (found : IndexedCall) :
    (callsFrom index calls entries).find callId = some found ↔
      calls.find callId = some found ∨ ∃ before call after, entries = before ++ call :: after ∧
        found.index = index + before.length ∧ isCall found.kind callId call.item = true := by
  induction entries generalizing calls index with
  | nil => simp [callsFrom]
  | cons entry rest hypothesis =>
    -- the call is at the head or further on
    have places : (∃ before call after, entry :: rest = before ++ call :: after ∧
          found.index = index + before.length ∧ isCall found.kind callId call.item = true) ↔
        (found.index = index ∧ isCall found.kind callId entry.item = true) ∨
        ∃ before call after, rest = before ++ call :: after ∧
          found.index = index + 1 + before.length ∧ isCall found.kind callId call.item = true := by
      constructor
      · rintro ⟨before, call, after, split, place, called⟩
        cases before with
        | nil =>
          obtain ⟨rfl, rfl⟩ := List.cons.inj split
          exact .inl ⟨place, called⟩
        | cons first before =>
          obtain ⟨rfl, rfl⟩ := List.cons.inj split
          exact .inr ⟨before, call, after, rfl, by rw [place, List.length_cons]; omega, called⟩
      · rintro (⟨place, called⟩ | ⟨before, call, after, rfl, place, called⟩)
        · exact ⟨[], entry, rest, rfl, place, called⟩
        · exact ⟨entry :: before, call, after, rfl, by rw [place, List.length_cons]; omega, called⟩
    rw [places]
    cases said : entry.item with
    | toolCall kind id name input =>
      have called : calledId entry = some id := by simp [calledId, said]
      rw [List.filterMap_cons_some called] at fresh distinct
      obtain ⟨notAgain, distinctRest⟩ := List.nodup_cons.mp distinct
      have freshRest : ∀ other ∈ rest.filterMap calledId,
          (calls.set id ⟨index, kind⟩).find other = none := by
        intro other member
        have different : other ≠ id := fun same => notAgain (same ▸ member)
        rw [OrderedMap.find_set_of_ne different]
        exact fresh other (List.mem_cons_of_mem _ member)
      simp only [callsFrom, said]
      rw [hypothesis freshRest distinctRest (index + 1), ← or_assoc]
      refine or_congr_left ?_
      by_cases same : callId = id
      · subst same
        have unused : calls.find callId = none := fresh callId List.mem_cons_self
        obtain ⟨place, foundKind⟩ := found
        simp [unused, isCall, eq_comm]
      · rw [OrderedMap.find_set_of_ne same]
        simp [isCall, Ne.symm same]
    | message | toolResult =>
      have called : calledId entry = none := by simp [calledId, said]
      rw [List.filterMap_cons_none called] at fresh distinct
      simp only [callsFrom, said]
      rw [hypothesis fresh distinct (index + 1)]
      simp [isCall]

/-- The call of a result is found before the place of the result exactly when it is there. -/
theorem found_before_iff {before rest : List ContextProjectionEntry}
    (distinct : ((before ++ rest).filterMap calledId).Nodup) :
    (((callsFrom 0 .empty (before ++ rest)).find callId).any fun call =>
        call.index < before.length && call.kind = kind) = true ↔
      before.any (fun entry => isCall kind callId entry.item) = true := by
  have spec (found : IndexedCall) := callsFrom_find callId
    (fun callId _ => (rfl : (OrderedMap.empty : IndexedCalls).find callId = none)) distinct 0 found
  rw [Option.any_eq_true, List.any_eq_true]
  constructor
  · rintro ⟨found, looked, passes⟩
    obtain ⟨inside, rfl⟩ : found.index < before.length ∧ found.kind = kind := by
      simpa using passes
    rcases (spec found).mp looked with none | ⟨earlier, call, later, split, place, called⟩
    · cases none
    rw [Nat.zero_add] at place
    rcases append_eq_append_cons split with ⟨between, rfl, _⟩ | ⟨between, rfl, _⟩
    · exact ⟨call, by simp, called⟩
    · rw [place, List.length_append] at inside
      omega
  · rintro ⟨call, member, called⟩
    obtain ⟨earlier, later, rfl⟩ := List.append_of_mem member
    refine ⟨⟨earlier.length, kind⟩, (spec ⟨earlier.length, kind⟩).mpr (.inr ?_), by simp⟩
    exact ⟨earlier, call, later ++ rest, by simp, by simp, called⟩

/-- What has been matched among entries: the results that a call waited for, and the calls that no
longer wait. -/
structure Matching (before : List ContextProjectionEntry) (found : MatchedTools) : Prop where
  results : ∀ earlier entry later kind callId, before = earlier ++ entry :: later →
    isResult kind callId entry.item = true →
      (earlier.length ∈ found.results ↔ pending kind callId earlier = true)
  places : ∀ place ∈ found.results, place < before.length
  calls : ∀ entry ∈ before, ∀ kind callId, isCall kind callId entry.item = true →
    (callId ∈ found.calls ↔ pending kind callId before = false)
  called : ∀ callId ∈ found.calls, callId ∈ before.filterMap calledId

/-- An id that is called once is called by one entry. -/
theorem eq_of_calledId {entries : List ContextProjectionEntry}
    (distinct : (entries.filterMap calledId).Nodup) {entry other : ContextProjectionEntry}
    (member : entry ∈ entries) (member' : other ∈ entries) (called : calledId entry = some callId)
    (called' : calledId other = some callId) : entry = other := by
  induction entries with
  | nil => simp at member
  | cons head rest hypothesis =>
    have listed (found : ContextProjectionEntry) (inside : found ∈ rest)
        (calls : calledId found = some callId) : callId ∈ rest.filterMap calledId :=
      List.mem_filterMap.mpr ⟨found, inside, calls⟩
    cases first : calledId head with
    | none =>
      rw [List.filterMap_cons_none first] at distinct
      refine hypothesis distinct ((List.mem_cons.mp member).resolve_left ?_)
        ((List.mem_cons.mp member').resolve_left ?_)
      · rintro rfl
        simp [first] at called
      · rintro rfl
        simp [first] at called'
    | some id =>
      rw [List.filterMap_cons_some first] at distinct
      obtain ⟨fresh, distinct⟩ := List.nodup_cons.mp distinct
      rcases List.mem_cons.mp member with rfl | behind
      · rcases List.mem_cons.mp member' with rfl | behind'
        · rfl
        · obtain rfl := Option.some.inj (first.symm.trans called)
          exact absurd (listed other behind' called') fresh
      · rcases List.mem_cons.mp member' with rfl | behind'
        · obtain rfl := Option.some.inj (first.symm.trans called')
          exact absurd (listed entry behind called) fresh
        · exact hypothesis distinct behind behind'

/-- A call among entries with distinct ids has one kind. -/
theorem eq_kind_of_isCall {entries : List ContextProjectionEntry}
    (distinct : (entries.filterMap calledId).Nodup) {entry other : ContextProjectionEntry}
    (member : entry ∈ entries) (member' : other ∈ entries) {kind' : ModelHistoryToolKind}
    (called : isCall kind callId entry.item = true)
    (called' : isCall kind' callId other.item = true) : kind = kind' := by
  obtain rfl := eq_of_calledId distinct member member' (calledId_of_isCall called)
    (calledId_of_isCall called')
  obtain ⟨name, input, said⟩ := isCall_iff.mp called
  obtain ⟨name', input', said'⟩ := isCall_iff.mp called'
  rw [said] at said'
  cases said'
  rfl

/-- Nothing has been matched in front of everything. -/
theorem matching_start : Matching [] ⟨[], []⟩ := by
  refine ⟨?_, ?_, ?_, ?_⟩
  · intro earlier entry later kind callId split
    simp at split
  · intro place listed
    simp at listed
  · intro entry member
    simp at member
  · intro callId listed
    simp at listed

/-- A pending call is there. -/
theorem exists_call_of_pending {before : List ContextProjectionEntry}
    (waits : pending kind callId before = true) :
    before.any (fun entry => isCall kind callId entry.item) = true := by
  obtain ⟨entry, member, called⟩ := List.any_eq_true.mp waits
  have listed : entry ∈ before := List.mem_reverse.mp (List.takeWhile_subset _ member)
  exact List.any_eq_true.mpr ⟨entry, listed, called⟩

/-- An entry that is no result is matched with nothing. -/
theorem Matching.skip {before : List ContextProjectionEntry} {found : MatchedTools}
    (matching : Matching before found) {entry : ContextProjectionEntry}
    (distinct : ((before ++ [entry]).filterMap calledId).Nodup)
    (plain : ∀ kind callId, isResult kind callId entry.item = false) :
    Matching (before ++ [entry]) found := by
  obtain ⟨results, places, calls, called⟩ := matching
  refine ⟨?_, ?_, ?_, ?_⟩
  · intro earlier other later kind callId split result
    rcases concat_eq_append_cons split with ⟨rfl, rfl⟩ | ⟨init, inner⟩
    · simp [plain] at result
    · exact results earlier other init kind callId inner result
  · intro place listed
    rw [List.length_append]
    exact Nat.lt_add_right _ (places place listed)
  · intro other member kind callId calling
    rw [pending_concat, plain, Bool.not_false, Bool.true_and]
    rcases List.mem_append.mp member with earlier | last
    · have own : isCall kind callId entry.item = false := by
        by_contra again
        rw [Bool.not_eq_false] at again
        rw [List.filterMap_append, List.nodup_append] at distinct
        exact distinct.2.2 callId
          (List.mem_filterMap.mpr ⟨other, earlier, calledId_of_isCall calling⟩) callId
          (List.mem_filterMap.mpr ⟨entry, by simp, calledId_of_isCall again⟩) rfl
      rw [own, Bool.false_or]
      exact calls other earlier kind callId calling
    · obtain rfl := List.mem_singleton.mp last
      rw [calling, Bool.true_or]
      refine iff_of_false (fun listed => ?_) (by simp)
      rw [List.filterMap_append, List.nodup_append] at distinct
      exact distinct.2.2 callId (called callId listed) callId
        (List.mem_filterMap.mpr ⟨other, by simp, calledId_of_isCall calling⟩) rfl
  · intro callId listed
    rw [List.filterMap_append]
    exact List.mem_append_left _ (called callId listed)

/-- A result is matched when its call waits for it. -/
theorem Matching.result {before : List ContextProjectionEntry} {found : MatchedTools}
    (matching : Matching before found) (distinct : (before.filterMap calledId).Nodup)
    {entry : ContextProjectionEntry} (own : isResult kind callId entry.item = true) :
    Matching (before ++ [entry])
      (if pending kind callId before = true then
        ⟨before.length :: found.results, callId :: found.calls⟩ else found) := by
  obtain ⟨results, places, calls, called⟩ := matching
  obtain ⟨output, said⟩ := isResult_iff.mp own
  have plain (kind : ModelHistoryToolKind) (callId : JsString) :
      isCall kind callId entry.item = false := by simp [said, isCall]
  refine ⟨?_, ?_, ?_, ?_⟩
  · intro earlier other later kind' callId' split result
    rcases concat_eq_append_cons split with ⟨rfl, rfl⟩ | ⟨init, inner⟩
    · obtain ⟨output', said'⟩ := isResult_iff.mp result
      rw [said] at said'
      cases said'
      split
      case isTrue waits => simp [waits]
      case isFalse waits =>
        refine iff_of_false (fun listed => ?_) waits
        exact absurd (places _ listed) (lt_irrefl _)
    · have before' := results earlier other init kind' callId' inner result
      split
      case isTrue =>
        have inside : earlier.length ≠ before.length := by
          rw [inner, List.length_append, List.length_cons]
          omega
        simpa [inside] using before'
      case isFalse => exact before'
  · intro place listed
    rw [List.length_append, List.length_singleton]
    split at listed
    case isTrue =>
      rcases List.mem_cons.mp listed with rfl | listed
      · omega
      · have := places place listed
        omega
    case isFalse =>
      have := places place listed
      omega
  · intro other member kind' callId' calling
    have listed : other ∈ before := by
      refine (List.mem_append.mp member).resolve_right fun last => ?_
      rw [List.mem_singleton.mp last, plain] at calling
      simp at calling
    have known := calls other listed kind' callId' calling
    rw [pending_concat, plain, Bool.false_or]
    by_cases same : kind = kind' ∧ callId = callId'
    · obtain ⟨rfl, rfl⟩ := same
      split
      case isTrue => simp [own]
      case isFalse waits => simpa [own, waits] using known
    · have others : isResult kind' callId' entry.item = false := by
        rw [said, isResult]
        simpa using same
      rw [others, Bool.not_false, Bool.true_and]
      split
      case isTrue waits =>
        -- the pending call and the other one have two ids
        obtain ⟨call, inside, calling'⟩ := List.any_eq_true.mp (exists_call_of_pending waits)
        have different : callId' ≠ callId := by
          rintro rfl
          exact same ⟨eq_kind_of_isCall distinct inside listed calling' calling, rfl⟩
        simpa [different] using known
      case isFalse => exact known
  · intro id listed
    rw [List.filterMap_append]
    refine List.mem_append_left _ ?_
    split at listed
    case isTrue waits =>
      rcases List.mem_cons.mp listed with rfl | listed
      · obtain ⟨call, inside, calling⟩ := List.any_eq_true.mp (exists_call_of_pending waits)
        exact List.mem_filterMap.mpr ⟨call, inside, calledId_of_isCall calling⟩
      · exact called id listed
    case isFalse => exact called id listed

variable (kind callId) in
/-- A result is matched by the code exactly when its call waits for it. -/
theorem match_iff {before rest : List ContextProjectionEntry} {found : MatchedTools}
    (matching : Matching before found) (distinct : ((before ++ rest).filterMap calledId).Nodup) :
    ((((callsFrom 0 .empty (before ++ rest)).find callId).any fun call =>
        call.index < before.length && call.kind = kind) = true ∧ callId ∉ found.calls) ↔
      pending kind callId before = true := by
  rw [found_before_iff distinct]
  constructor
  · rintro ⟨there, free⟩
    obtain ⟨call, member, calling⟩ := List.any_eq_true.mp there
    by_contra rest
    rw [Bool.not_eq_true] at rest
    exact free ((matching.calls call member kind callId calling).mpr rest)
  · intro waits
    refine ⟨exists_call_of_pending waits, fun listed => ?_⟩
    obtain ⟨call, member, calling⟩ := List.any_eq_true.mp (exists_call_of_pending waits)
    have none := (matching.calls call member kind callId calling).mp listed
    rw [none] at waits
    simp at waits

/-- The code matches every result with the call that waits for it. -/
theorem matchResults_matching {before rest : List ContextProjectionEntry} {found : MatchedTools}
    (matching : Matching before found) (distinct : ((before ++ rest).filterMap calledId).Nodup) :
    Matching (before ++ rest)
      (matchResults (callsFrom 0 .empty (before ++ rest)) before.length found rest) := by
  induction rest generalizing before found with
  | nil => simpa [matchResults] using matching
  | cons entry rest hypothesis =>
    have whole : before ++ entry :: rest = (before ++ [entry]) ++ rest := by simp
    have length : (before ++ [entry]).length = before.length + 1 := by simp
    have distinct' : (((before ++ [entry]) ++ rest).filterMap calledId).Nodup := whole ▸ distinct
    have first : ((before ++ [entry]).filterMap calledId).Nodup := by
      rw [List.filterMap_append] at distinct'
      exact (List.nodup_append.mp distinct').1
    cases said : entry.item with
    | toolResult kind callId output =>
      have own : isResult kind callId entry.item = true := by simp [said, isResult]
      have known : (before.filterMap calledId).Nodup := by
        rw [List.filterMap_append] at first
        exact (List.nodup_append.mp first).1
      have next := hypothesis (matching.result known own) distinct'
      have decides := match_iff kind callId matching distinct
      rw [whole]
      rw [whole] at decides
      rw [length] at next
      simp only [matchResults, said, decides]
      split
      case isTrue waits => simpa [waits] using next
      case isFalse waits => simpa [waits] using next
    | message | toolCall =>
      have next := hypothesis (matching.skip first (by simp [said, isResult])) distinct'
      rw [length] at next
      rw [whole]
      simpa only [matchResults, said] using next

/-- The repair of entries shows them with the changes between them. -/
theorem repairEntries_eq {before rest : List ContextProjectionEntry} {found : MatchedTools}
    (distinct : ((before ++ rest).filterMap calledId).Nodup)
    (matching : Matching (before ++ rest) found) :
    repairEntries found before.length rest = (shown before rest, changes before rest) := by
  induction rest generalizing before with
  | nil => rfl
  | cons entry rest hypothesis =>
    have whole : before ++ entry :: rest = (before ++ [entry]) ++ rest := by simp
    have distinct' : (((before ++ [entry]) ++ rest).filterMap calledId).Nodup := whole ▸ distinct
    have later := hypothesis distinct' (whole ▸ matching)
    rw [List.length_append, List.length_singleton] at later
    have here : repairEntry found before.length entry =
        (shownOf before entry rest, changeOf before entry rest) := by
      cases said : entry.item with
      | message => simp [repairEntry, shownOf, changeOf, said]
      | toolResult kind callId output =>
        have own : isResult kind callId entry.item = true := by simp [said, isResult]
        have known := matching.results before entry rest kind callId rfl own
        simp only [repairEntry, shownOf, changeOf, said, known]
        split <;> rfl
      | toolCall kind callId name input =>
        have own : isCall kind callId entry.item = true := by simp [said, isCall]
        have known := matching.calls entry (by simp) kind callId own
        have once : ∀ entry ∈ rest, isCall kind callId entry.item = false := by
          refine not_isCall_of_uncalled fun again => ?_
          rw [List.filterMap_append, List.filterMap_cons_some (calledId_of_isCall own)] at distinct
          exact (List.nodup_cons.mp (List.nodup_append.mp distinct).2.1).1 again
        have none : isResult kind callId entry.item = false := by simp [said, isResult]
        have waits : pending kind callId (before ++ [entry]) = true := by
          rw [pending_concat, own, none]
          rfl
        rw [whole, pending_append once, waits, Bool.true_and, Bool.not_eq_false'] at known
        simp only [repairEntry, shownOf, changeOf, said, known]
        split <;> rfl
    simp only [repairEntries, here, later, shown, changes]

/-- The results for an id among entries. -/
def resultsFor (kind : ModelHistoryToolKind) (callId : JsString)
    (entries : List ContextProjectionEntry) : Nat :=
  entries.countP fun entry => isResult kind callId entry.item

variable (kind) in
/-- Behind a call that is not called again, as many results are shown as wait for it: one if the
call is pending and has a result. -/
theorem resultsFor_shown (before : List ContextProjectionEntry)
    {rest : List ContextProjectionEntry} (uncalled : callId ∉ rest.filterMap calledId) :
    resultsFor kind callId (shown before rest) =
      if pending kind callId before = true ∧ answered kind callId rest = true then 1 else 0 := by
  induction rest generalizing before with
  | nil => simp [shown, resultsFor, answered]
  | cons entry rest hypothesis =>
    have uncalled' : callId ∉ rest.filterMap calledId := by
      intro again
      obtain ⟨call, member, calls⟩ := List.mem_filterMap.mp again
      exact uncalled (List.mem_filterMap.mpr ⟨call, List.mem_cons_of_mem _ member, calls⟩)
    have later := hypothesis (before ++ [entry]) uncalled'
    rw [pending_concat] at later
    have sum : resultsFor kind callId (shown before (entry :: rest)) =
        resultsFor kind callId (shownOf before entry rest) +
          resultsFor kind callId (shown (before ++ [entry]) rest) := by
      rw [shown, resultsFor, List.countP_append]
      rfl
    rw [sum, later]
    cases said : entry.item with
    | message => simp [shownOf, said, resultsFor, isResult, isCall, answered]
    | toolCall kind' id name input =>
      have different : id ≠ callId := by
        rintro rfl
        exact uncalled (List.mem_filterMap.mpr ⟨entry, by simp, by simp [calledId, said]⟩)
      have none : resultsFor kind callId (shownOf before entry rest) = 0 := by
        simp only [shownOf, said, resultsFor]
        split <;> simp [said, isResult, different]
      rw [none]
      simp [isResult, isCall, answered, said, different]
    | toolResult kind' id output =>
      by_cases same : kind' = kind ∧ id = callId
      · obtain ⟨rfl, rfl⟩ := same
        by_cases waits : pending kind' id before = true <;>
          simp [shownOf, said, resultsFor, isResult, isCall, answered, waits]
      · have none : resultsFor kind callId (shownOf before entry rest) = 0 := by
          simp only [shownOf, said, resultsFor]
          split <;> simp [said, isResult, same]
        rw [none]
        simp [isResult, isCall, answered, said, same]

/-- What is shown at a place is shown of an entry at its place. -/
theorem shown_split {before rest first last : List ContextProjectionEntry}
    {entry : ContextProjectionEntry} (split : shown before rest = first ++ entry :: last) :
    ∃ earlier source later front back, rest = earlier ++ source :: later ∧
      shownOf (before ++ earlier) source later = front ++ entry :: back ∧
      (∀ call ∈ earlier, (∀ kind callId, isResult kind callId call.item = false) → call ∈ first) ∧
      front ⊆ first ∧ last = back ++ shown (before ++ earlier ++ [source]) later := by
  induction rest generalizing before first with
  | nil => simp [shown] at split
  | cons source rest hypothesis =>
    rw [shown] at split
    rcases append_eq_append_cons split with ⟨between, here, tail⟩ | ⟨between, rfl, inside⟩
    · exact ⟨[], source, rest, first, between, rfl, by simpa using here, by simp,
        fun _ member => member, by simpa using tail⟩
    · obtain ⟨earlier, found, later, front, back, rfl, place, kept, fronts, behind⟩ :=
        hypothesis inside
      refine ⟨source :: earlier, found, later, front, back, rfl, ?_, ?_, ?_, ?_⟩
      · simpa using place
      · intro call member plain
        rcases List.mem_cons.mp member with rfl | member
        · refine List.mem_append_left _ ?_
          cases said : call.item with
          | message => simp [shownOf, said]
          | toolCall =>
            simp only [shownOf, said]
            split <;> simp
          | toolResult kind callId output =>
            have own := plain kind callId
            simp [said, isResult] at own
        · exact List.mem_append_right _ (kept call member plain)
      · exact fun found member => List.mem_append_right _ (fronts member)
      · simpa using behind

/-- A call that is shown is the call of its place, with a result behind it unless one comes
later. -/
theorem call_place {before after front back : List ContextProjectionEntry}
    {source entry : ContextProjectionEntry}
    (place : shownOf before source after = front ++ entry :: back)
    (calling : isCall kind callId entry.item = true) :
    entry = source ∧ resultsFor kind callId back = if answered kind callId after then 0 else 1 := by
  obtain ⟨name, input, called⟩ := isCall_iff.mp calling
  cases said : source.item with
  | message =>
    simp only [shownOf, said] at place
    cases front <;> simp_all
  | toolResult =>
    simp only [shownOf, said] at place
    split at place <;> cases front <;> simp_all
  | toolCall kind' id name' input' =>
    simp only [shownOf, said] at place
    split at place
    case isTrue later =>
      cases front with
      | nil =>
        obtain ⟨rfl, rfl⟩ := List.cons.inj place
        rw [said] at called
        cases called
        simp [later, resultsFor]
      | cons => simp at place
    case isFalse later =>
      cases front with
      | nil =>
        obtain ⟨rfl, rfl⟩ := List.cons.inj place
        rw [said] at called
        cases called
        simp [later, resultsFor, isResult]
      | cons first front =>
        obtain ⟨rfl, behind⟩ := List.cons.inj place
        cases front with
        | nil =>
          obtain ⟨rfl, _⟩ := List.cons.inj behind
          simp at called
        | cons => simp at behind

/-- A result that is shown is one that its call waits for, or stands behind its call. -/
theorem result_place {before after front back : List ContextProjectionEntry}
    {source entry : ContextProjectionEntry}
    (place : shownOf before source after = front ++ entry :: back)
    (result : isResult kind callId entry.item = true) :
    pending kind callId before = true ∨
      ∃ call ∈ front, isCall kind callId call.item = true := by
  obtain ⟨output, answers⟩ := isResult_iff.mp result
  cases said : source.item with
  | message =>
    simp only [shownOf, said] at place
    cases front <;> simp_all
  | toolResult kind' id output' =>
    simp only [shownOf, said] at place
    split at place
    case isTrue waits =>
      cases front with
      | nil =>
        obtain ⟨rfl, rfl⟩ := List.cons.inj place
        rw [said] at answers
        cases answers
        exact .inl waits
      | cons => simp at place
    case isFalse => simp at place
  | toolCall kind' id name input =>
    simp only [shownOf, said] at place
    split at place
    case isTrue => cases front <;> simp_all
    case isFalse =>
      cases front with
      | nil =>
        obtain ⟨rfl, _⟩ := List.cons.inj place
        simp [said] at answers
      | cons first front =>
        obtain ⟨rfl, behind⟩ := List.cons.inj place
        cases front with
        | nil =>
          obtain ⟨rfl, _⟩ := List.cons.inj behind
          cases answers
          exact .inr ⟨source, by simp, by simp [said, isCall]⟩
        | cons => simp at behind

/-- What is shown is paired. -/
theorem shown_paired {entries : List ContextProjectionEntry}
    (distinct : (entries.filterMap calledId).Nodup) :
    Paired ((shown [] entries).map (·.item)) := by
  refine ⟨?_, ?_⟩
  · intro before call after kind callId split calling
    obtain ⟨first, rest, divided, _, behind⟩ := List.map_eq_append_iff.mp split
    obtain ⟨entry, last, rfl, rfl, rfl⟩ := List.map_eq_cons_iff.mp behind
    obtain ⟨earlier, source, later, front, back, rfl, place, _, _, rfl⟩ := shown_split divided
    obtain ⟨rfl, own⟩ := call_place place calling
    have uncalled : callId ∉ later.filterMap calledId := by
      rw [List.filterMap_append, List.filterMap_cons_some (calledId_of_isCall calling)] at distinct
      exact (List.nodup_cons.mp (List.nodup_append.mp distinct).2.1).1
    have waits : pending kind callId ([] ++ earlier ++ [entry]) = true := by
      obtain ⟨name, input, said⟩ := isCall_iff.mp calling
      rw [pending_concat, calling, said]
      rfl
    have others := resultsFor_shown kind ([] ++ earlier ++ [entry]) uncalled
    rw [List.countP_map]
    have sum : (back ++ shown ([] ++ earlier ++ [entry]) later).countP
        (isResult kind callId ∘ fun entry => entry.item) = resultsFor kind callId back +
          resultsFor kind callId (shown ([] ++ earlier ++ [entry]) later) := List.countP_append
    rw [sum, own, others, waits]
    cases answered kind callId later <;> rfl
  · intro before result after kind callId split answers
    obtain ⟨first, rest, divided, rfl, behind⟩ := List.map_eq_append_iff.mp split
    obtain ⟨entry, last, rfl, rfl, rfl⟩ := List.map_eq_cons_iff.mp behind
    obtain ⟨earlier, source, later, front, back, rfl, place, kept, fronts, _⟩ :=
      shown_split divided
    rw [List.any_map]
    rcases result_place place answers with waits | ⟨call, member, calling⟩
    · obtain ⟨call, member, calling⟩ := List.any_eq_true.mp (exists_call_of_pending waits)
      obtain ⟨name, input, said⟩ := isCall_iff.mp calling
      exact List.any_eq_true.mpr ⟨call, kept call member (by simp [said, isResult]), calling⟩
    · exact List.any_eq_true.mpr ⟨call, fronts member, calling⟩

/-- A call without a result behind it waits. -/
theorem pending_of_call {earlier later : List ContextProjectionEntry}
    {call : ContextProjectionEntry} (calling : isCall kind callId call.item = true)
    (free : answered kind callId later = false) :
    pending kind callId (earlier ++ call :: later) = true := by
  induction later using List.reverseRecOn with
  | nil =>
    obtain ⟨name, input, said⟩ := isCall_iff.mp calling
    rw [pending_concat, calling, said]
    rfl
  | append_singleton init last hypothesis =>
    simp only [answered, List.any_append, List.any_cons, List.any_nil, Bool.or_false,
      Bool.or_eq_false_iff] at free
    have whole : earlier ++ call :: (init ++ [last]) = (earlier ++ call :: init) ++ [last] := by
      simp
    rw [whole, pending_concat, free.2, hypothesis free.1]
    simp

/-- Entries that are paired are shown as they are. -/
theorem shown_of_paired {before rest : List ContextProjectionEntry}
    (paired : Paired ((before ++ rest).map (·.item))) :
    shown before rest = rest ∧ changes before rest = [] := by
  induction rest generalizing before with
  | nil => exact ⟨rfl, rfl⟩
  | cons entry rest hypothesis =>
    have whole : before ++ entry :: rest = (before ++ [entry]) ++ rest := by simp
    have paired' : Paired (((before ++ [entry]) ++ rest).map (·.item)) := whole ▸ paired
    obtain ⟨same, none⟩ := hypothesis paired'
    have here : shownOf before entry rest = [entry] ∧ changeOf before entry rest = [] := by
      cases said : entry.item with
      | message => simp [shownOf, changeOf, said]
      | toolCall kind callId name input =>
        have one := paired.answered (before.map (·.item)) entry.item (rest.map (·.item)) kind callId
          (by simp) (by simp [said, isCall])
        have later : answered kind callId rest = true := by
          have some : 0 < (rest.map (·.item)).countP (isResult kind callId) := by omega
          obtain ⟨item, member, result⟩ := List.countP_pos_iff.mp some
          obtain ⟨found, listed, rfl⟩ := List.mem_map.mp member
          exact List.any_eq_true.mpr ⟨found, listed, result⟩
        simp [shownOf, changeOf, said, later]
      | toolResult kind callId output =>
        have own : isResult kind callId entry.item = true := by simp [said, isResult]
        have there := paired.follows (before.map (·.item)) entry.item (rest.map (·.item)) kind
          callId (by simp) own
        rw [List.any_map] at there
        obtain ⟨call, member, calling⟩ := List.any_eq_true.mp there
        obtain ⟨first, between, rfl⟩ := List.append_of_mem member
        have one := paired.answered (first.map (·.item)) call.item
          (between.map (·.item) ++ entry.item :: rest.map (·.item)) kind callId (by simp) calling
        -- the one result behind the call is this one
        have free : answered kind callId between = false := by
          rw [List.countP_append, List.countP_cons_of_pos own] at one
          have zero : (between.map (·.item)).countP (isResult kind callId) = 0 := by omega
          rw [List.countP_eq_zero] at zero
          rw [answered, List.any_eq_false]
          exact fun found listed => zero found.item (List.mem_map_of_mem listed)
        have waits : pending kind callId (first ++ call :: between) = true :=
          pending_of_call calling free
        simp [shownOf, changeOf, said, waits]
    rw [shown, changes, here.1, here.2, same, none]
    exact ⟨rfl, rfl⟩

/-- The calls are shown as they are. -/
theorem calledId_shown (before rest : List ContextProjectionEntry) :
    (shown before rest).filterMap calledId = rest.filterMap calledId := by
  induction rest generalizing before with
  | nil => rfl
  | cons entry rest hypothesis =>
    rw [shown, List.filterMap_append, hypothesis]
    cases said : entry.item with
    | message => simp [shownOf, said, calledId]
    | toolCall kind callId name input =>
      simp only [shownOf, said]
      split <;> simp [said, calledId]
    | toolResult kind callId output =>
      simp only [shownOf, said]
      split <;> simp [said, calledId]

/-- A checked item has the length of its text. -/
theorem validateItem_eq_ok {item : ContextHistoryItem} {length : Int}
    (valid : validateItem item = .ok length) : length = itemBytes item := by
  cases item <;>
  · simp only [validateItem] at valid
    split at valid
    · exact (Except.ok.inj valid).symm
    · simp at valid

/-- Entries that are collected are valid and call distinct ids. -/
theorem collectCalls_eq_ok {entries : List ContextProjectionEntry} {index : Nat}
    {calls : IndexedCalls} {total : Int} {found : IndexedCalls × Int}
    (collected : collectCalls index calls total entries = .ok found) :
    (∀ entry ∈ entries, ValidEntry entry) ∧ (entries.filterMap calledId).Nodup ∧
      ∀ callId ∈ entries.filterMap calledId, calls.find callId = none := by
  induction entries generalizing index calls total with
  | nil => simp
  | cons entry rest hypothesis =>
    simp only [collectCalls, bind_eq_ok, exists_unit, rejectIf_eq_ok] at collected
    obtain ⟨sequence, length, checked, later⟩ := collected
    have own : ValidEntry entry :=
      ⟨by simpa using sequence, validateItem_eq_ok checked ▸ checked⟩
    cases said : entry.item with
    | message | toolResult =>
      simp only [said] at later
      obtain ⟨valid, distinct, fresh⟩ := hypothesis later
      have called : calledId entry = none := by simp [calledId, said]
      rw [List.filterMap_cons_none called]
      exact ⟨List.forall_mem_cons.mpr ⟨own, valid⟩, distinct, fresh⟩
    | toolCall kind callId name input =>
      simp only [said, bind_eq_ok, exists_unit, rejectIf_eq_ok] at later
      obtain ⟨unused, later⟩ := later
      obtain ⟨valid, distinct, fresh⟩ := hypothesis later
      have called : calledId entry = some callId := by simp [calledId, said]
      rw [List.filterMap_cons_some called]
      have notAgain : callId ∉ rest.filterMap calledId := by
        intro again
        have found := fresh callId again
        simp at found
      refine ⟨List.forall_mem_cons.mpr ⟨own, valid⟩, List.nodup_cons.mpr ⟨notAgain, distinct⟩, ?_⟩
      intro other member
      rcases List.mem_cons.mp member with rfl | member
      · simpa using unused
      · have found := fresh other member
        have different : other ≠ callId := fun same => notAgain (same ▸ member)
        rwa [OrderedMap.find_set_of_ne different] at found

/-- The repair of the code shows the entries with the changes. -/
theorem repairEntries_whole {entries : List ContextProjectionEntry}
    (distinct : (entries.filterMap calledId).Nodup) :
    repairEntries (matchResults (callsFrom 0 .empty entries) 0 ⟨[], []⟩ entries) 0 entries =
      (shown [] entries, changes [] entries) := by
  have distinct' : ((([] : List ContextProjectionEntry) ++ entries).filterMap calledId).Nodup :=
    distinct
  exact repairEntries_eq distinct' (matchResults_matching matching_start distinct')

/-- Entries are normalised exactly when they are valid, call distinct ids and stay inside the
limits, and what is normalised is what is shown. -/
theorem normalizeContextHistoryEntries_eq_ok {entries : List ContextProjectionEntry}
    {options : ContextNormalizationOptions} {normalized : NormalizedContextHistory} :
    normalizeContextHistoryEntries entries options = .ok normalized ↔
      (entries ≠ [] ∧ (∀ entry ∈ entries, ValidEntry entry) ∧
        (entries.filterMap calledId).Nodup ∧ WithinLimits options entries) ∧
      normalized = {
        items := (shown [] entries).map (·.item)
        sourceSequences := (shown [] entries).map (·.sourceSequence)
        repairs := changes [] entries
        historyRewritten := changes [] entries ≠ []
        byteLength := entryBytes (shown [] entries) } := by
  have collects (valid : ∀ entry ∈ entries, ValidEntry entry)
      (distinct : (entries.filterMap calledId).Nodup) :
      collectCalls 0 .empty 0 entries = .ok (callsFrom 0 .empty entries, entryBytes entries) := by
    have collected := collectCalls_valid valid
      (fun callId _ => (rfl : (OrderedMap.empty : IndexedCalls).find callId = none)) distinct 0 0
    rwa [zero_add] at collected
  have adds (valid : ∀ entry ∈ entries, ValidEntry entry)
      (distinct : (entries.filterMap calledId).Nodup) :
      addLengths 0 (shown [] entries) = .ok (entryBytes (shown [] entries)) := by
    have kept : ∀ entry ∈ (repairEntries (matchResults (callsFrom 0 .empty entries) 0 ⟨[], []⟩
        entries) 0 entries).1, ValidEntry entry := repairEntries_valid valid 0
    rw [repairEntries_whole distinct] at kept
    have added := addLengths_valid kept 0
    rwa [zero_add] at added
  constructor
  · intro accepted
    simp only [normalizeContextHistoryEntries, bind_eq_ok, exists_unit, rejectIf_eq_ok,
      pure_eq_ok] at accepted
    obtain ⟨limits, nonempty, items, ⟨calls, total⟩, collected, bytes, shownItems, sum, added,
      shownBytes, rfl⟩ := accepted
    obtain ⟨valid, distinct, _⟩ := collectCalls_eq_ok collected
    have same := Except.ok.inj (collected.symm.trans (collects valid distinct))
    obtain ⟨rfl, rfl⟩ := Prod.mk.inj same
    rw [repairEntries_whole distinct] at shownItems added
    obtain rfl := Except.ok.inj (added.symm.trans (adds valid distinct))
    simp only [repairEntries_whole distinct]
    refine ⟨⟨nonempty, valid, distinct, limits, not_lt.mp items, not_lt.mp bytes, ?_, ?_⟩, trivial⟩
    · rw [paired, repairEntries_whole distinct]
      exact not_lt.mp shownItems
    · rw [paired, repairEntries_whole distinct]
      exact not_lt.mp shownBytes
  · rintro ⟨⟨nonempty, valid, distinct, within⟩, rfl⟩
    have items := not_lt.mpr within.items
    have bytes := not_lt.mpr within.bytes
    have pairedItems := not_lt.mpr within.pairedItems
    have pairedBytes := not_lt.mpr within.pairedBytes
    rw [paired, repairEntries_whole distinct] at pairedItems pairedBytes
    simp only [normalizeContextHistoryEntries, within.limits, ok_bind, rejectIf, nonempty, items,
      collects valid distinct, bytes, repairEntries_whole distinct, pairedItems,
      adds valid distinct, pairedBytes, ↓reduceIte]
    rfl

/-- The entries of what was normalised. -/
def entriesOf (normalized : NormalizedContextHistory) : List ContextProjectionEntry :=
  List.zipWith ContextProjectionEntry.mk normalized.sourceSequences normalized.items

/-- Splitting entries and joining them again changes nothing. -/
theorem zipWith_entries (entries : List ContextProjectionEntry) :
    List.zipWith ContextProjectionEntry.mk (entries.map (·.sourceSequence))
      (entries.map (·.item)) = entries := by
  rw [List.zipWith_map, List.zipWith_self]
  simp

/-- Whatever entries are normalised, the items that come out are paired: they are the entries
without the results that answer no call and with a result behind every call that has none, the
repairs are these changes, and the length is that of the items. Unless nothing is left, a second
normalisation changes nothing and reports no repair. -/
theorem normalizeContextHistoryEntries_repairs {entries : List ContextProjectionEntry}
    {options : ContextNormalizationOptions} {normalized : NormalizedContextHistory}
    (accepted : normalizeContextHistoryEntries entries options = .ok normalized) :
    Paired normalized.items ∧ entriesOf normalized = shown [] entries ∧
      normalized.items = (shown [] entries).map (·.item) ∧
      normalized.repairs = changes [] entries ∧
      (normalized.historyRewritten = true ↔ changes [] entries ≠ []) ∧
      normalized.byteLength = (normalized.items.map itemBytes).sum ∧
      (normalized.items ≠ [] →
        normalizeContextHistoryEntries (entriesOf normalized) options =
          .ok { normalized with repairs := [], historyRewritten := false }) := by
  obtain ⟨⟨_, valid, distinct, within⟩, whole⟩ := normalizeContextHistoryEntries_eq_ok.mp accepted
  have pairs := shown_paired distinct
  have same : entriesOf normalized = shown [] entries := by
    rw [whole]
    exact zipWith_entries (shown [] entries)
  subst whole
  refine ⟨pairs, same, rfl, rfl, by simp, by simp [entryBytes, List.map_map, Function.comp_def], ?_⟩
  intro left
  have again : shown [] (shown [] entries) = shown [] entries ∧
      changes [] (shown [] entries) = [] := shown_of_paired (by simpa using pairs)
  have kept : ∀ entry ∈ shown [] entries, ValidEntry entry := by
    have repaired : ∀ entry ∈ (repairEntries (matchResults (callsFrom 0 .empty entries) 0 ⟨[], []⟩
        entries) 0 entries).1, ValidEntry entry := repairEntries_valid valid 0
    rwa [repairEntries_whole distinct] at repaired
  have distinct' : ((shown [] entries).filterMap calledId).Nodup :=
    calledId_shown [] entries ▸ distinct
  have pairedAgain : paired (shown [] entries) = shown [] entries := by
    rw [paired, repairEntries_whole distinct']
    exact again.1
  have pairedOnce : paired entries = shown [] entries := by
    rw [paired, repairEntries_whole distinct]
  have within' : WithinLimits options (shown [] entries) := by
    obtain ⟨limits, _, _, items, bytes⟩ := within
    rw [pairedOnce] at items bytes
    exact ⟨limits, items, bytes, pairedAgain.symm ▸ items, pairedAgain.symm ▸ bytes⟩
  have inside : shown [] entries ≠ [] := by
    rintro none
    exact left (by simp [none])
  rw [same]
  refine normalizeContextHistoryEntries_eq_ok.mpr ⟨⟨inside, kept, distinct', within'⟩, ?_⟩
  simp [again.1, again.2]

/-- A call without a result behind a result without a call. -/
def sampleEntries : List ContextProjectionEntry :=
  [⟨1, .toolResult .function (js "b") (js "r")⟩,
    ⟨2, .toolCall .function (js "a") (js "f") (js "x")⟩]

/-- The limits of a caller that sets none. -/
def sampleOptions : ContextNormalizationOptions := ⟨none, none⟩

/-- The sample entries are normalised to the call and a result for it. -/
theorem sampleEntries_run : normalizeContextHistoryEntries sampleEntries sampleOptions = .ok {
    items := [.toolCall .function (js "a") (js "f") (js "x"),
      .toolResult .function (js "a") missingToolResultOutput]
    sourceSequences := [2, 2]
    repairs := [⟨.orphanToolResultDropped, .function, js "b"⟩,
      ⟨.missingToolResultInserted, .function, js "a"⟩]
    historyRewritten := true
    byteLength := 8 } := by
  decide_cbv

theorem normalizeContextHistoryEntries_repairs_sample :
    Paired [.toolCall .function (js "a") (js "f") (js "x"),
      .toolResult .function (js "a") missingToolResultOutput] :=
  (normalizeContextHistoryEntries_repairs sampleEntries_run).1

/-- Results that answer no call leave nothing, and nothing is not normalised again. -/
theorem emptied_is_rejected :
    ∃ normalized, normalizeContextHistoryEntries
        [⟨1, .toolResult .function (js "b") (js "r")⟩] sampleOptions = .ok normalized ∧
      normalizeContextHistoryEntries (entriesOf normalized) sampleOptions =
        .error (contextHistoryError "context_history_empty") := by
  refine ⟨⟨[], [], [⟨.orphanToolResultDropped, .function, js "b"⟩], true, 0⟩, ?_, ?_⟩
  · decide_cbv
  · decide_cbv

end Crewon.Verif.ContextRepair
