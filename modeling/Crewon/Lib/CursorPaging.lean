import Crewon.Lib.Places

/-!
# Paging by cursors

A reader asks for one page after the other, each behind the last entry of the page before it. When
every page is the beginning of what lies behind its cursor in one strict order, the pages together
are all entries, each once and in that order.
-/

namespace Crewon.Lib

variable {α κ : Type} {key : α → κ}

/-- Read one page after the other, each behind the last entry of the page before it, until a page is
empty. -/
def readPages (key : α → κ) (page : Option κ → List α) : Nat → Option κ → List α
  | 0, _ => []
  | rounds + 1, cursor =>
    match (page cursor).getLast? with
    | none => []
    | some last => page cursor ++ readPages key page rounds (some (key last))

section Behind

variable {behind : κ → κ → Prop} [DecidableRel behind]

/-- What lies behind an entry between those in front of it and those behind it. -/
theorem filter_between (asymmetric : ∀ first second, behind first second → ¬ behind second first)
    {before after : List α} {last : α} (past : ∀ item ∈ before, behind (key item) (key last))
    (ahead : ∀ item ∈ after, behind (key last) (key item)) :
    ((before ++ last :: after).filter fun item => behind (key last) (key item)) = after := by
  have front : (before.filter fun item => behind (key last) (key item)) = [] := by
    rw [List.filter_eq_nil_iff]
    intro item member
    simpa using asymmetric _ _ (past item member)
  have back : (after.filter fun item => behind (key last) (key item)) = after := by
    rw [List.filter_eq_self]
    intro item member
    simpa using ahead item member
  have own : ¬ behind (key last) (key last) := fun self => asymmetric _ _ self self
  rw [List.filter_append, List.filter_cons_of_neg (by simpa using own), front, back,
    List.nil_append]

/-- What lies behind an entry of an ordered list is the rest of the list. -/
theorem filter_behind (asymmetric : ∀ first second, behind first second → ¬ behind second first)
    {before after : List α} {last : α}
    (ordered : (before ++ last :: after).Pairwise fun earlier later =>
      behind (key earlier) (key later)) :
    ((before ++ last :: after).filter fun item => behind (key last) (key item)) = after := by
  rw [List.pairwise_append, List.pairwise_cons] at ordered
  obtain ⟨_, ⟨behindLast, _⟩, across⟩ := ordered
  exact filter_between asymmetric (fun item member => across item member last List.mem_cons_self)
    behindLast

/-- Reading on from a cursor returns everything behind it. -/
theorem readPages_behind
    (asymmetric : ∀ first second, behind first second → ¬ behind second first)
    {items : List α}
    (ordered : items.Pairwise fun earlier later => behind (key earlier) (key later))
    {limit : Nat} (positive : 0 < limit) {page : Option κ → List α}
    (pages : ∀ cursor, page cursor =
      (items.filter fun item => ∀ bound ∈ cursor, behind bound (key item)).take limit)
    {rounds : Nat} {cursor : Option κ} {done rest : List α} (split : items = done ++ rest)
    (here : (items.filter fun item => ∀ bound ∈ cursor, behind bound (key item)) = rest)
    (enough : rest.length < rounds) : readPages key page rounds cursor = rest := by
  induction rounds generalizing cursor done rest with
  | zero => exact absurd enough (Nat.not_lt_zero _)
  | succ rounds hypothesis =>
    have current : page cursor = rest.take limit := by rw [pages, here]
    unfold readPages
    rw [current]
    rcases List.eq_nil_or_concat (rest.take limit) with none | ⟨front, last, some⟩
    · have empty : rest = [] := by
        rcases List.take_eq_nil_iff.mp none with zero | empty
        · omega
        · exact empty
      rw [none, empty]
      rfl
    · rw [List.concat_eq_append] at some
      rw [some, List.getLast?_concat]
      have whole : rest = front ++ last :: rest.drop limit := by
        calc
          rest = rest.take limit ++ rest.drop limit := (List.take_append_drop limit rest).symm
          _ = front ++ last :: rest.drop limit := by rw [some]; simp
      have split' : items = (done ++ front ++ [last]) ++ rest.drop limit := by
        rw [split]
        nth_rewrite 1 [whole]
        simp
      have later : (items.filter fun item =>
          ∀ bound ∈ Option.some (key last), behind bound (key item)) = rest.drop limit := by
        have placed : items = (done ++ front) ++ last :: rest.drop limit := by simpa using split'
        have behindLast := filter_behind asymmetric (placed ▸ ordered)
        rw [placed]
        simpa using behindLast
      have shorter : (rest.drop limit).length < rounds := by
        have count := congrArg List.length whole
        rw [List.length_append, List.length_cons] at count
        omega
      dsimp only
      rw [hypothesis split' later shorter, List.append_assoc, List.singleton_append]
      exact whole.symm

/-- Reading page after page from the start returns every entry once, in order. -/
theorem readPages_all
    (asymmetric : ∀ first second, behind first second → ¬ behind second first)
    {items : List α}
    (ordered : items.Pairwise fun earlier later => behind (key earlier) (key later))
    {limit : Nat} (positive : 0 < limit) {page : Option κ → List α}
    (pages : ∀ cursor, page cursor =
      (items.filter fun item => ∀ bound ∈ cursor, behind bound (key item)).take limit)
    {rounds : Nat} (enough : items.length < rounds) :
    readPages key page rounds none = items :=
  readPages_behind asymmetric ordered positive pages (show items = [] ++ items from rfl) (by simp)
    enough

/-- What lies behind a cursor is the rest of an ordered list. -/
theorem exists_append_filter
    (transitive : ∀ first second third, behind first second → behind second third →
      behind first third)
    {items : List α}
    (ordered : items.Pairwise fun earlier later => behind (key earlier) (key later))
    (cursor : Option κ) :
    ∃ front, items =
      front ++ items.filter fun item => ∀ bound ∈ cursor, behind bound (key item) := by
  induction items with
  | nil => exact ⟨[], rfl⟩
  | cons first rest hypothesis =>
    obtain ⟨ahead, later⟩ := List.pairwise_cons.mp ordered
    by_cases past : ∀ bound ∈ cursor, behind bound (key first)
    · refine ⟨[], ?_⟩
      have all : ∀ item ∈ first :: rest, ∀ bound ∈ cursor, behind bound (key item) := by
        intro item member bound here
        rcases List.mem_cons.mp member with rfl | within
        · exact past bound here
        · exact transitive _ _ _ (past bound here) (ahead item within)
      rw [List.filter_eq_self.mpr fun item member => decide_eq_true (all item member)]
      rfl
    · obtain ⟨front, split⟩ := hypothesis later
      refine ⟨first :: front, ?_⟩
      rw [List.filter_cons_of_neg (by simpa using past), List.cons_append, ← split]

/-- What lies in front of an entry of an ordered list is the beginning of the list. -/
theorem filter_front (asymmetric : ∀ first second, behind first second → ¬ behind second first)
    {before after : List α} {first : α}
    (ordered : (before ++ first :: after).Pairwise fun earlier later =>
      behind (key earlier) (key later)) :
    ((before ++ first :: after).filter fun item => behind (key item) (key first)) = before := by
  rw [List.pairwise_append, List.pairwise_cons] at ordered
  obtain ⟨_, ⟨behindFirst, _⟩, across⟩ := ordered
  have turned : ((after.reverse ++ first :: before.reverse).filter fun item =>
      behind (key item) (key first)) = before.reverse :=
    filter_between (fun one other less => asymmetric other one less)
      (fun item member => behindFirst item (List.mem_reverse.mp member))
      (fun item member => across item (List.mem_reverse.mp member) first List.mem_cons_self)
  have whole : before ++ first :: after = (after.reverse ++ first :: before.reverse).reverse := by
    simp
  rw [whole, List.filter_reverse, turned, List.reverse_reverse]

/-- Reading back from the first entry of a page returns the page in front of it. -/
theorem page_in_front
    (asymmetric : ∀ first second, behind first second → ¬ behind second first)
    (transitive : ∀ first second third, behind first second → behind second third →
      behind first third)
    {items : List α}
    (ordered : items.Pairwise fun earlier later => behind (key earlier) (key later))
    {limit : Nat} {cursor : Option κ} {page : List α} {last first : α}
    (here : page = (items.filter fun item => ∀ bound ∈ cursor, behind bound (key item)).take limit)
    (lastOf : page.getLast? = some last)
    (firstOf : ((items.filter fun item => behind (key last) (key item)).take limit).head? =
      some first) :
    ((items.filter fun item => behind (key item) (key first)).reverse.take limit).reverse =
      page := by
  obtain ⟨front, split⟩ := exists_append_filter transitive ordered cursor
  generalize items.filter (fun item => ∀ bound ∈ cursor, behind bound (key item)) = window
    at here split
  obtain ⟨start, whole⟩ := List.getLast?_eq_some_iff.mp lastOf
  rw [← List.take_append_drop limit window, ← here] at split
  have placed : items = (front ++ start) ++ last :: window.drop limit := by
    rw [split, whole]
    simp
  have behindLast := filter_behind asymmetric (placed ▸ ordered)
  rw [← placed] at behindLast
  rw [behindLast] at firstOf
  cases rest : window.drop limit with
  | nil =>
    rw [rest] at firstOf
    simp at firstOf
  | cons next tail =>
    have same : next = first := by
      rw [rest] at firstOf
      cases limit with
      | zero => simp at firstOf
      | succ limit => simpa using firstOf
    have full : page.length = limit := by
      have count := congrArg List.length rest
      rw [List.length_drop, List.length_cons] at count
      rw [here, List.length_take]
      omega
    rw [rest, same, ← List.append_assoc] at split
    have inFront := filter_front asymmetric (split ▸ ordered)
    rw [← split] at inFront
    rw [inFront, List.reverse_append, List.take_left' (by rw [List.length_reverse, full]),
      List.reverse_reverse]

/-- Everything read from a cursor on lies behind it. -/
theorem behind_of_mem_readPages
    (transitive : ∀ first second third, behind first second → behind second third →
      behind first third)
    {items : List α} {limit : Nat} {page : Option κ → List α}
    (pages : ∀ cursor, page cursor =
      (items.filter fun item => ∀ bound ∈ cursor, behind bound (key item)).take limit)
    {rounds : Nat} {cursor : κ} {item : α}
    (read : item ∈ readPages key page rounds (some cursor)) : behind cursor (key item) := by
  have onPage {cursor : κ} {item : α} (member : item ∈ page (some cursor)) :
      behind cursor (key item) := by
    rw [pages] at member
    simpa using (List.mem_filter.mp (List.mem_of_mem_take member)).2
  induction rounds generalizing cursor with
  | zero => exact absurd read List.not_mem_nil
  | succ rounds hypothesis =>
    unfold readPages at read
    split at read
    · exact absurd read List.not_mem_nil
    · next last final =>
      rcases List.mem_append.mp read with here | later
      · exact onPage here
      · exact transitive _ _ _ (onPage (List.mem_of_getLast? final)) (hypothesis later)

/-- When pages of one entry reach everything behind a cursor, it was in order. -/
theorem pairwise_of_readPages_one
    (asymmetric : ∀ first second, behind first second → ¬ behind second first)
    (transitive : ∀ first second third, behind first second → behind second third →
      behind first third)
    {items : List α} {page : Option κ → List α}
    (pages : ∀ cursor, page cursor =
      (items.filter fun item => ∀ bound ∈ cursor, behind bound (key item)).take 1)
    {rounds : Nat} {cursor : Option κ} {done rest : List α} (split : items = done ++ rest)
    (past : ∀ earlier ∈ done, ∀ later ∈ rest, behind (key earlier) (key later))
    (here : (items.filter fun item => ∀ bound ∈ cursor, behind bound (key item)) = rest)
    (reached : (readPages key page rounds cursor).Perm rest) :
    rest.Pairwise fun earlier later => behind (key earlier) (key later) := by
  induction rest generalizing rounds cursor done with
  | nil => exact List.Pairwise.nil
  | cons first rest hypothesis =>
    cases rounds with
    | zero => exact absurd reached.length_eq (by simp [readPages])
    | succ rounds =>
      have current : page cursor = [first] := by rw [pages, here]; rfl
      rw [readPages, current] at reached
      have onward : (readPages key page rounds (some (key first))).Perm rest :=
        List.perm_cons first |>.mp reached
      have ahead : ∀ later ∈ rest, behind (key first) (key later) := fun later member =>
        behind_of_mem_readPages transitive pages (onward.mem_iff.mpr member)
      refine List.pairwise_cons.mpr ⟨ahead, ?_⟩
      have later : (items.filter fun item =>
          ∀ bound ∈ some (key first), behind bound (key item)) = rest := by
        have between := filter_between asymmetric
          (fun item member => past item member first List.mem_cons_self) ahead
        rw [split]
        simpa using between
      have placed : items = (done ++ [first]) ++ rest := by simpa using split
      refine hypothesis placed (fun earlier member later held => ?_) later onward
      rcases List.mem_append.mp member with before | last
      · exact past earlier before later (List.mem_cons_of_mem _ held)
      · rw [List.mem_singleton.mp last]
        exact ahead later held

/-- Pages of every size read all entries once, in one order, exactly when the entries are in the
order of the cursors. -/
theorem readPages_complete_iff
    (asymmetric : ∀ first second, behind first second → ¬ behind second first)
    (transitive : ∀ first second third, behind first second → behind second third →
      behind first third)
    {items : List α} {most : Nat} (room : 1 ≤ most) {page : Nat → Option κ → List α}
    (pages : ∀ limit cursor, 1 ≤ limit → limit ≤ most → page limit cursor =
      (items.filter fun item => ∀ bound ∈ cursor, behind bound (key item)).take limit) :
    (∃ order, order.Perm items ∧ ∀ limit, 1 ≤ limit → limit ≤ most → ∀ rounds,
        items.length < rounds → readPages key (page limit) rounds none = order) ↔
      items.Pairwise fun earlier later => behind (key earlier) (key later) := by
  constructor
  · rintro ⟨order, permuted, complete⟩
    have one := complete 1 (Nat.le_refl 1) room (items.length + 1) (Nat.lt_succ_self _)
    exact pairwise_of_readPages_one asymmetric transitive (pages 1 · (Nat.le_refl 1) room)
      (show items = [] ++ items from rfl) (by simp) (by simp) (one ▸ permuted)
  · intro ordered
    refine ⟨items, List.Perm.refl items, fun limit positive few rounds enough => ?_⟩
    exact readPages_all asymmetric ordered positive (pages limit · positive few) enough

end Behind

section Checked

variable {ε : Type}

/-- Read one page after the other as long as none is refused. -/
def readCheckedPages (key : α → κ) (page : Option κ → Except ε (List α)) :
    Nat → Option κ → Except ε (List α)
  | 0, _ => .ok []
  | rounds + 1, cursor => do
    let items ← page cursor
    match items.getLast? with
    | none => return []
    | some last => return items ++ (← readCheckedPages key page rounds (some (key last)))

/-- When no page behind an entry is refused, reading is not. -/
theorem readCheckedPages_eq_ok {page : Option κ → List α} {answer : Option κ → Except ε (List α)}
    {items : List α} (within : ∀ cursor, page cursor ⊆ items)
    (answers : ∀ cursor, (∀ bound ∈ cursor, ∃ item ∈ items, key item = bound) →
      answer cursor = .ok (page cursor))
    {rounds : Nat} {cursor : Option κ}
    (known : ∀ bound ∈ cursor, ∃ item ∈ items, key item = bound) :
    readCheckedPages key answer rounds cursor = .ok (readPages key page rounds cursor) := by
  induction rounds generalizing cursor with
  | zero => rfl
  | succ rounds hypothesis =>
    rw [readCheckedPages, readPages, answers cursor known]
    show (match (page cursor).getLast? with
      | none => pure []
      | some last => do
        return page cursor ++ (← readCheckedPages key answer rounds (some (key last)))) = _
    cases final : (page cursor).getLast? with
    | none => rfl
    | some last =>
      dsimp only
      rw [hypothesis]
      · rfl
      · intro bound here
        exact ⟨last, within cursor (List.mem_of_getLast? final), Option.some.inj here⟩

end Checked

end Crewon.Lib
