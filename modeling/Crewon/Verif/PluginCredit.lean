import Crewon.Domain.PluginCredit
import Crewon.Lib.Trace
import Mathlib

/-!
# The ledger of credits

An account and its reservations are stored together. Whatever is granted, reserved, settled and
released, the credits of the account are those granted, the reserved ones are those of the
reservations still held, and every hold can be ended.
-/

namespace Crewon.Verif.PluginCredit

open Crewon.Js Crewon.Checked Crewon.Lib Crewon.Domain

/-- An account with its reservations, in the order in which they were made. -/
structure CreditLedger where
  account : CreditAccount
  reservations : List CreditReservation
deriving DecidableEq

/-- An operation on the account or on the reservation at a place. -/
inductive CreditOperation where
  | grant (positiveCredits : JsString)
  | reserve (input : CreditReservationInput)
  | settle (place : Nat) (actualCredits : JsString)
  | release (place : Nat)

/-- Store an account with its reservation at a place. -/
def CreditLedger.store (place : Nat) (mutation : CreditMutation) (ledger : CreditLedger) :
    CreditLedger :=
  ⟨mutation.account, ledger.reservations.set place mutation.reservation⟩

/-- Change the reservation at a place, if there is one. -/
def changeReservation (place : Nat)
    (change : CreditAccount → CreditReservation → Checked CreditMutation) :
    Program Failure CreditLedger Unit := do
  let ledger ← Program.read id
  match ledger.reservations[place]? with
  | none => return ()
  | some hold => do
    let mutation ← Program.check (change ledger.account hold)
    Program.update (CreditLedger.store place mutation)

/-- Perform an operation, and store what it returns. -/
def performCredit : CreditOperation → Program Failure CreditLedger Unit
  | .grant positiveCredits => do
    let ledger ← Program.read id
    let account ← Program.check (grantCreditAccount ledger.account positiveCredits)
    Program.update fun ledger => { ledger with account := account }
  | .reserve input => do
    let ledger ← Program.read id
    let mutation ← Program.check (reserveCreditAccount ledger.account input)
    Program.update fun ledger =>
      ⟨mutation.account, ledger.reservations ++ [mutation.reservation]⟩
  | .settle place actualCredits =>
    changeReservation place fun account hold => settleCreditReservation account hold actualCredits
  | .release place => changeReservation place releaseCreditReservation

/-- The credits that a reservation holds. -/
def heldCredits (reservation : CreditReservation) : Int :=
  if reservation.state = .reserved then bigInt reservation.quotedCredits else 0

/-- The credits that a reservation was settled at. -/
def spentOn (reservation : CreditReservation) : Int :=
  if reservation.state = .settled then (reservation.settledCredits.map bigInt).getD 0 else 0

/-- What holds of every ledger: its account and reservations are valid, and the account has in
reserve what the reservations hold and has spent what they were settled at. -/
structure Balanced (ledger : CreditLedger) : Prop where
  account : validateCreditAccount ledger.account = .ok ()
  reservation : ∀ hold ∈ ledger.reservations,
    validateCreditReservation hold = .ok () ∧ hold.scope = ledger.account.scope
  reserved : bigInt ledger.account.reservedCredits = (ledger.reservations.map heldCredits).sum
  spent : bigInt ledger.account.spentCredits = (ledger.reservations.map spentOn).sum

/-- What a valid account is. -/
structure ValidAccount (account : CreditAccount) : Prop where
  schema : account.schemaVersion = creditAccountSchema
  available : isCanonicalDigits account.availableCredits 48 = true
  reserved : isCanonicalDigits account.reservedCredits 48 = true
  spent : isCanonicalDigits account.spentCredits 48 = true
  granted : isCanonicalDigits account.grantedCredits 48 = true
  conserved : bigInt account.availableCredits + bigInt account.reservedCredits +
    bigInt account.spentCredits = bigInt account.grantedCredits
  scope : validateCreditScope account.scope = .ok ()
  revision : 1 ≤ account.revision ∧ account.revision ≤ maximumCreditRevision

/-- An amount passes its check when it is canonical. -/
theorem credits_eq_ok {input : JsString} : credits input false = .ok () ↔
    isCanonicalDigits input 48 = true := by
  simp [credits]

/-- A revision passes its check when it is in range. -/
theorem creditRevision_eq_ok {input : Int} : creditRevision input = .ok () ↔
    1 ≤ input ∧ input ≤ maximumCreditRevision := by
  have small : maximumCreditRevision ≤ maxSafeInteger := by decide
  simp only [creditRevision, rejectIf_eq_ok, not_or, Bool.not_eq_false, isPositiveInteger_iff,
    not_lt]
  omega

/-- An account passes its checks when it is valid. -/
theorem validateCreditAccount_eq_ok {account : CreditAccount} :
    validateCreditAccount account = .ok () ↔ ValidAccount account := by
  simp only [validateCreditAccount, bind_eq_ok, exists_unit, rejectIf_eq_ok, not_not,
    credits_eq_ok, creditRevision_eq_ok]
  constructor
  · rintro ⟨schema, available, reserved, spent, granted, conserved, scope, revision⟩
    exact ⟨schema, available, reserved, spent, granted, conserved, scope, revision⟩
  · intro valid
    exact ⟨valid.schema, valid.available, valid.reserved, valid.spent, valid.granted,
      valid.conserved, valid.scope, valid.revision⟩

/-- An amount that is not negative is read back from its text. -/
theorem bigInt_decimal_of_nonneg {amount : Int} (nonneg : 0 ≤ amount) :
    bigInt (decimal amount) = amount := by
  obtain ⟨value, rfl⟩ := Int.eq_ofNat_of_zero_le nonneg
  exact bigInt_decimal value

/-- An amount of at most what was granted is written as a canonical text. -/
theorem isCanonicalDigits_of_le {granted : JsString} {amount : Int}
    (canonical : isCanonicalDigits granted 48 = true) (nonneg : 0 ≤ amount)
    (covered : amount ≤ bigInt granted) : isCanonicalDigits (decimal amount) 48 = true := by
  obtain ⟨value, rfl⟩ := Int.eq_ofNat_of_zero_le nonneg
  have small := bigInt_lt canonical
  have fits : value < 10 ^ 48 := by omega
  exact isCanonicalDigits_decimal (by decide) fits

/-- How an operation moves an account: the next one is valid, of the same scope, and holds and has
spent so much more. -/
structure Moves (account next : CreditAccount) (held spent : Int) : Prop where
  valid : validateCreditAccount next = .ok ()
  scope : next.scope = account.scope
  reserved : bigInt next.reservedCredits = bigInt account.reservedCredits + held
  spent : bigInt next.spentCredits = bigInt account.spentCredits + spent

/-- A grant moves nothing into the reserve. -/
theorem moves_of_grant {account next : CreditAccount} {positiveCredits : JsString}
    (granted : grantCreditAccount account positiveCredits = .ok next) :
    Moves account next 0 0 := by
  simp only [grantCreditAccount, bind_eq_ok, exists_unit, pure_eq_ok] at granted
  obtain ⟨_, _, revision, _, valid, rfl⟩ := granted
  exact ⟨valid, rfl, (add_zero _).symm, (add_zero _).symm⟩

/-- A reservation moves its quote into the reserve. -/
theorem moves_of_reserve {account : CreditAccount} {input : CreditReservationInput}
    {mutation : CreditMutation} (reserved : reserveCreditAccount account input = .ok mutation) :
    Moves account mutation.account (heldCredits mutation.reservation)
        (spentOn mutation.reservation) ∧
      validateCreditReservation mutation.reservation = .ok () ∧
      mutation.reservation.scope = account.scope := by
  simp only [reserveCreditAccount, matchCreditScope, bind_eq_ok, exists_unit, rejectIf_eq_ok,
    not_not, not_lt, pure_eq_ok] at reserved
  obtain ⟨_, _, reservation, scope, covered, revision, _, valid, rfl⟩ := reserved
  refine ⟨⟨valid, rfl, ?_, ?_⟩, reservation, scope.symm⟩
  · have held := bigInt_nonneg account.reservedCredits
    have quoted := bigInt_nonneg input.quotedCredits
    show bigInt (decimal (bigInt account.reservedCredits + bigInt input.quotedCredits)) = _
    rw [bigInt_decimal_of_nonneg (by omega)]
    rfl
  · exact (add_zero _).symm

/-- How an operation changes a reservation: its account is moved by what the reservation holds and
was settled at, and the reservation stays a valid one of the account. -/
structure Changes (account : CreditAccount) (hold : CreditReservation)
    (mutation : CreditMutation) : Prop where
  moves : Moves account mutation.account
    (heldCredits mutation.reservation - heldCredits hold)
    (spentOn mutation.reservation - spentOn hold)
  reservation : validateCreditReservation mutation.reservation = .ok ()
  scope : mutation.reservation.scope = account.scope

/-- An operation that returns what it was given changes nothing. -/
theorem changes_self {account : CreditAccount} {hold : CreditReservation}
    (valid : validateCreditAccount account = .ok ())
    (reservation : validateCreditReservation hold = .ok ())
    (scope : account.scope = hold.scope) : Changes account hold ⟨account, hold⟩ := by
  refine ⟨⟨valid, rfl, ?_, ?_⟩, reservation, scope.symm⟩
  · rw [sub_self, add_zero]
  · rw [sub_self, add_zero]

/-- A hold is covered by the reserve when the amount is found there. -/
theorem reservedAmount_eq_ok {account : CreditAccount} {hold : CreditReservation} {quoted : Int} :
    reservedAmount account hold = .ok quoted ↔
      bigInt hold.quotedCredits ≤ bigInt account.reservedCredits ∧
        quoted = bigInt hold.quotedCredits := by
  simp only [reservedAmount, bind_eq_ok, exists_unit, rejectIf_eq_ok, not_lt, pure_eq_ok]
  exact and_congr_right fun _ => eq_comm

/-- A settlement moves the hold out of the reserve and its cost into what was spent. -/
theorem changes_of_settle {account : CreditAccount} {hold : CreditReservation}
    {actualCredits : JsString} {mutation : CreditMutation}
    (settled : settleCreditReservation account hold actualCredits = .ok mutation) :
    Changes account hold mutation := by
  simp only [settleCreditReservation, matchCreditScope, bind_eq_ok, exists_unit, rejectIf_eq_ok,
    not_not, not_lt] at settled
  obtain ⟨valid, reservation, scope, canonical, quote, settled⟩ := settled
  cases state : hold.state with
  | released => simp [state] at settled
  | settled =>
    simp only [state, bind_eq_ok, exists_unit, pure_eq_ok] at settled
    obtain ⟨_, rfl⟩ := settled
    exact changes_self valid reservation scope
  | reserved =>
    simp only [state, bind_eq_ok, exists_unit, reservedAmount_eq_ok, pure_eq_ok] at settled
    obtain ⟨quoted, ⟨covered, rfl⟩, revision, _, next, kept, rfl⟩ := settled
    have spent := bigInt_nonneg account.spentCredits
    have actual := bigInt_nonneg actualCredits
    refine ⟨⟨next, rfl, ?_, ?_⟩, kept, scope.symm⟩
    · show bigInt (decimal (_ - _)) = _
      rw [bigInt_decimal_of_nonneg (by omega)]
      simp [heldCredits, state]
      rfl
    · show bigInt (decimal (_ + _)) = _
      rw [bigInt_decimal_of_nonneg (by omega)]
      simp [spentOn, state]

/-- A release moves the hold out of the reserve. -/
theorem changes_of_release {account : CreditAccount} {hold : CreditReservation}
    {mutation : CreditMutation}
    (released : releaseCreditReservation account hold = .ok mutation) :
    Changes account hold mutation := by
  simp only [releaseCreditReservation, matchCreditScope, bind_eq_ok, exists_unit, rejectIf_eq_ok,
    not_not] at released
  obtain ⟨valid, reservation, scope, released⟩ := released
  cases state : hold.state with
  | settled => simp [state] at released
  | released =>
    simp only [state, pure_eq_ok] at released
    subst released
    exact changes_self valid reservation scope
  | reserved =>
    simp only [state, bind_eq_ok, exists_unit, reservedAmount_eq_ok, pure_eq_ok] at released
    obtain ⟨quoted, ⟨covered, rfl⟩, revision, _, next, kept, rfl⟩ := released
    refine ⟨⟨next, rfl, ?_, ?_⟩, kept, scope.symm⟩
    · show bigInt (decimal (_ - _)) = _
      rw [bigInt_decimal_of_nonneg (by omega)]
      simp [heldCredits, state]
      rfl
    · simp [spentOn, state]

/-- A new account with no reservation is balanced. -/
theorem balanced_create {scope : CreditScope} {account : CreditAccount}
    (created : createCreditAccount scope = .ok account) : Balanced ⟨account, []⟩ := by
  simp only [createCreditAccount, bind_eq_ok, exists_unit, pure_eq_ok] at created
  obtain ⟨valid, rfl⟩ := created
  have zero : bigInt (js "0") = 0 := by decide
  refine ⟨valid, ?_, zero, zero⟩
  intro hold member
  cases member

/-- The amounts of a list in which one item is replaced. -/
theorem sum_map_set {α : Type} {items : List α} {place : Nat} {old new : α} {weigh : α → Int}
    (found : items[place]? = some old) :
    ((items.set place new).map weigh).sum = (items.map weigh).sum + (weigh new - weigh old) := by
  obtain ⟨inside, rfl⟩ := List.getElem?_eq_some_iff.mp found
  have within : place < (items.map weigh).length := by
    rw [List.length_map]
    exact inside
  rw [List.map_set, List.sum_set', dif_pos within, List.getElem_map]
  omega

/-- A ledger stays balanced when one of its reservations changes. -/
theorem balanced_store {ledger : CreditLedger} {place : Nat} {hold : CreditReservation}
    {mutation : CreditMutation} (balanced : Balanced ledger)
    (found : ledger.reservations[place]? = some hold)
    (changes : Changes ledger.account hold mutation) :
    Balanced (ledger.store place mutation) := by
  have scope := changes.moves.scope
  refine ⟨changes.moves.valid, ?_, ?_, ?_⟩
  · intro other member
    show _ ∧ other.scope = mutation.account.scope
    rw [scope]
    cases List.mem_or_eq_of_mem_set member with
    | inl earlier => exact balanced.reservation other earlier
    | inr new =>
      rw [new]
      exact ⟨changes.reservation, changes.scope⟩
  · show bigInt mutation.account.reservedCredits = _
    rw [changes.moves.reserved, balanced.reserved]
    exact (sum_map_set found).symm
  · show bigInt mutation.account.spentCredits = _
    rw [changes.moves.spent, balanced.spent]
    exact (sum_map_set found).symm

/-- A change of a reservation leaves what it returns, or the ledger alone. -/
theorem run_changeReservation (place : Nat)
    (change : CreditAccount → CreditReservation → Checked CreditMutation)
    (ledger : CreditLedger) : (changeReservation place change).run ledger =
      match ledger.reservations[place]? with
      | none => (.ok (), ledger)
      | some hold =>
        match change ledger.account hold with
        | .error failure => (.error failure, ledger)
        | .ok mutation => (.ok (), ledger.store place mutation) := by
  rw [changeReservation, Program.run_read_bind, id]
  cases ledger.reservations[place]? with
  | none => rfl
  | some hold => cases changed : change ledger.account hold <;> simp [changed]

/-- A change of a reservation keeps a ledger balanced. -/
theorem balanced_changeReservation {place : Nat}
    {change : CreditAccount → CreditReservation → Checked CreditMutation} {ledger : CreditLedger}
    (balanced : Balanced ledger)
    (changes : ∀ hold mutation, change ledger.account hold = .ok mutation →
      Changes ledger.account hold mutation) :
    Balanced ((changeReservation place change).run ledger).2 := by
  rw [run_changeReservation]
  cases found : ledger.reservations[place]? with
  | none => exact balanced
  | some hold =>
    cases changed : change ledger.account hold with
    | error failure => simpa [changed] using balanced
    | ok mutation =>
      simpa [changed] using balanced_store balanced found (changes hold mutation changed)

/-- Every operation keeps a ledger balanced. -/
theorem balanced_performCredit (operation : CreditOperation) (ledger : CreditLedger)
    (balanced : Balanced ledger) : Balanced ((performCredit operation).run ledger).2 := by
  cases operation with
  | settle place actualCredits =>
    exact balanced_changeReservation balanced fun _ _ settled => changes_of_settle settled
  | release place =>
    exact balanced_changeReservation balanced fun _ _ released => changes_of_release released
  | grant positiveCredits =>
    rw [performCredit, Program.run_read_bind, id]
    cases granted : grantCreditAccount ledger.account positiveCredits with
    | error failure => exact balanced
    | ok account =>
      have moves := moves_of_grant granted
      rw [Program.run_check_ok_bind, Program.run_update]
      refine ⟨moves.valid, ?_, ?_, ?_⟩
      · intro hold member
        show _ ∧ hold.scope = account.scope
        rw [moves.scope]
        exact balanced.reservation hold member
      · show bigInt account.reservedCredits = _
        rw [moves.reserved, add_zero]
        exact balanced.reserved
      · show bigInt account.spentCredits = _
        rw [moves.spent, add_zero]
        exact balanced.spent
  | reserve input =>
    rw [performCredit, Program.run_read_bind, id]
    cases reserved : reserveCreditAccount ledger.account input with
    | error failure => exact balanced
    | ok mutation =>
      obtain ⟨moves, reservation, scope⟩ := moves_of_reserve reserved
      rw [Program.run_check_ok_bind, Program.run_update]
      refine ⟨moves.valid, ?_, ?_, ?_⟩
      · intro hold member
        show _ ∧ hold.scope = mutation.account.scope
        rw [moves.scope]
        rcases List.mem_append.mp member with earlier | last
        · exact balanced.reservation hold earlier
        · rw [List.mem_singleton.mp last]
          exact ⟨reservation, scope⟩
      · show bigInt mutation.account.reservedCredits = _
        rw [moves.reserved, balanced.reserved, List.map_append, List.sum_append, List.map_singleton,
          List.sum_singleton]
      · show bigInt mutation.account.spentCredits = _
        rw [moves.spent, balanced.spent, List.map_append, List.sum_append, List.map_singleton,
          List.sum_singleton]

/-- What a reservation holds is in the reserve. -/
theorem heldCredits_le {ledger : CreditLedger} {hold : CreditReservation}
    (balanced : Balanced ledger) (member : hold ∈ ledger.reservations) :
    heldCredits hold ≤ bigInt ledger.account.reservedCredits := by
  have nonneg : ∀ amount ∈ ledger.reservations.map heldCredits, 0 ≤ amount := by
    intro amount listed
    obtain ⟨other, _, rfl⟩ := List.mem_map.mp listed
    unfold heldCredits
    split
    · exact bigInt_nonneg _
    · exact le_rfl
  rw [balanced.reserved]
  exact List.single_le_sum nonneg _ (List.mem_map_of_mem member)

/-- An account stays valid when amounts that are not negative move within what was granted. -/
theorem validateCreditAccount_moved {account : CreditAccount} {revision available reserved : Int}
    {spentCredits : JsString} (valid : ValidAccount account)
    (inRange : 1 ≤ revision ∧ revision ≤ maximumCreditRevision) (free : 0 ≤ available)
    (held : 0 ≤ reserved) (canonical : isCanonicalDigits spentCredits 48 = true)
    (conserved : available + reserved + bigInt spentCredits = bigInt account.grantedCredits) :
    validateCreditAccount { account with
      revision := revision
      availableCredits := decimal available
      reservedCredits := decimal reserved
      spentCredits := spentCredits } = .ok () := by
  have spent := bigInt_nonneg spentCredits
  refine validateCreditAccount_eq_ok.mpr
    ⟨valid.schema, ?_, ?_, canonical, valid.granted, ?_, valid.scope, inRange⟩
  · exact isCanonicalDigits_of_le valid.granted free (by omega)
  · exact isCanonicalDigits_of_le valid.granted held (by omega)
  · show bigInt (decimal available) + bigInt (decimal reserved) + bigInt spentCredits = _
    rw [bigInt_decimal_of_nonneg free, bigInt_decimal_of_nonneg held]
    exact conserved

/-- The revision behind one below the largest is in range. -/
theorem nextCreditRevision_eq_ok {current : Int} (one : 1 ≤ current)
    (below : current < maximumCreditRevision) :
    nextCreditRevision current = .ok (current + 1) := by
  simp only [nextCreditRevision, bind_eq_ok, exists_unit, creditRevision_eq_ok, pure_eq_ok,
    and_true]
  omega

/-- What a valid reservation is. -/
theorem validateCreditReservation_eq_ok {hold : CreditReservation} :
    validateCreditReservation hold = .ok () ↔
      hold.schemaVersion = creditReservationSchema ∧
        reservationFields hold.toCreditReservationInput = .ok () ∧
          validateSettledCredits hold = .ok () := by
  simp [validateCreditReservation]

/-- A hold can be settled at any amount that its quote covers. -/
theorem settle_of_held {ledger : CreditLedger} {hold : CreditReservation}
    {actualCredits : JsString} (balanced : Balanced ledger) (member : hold ∈ ledger.reservations)
    (state : hold.state = .reserved) (below : ledger.account.revision < maximumCreditRevision)
    (canonical : isCanonicalDigits actualCredits 48 = true)
    (quote : bigInt actualCredits ≤ bigInt hold.quotedCredits) :
    ∃ account, settleCreditReservation ledger.account hold actualCredits = .ok ⟨account,
      { hold with state := .settled, settledCredits := some actualCredits }⟩ := by
  have valid := validateCreditAccount_eq_ok.mp balanced.account
  obtain ⟨reservation, scope⟩ := balanced.reservation hold member
  obtain ⟨schema, fields, _⟩ := validateCreditReservation_eq_ok.mp reservation
  have covered := heldCredits_le balanced member
  rw [heldCredits, if_pos state] at covered
  have free := bigInt_nonneg ledger.account.availableCredits
  have spent := bigInt_nonneg ledger.account.spentCredits
  have actual := bigInt_nonneg actualCredits
  have conserved := valid.conserved
  have amount := bigInt_decimal_of_nonneg (show 0 ≤ bigInt ledger.account.spentCredits +
    bigInt actualCredits by omega)
  have written : isCanonicalDigits (decimal (bigInt ledger.account.spentCredits +
      bigInt actualCredits)) 48 = true :=
    isCanonicalDigits_of_le valid.granted (by omega) (by omega)
  have one := valid.revision.1
  have next := validateCreditAccount_moved valid
    (show 1 ≤ ledger.account.revision + 1 ∧
      ledger.account.revision + 1 ≤ maximumCreditRevision by omega)
    (show 0 ≤ bigInt ledger.account.availableCredits + bigInt hold.quotedCredits -
      bigInt actualCredits by omega)
    (show 0 ≤ bigInt ledger.account.reservedCredits - bigInt hold.quotedCredits by omega) written
    (by omega)
  have settled : validateCreditReservation { hold with
      state := .settled, settledCredits := some actualCredits } = .ok () := by
    refine validateCreditReservation_eq_ok.mpr ⟨schema, fields, ?_⟩
    simp [validateSettledCredits, credits_eq_ok, canonical, quote]
  have matched : matchCreditScope ledger.account.scope hold.scope = .ok () := by
    simp [matchCreditScope, scope]
  have within : rejectIf (bigInt hold.quotedCredits < bigInt actualCredits)
      (creditLedgerError "plugin_credit_quote_exceeded") = .ok () := by
    simpa using quote
  simp only [settleCreditReservation, balanced.account, reservation, matched, within, state,
    credits_eq_ok.mpr canonical, reservedAmount_eq_ok.mpr ⟨covered, rfl⟩,
    nextCreditRevision_eq_ok valid.revision.1 below, ok_bind, next, settled]
  exact ⟨_, rfl⟩

/-- A hold can be released. -/
theorem release_of_held {ledger : CreditLedger} {hold : CreditReservation}
    (balanced : Balanced ledger) (member : hold ∈ ledger.reservations)
    (state : hold.state = .reserved) (below : ledger.account.revision < maximumCreditRevision) :
    ∃ account, releaseCreditReservation ledger.account hold = .ok ⟨account,
      { hold with state := .released, settledCredits := some (js "0") }⟩ := by
  have valid := validateCreditAccount_eq_ok.mp balanced.account
  obtain ⟨reservation, scope⟩ := balanced.reservation hold member
  obtain ⟨schema, fields, _⟩ := validateCreditReservation_eq_ok.mp reservation
  have covered := heldCredits_le balanced member
  rw [heldCredits, if_pos state] at covered
  have free := bigInt_nonneg ledger.account.availableCredits
  have quoted := bigInt_nonneg hold.quotedCredits
  have conserved := valid.conserved
  have one := valid.revision.1
  have next := validateCreditAccount_moved valid
    (show 1 ≤ ledger.account.revision + 1 ∧
      ledger.account.revision + 1 ≤ maximumCreditRevision by omega)
    (show 0 ≤ bigInt ledger.account.availableCredits + bigInt hold.quotedCredits by omega)
    (show 0 ≤ bigInt ledger.account.reservedCredits - bigInt hold.quotedCredits by omega)
    valid.spent (by omega)
  have released : validateCreditReservation { hold with
      state := .released, settledCredits := some (js "0") } = .ok () := by
    refine validateCreditReservation_eq_ok.mpr ⟨schema, fields, ?_⟩
    simp [validateSettledCredits]
  have matched : matchCreditScope ledger.account.scope hold.scope = .ok () := by
    simp [matchCreditScope, scope]
  simp only [releaseCreditReservation, balanced.account, reservation, matched, state,
    reservedAmount_eq_ok.mpr ⟨covered, rfl⟩, nextCreditRevision_eq_ok valid.revision.1 below,
    ok_bind, next, released]
  exact ⟨_, rfl⟩

/-- The operation concerns the reservation at a place. -/
def CreditOperation.Concerns (operation : CreditOperation) (place : Nat) : Prop :=
  match operation with
  | .grant _ => False
  | .reserve _ => False
  | .settle other _ => other = place
  | .release other => other = place

/-- The operation is the one that ended a reservation. -/
def CreditOperation.Ended (operation : CreditOperation) (hold : CreditReservation) : Prop :=
  match operation with
  | .grant _ => False
  | .reserve _ => False
  | .settle _ actualCredits => hold.state = .settled ∧ hold.settledCredits = some actualCredits
  | .release _ => hold.state = .released

/-- Settling an ended reservation changes nothing when it was settled at that amount, and is
rejected otherwise. -/
theorem settle_of_ended {ledger : CreditLedger} {hold : CreditReservation}
    {actualCredits : JsString} (balanced : Balanced ledger) (member : hold ∈ ledger.reservations)
    (ended : hold.state ≠ .reserved) :
    (hold.state = .settled ∧ hold.settledCredits = some actualCredits →
      settleCreditReservation ledger.account hold actualCredits = .ok ⟨ledger.account, hold⟩) ∧
    (¬ (hold.state = .settled ∧ hold.settledCredits = some actualCredits) →
      ∃ failure, settleCreditReservation ledger.account hold actualCredits = .error failure) := by
  obtain ⟨reservation, scope⟩ := balanced.reservation hold member
  constructor
  · rintro ⟨state, same⟩
    have settled := (validateCreditReservation_eq_ok.mp reservation).2.2
    simp only [validateSettledCredits, state, same, bind_eq_ok, exists_unit,
      rejectIf_eq_ok] at settled
    simp [settleCreditReservation, matchCreditScope, balanced.account, reservation, scope, state,
      same, settled]
    rfl
  · intro other
    cases outcome : settleCreditReservation ledger.account hold actualCredits with
    | error failure => exact ⟨failure, rfl⟩
    | ok mutation =>
      simp only [settleCreditReservation, bind_eq_ok, exists_unit] at outcome
      obtain ⟨_, _, _, _, _, outcome⟩ := outcome
      cases state : hold.state with
      | reserved => exact absurd state ended
      | released => simp [state] at outcome
      | settled =>
        simp only [state, bind_eq_ok, exists_unit, rejectIf_eq_ok, not_not] at outcome
        exact absurd ⟨state, outcome.1⟩ other

/-- Releasing an ended reservation changes nothing when it was released, and is rejected
otherwise. -/
theorem release_of_ended {ledger : CreditLedger} {hold : CreditReservation}
    (balanced : Balanced ledger) (member : hold ∈ ledger.reservations)
    (ended : hold.state ≠ .reserved) :
    (hold.state = .released →
      releaseCreditReservation ledger.account hold = .ok ⟨ledger.account, hold⟩) ∧
    (hold.state ≠ .released →
      ∃ failure, releaseCreditReservation ledger.account hold = .error failure) := by
  obtain ⟨reservation, scope⟩ := balanced.reservation hold member
  cases state : hold.state with
  | reserved => exact absurd state ended
  | released =>
    refine ⟨fun _ => ?_, fun other => absurd rfl other⟩
    simp [releaseCreditReservation, matchCreditScope, balanced.account, reservation, scope, state]
    rfl
  | settled =>
    refine ⟨nofun, fun _ => ⟨creditLedgerError "plugin_credit_reservation_terminal_conflict", ?_⟩⟩
    simp [releaseCreditReservation, matchCreditScope, balanced.account, reservation, scope, state]
    rfl

/-- Storing what is there already leaves a ledger as it is. -/
theorem store_self {ledger : CreditLedger} {place : Nat} {hold : CreditReservation}
    (found : ledger.reservations[place]? = some hold) :
    ledger.store place ⟨ledger.account, hold⟩ = ledger := by
  obtain ⟨inside, rfl⟩ := List.getElem?_eq_some_iff.mp found
  rw [CreditLedger.store, List.set_getElem_self]

/-- What an operation does to an ended reservation: nothing, or it is rejected. -/
structure Terminal (ledger : CreditLedger) (hold : CreditReservation)
    (operation : CreditOperation) : Prop where
  repeated : operation.Ended hold → (performCredit operation).run ledger = (.ok (), ledger)
  rejected : ¬ operation.Ended hold →
    ∃ failure, (performCredit operation).run ledger = (.error failure, ledger)

/-- An ended reservation is terminal. -/
theorem terminal_of_ended {ledger : CreditLedger} {place : Nat} {hold : CreditReservation}
    {operation : CreditOperation} (balanced : Balanced ledger)
    (found : ledger.reservations[place]? = some hold) (ended : hold.state ≠ .reserved)
    (concerns : operation.Concerns place) : Terminal ledger hold operation := by
  have member := List.mem_of_getElem? found
  cases operation with
  | grant positiveCredits => exact concerns.elim
  | reserve input => exact concerns.elim
  | settle other actualCredits =>
    obtain rfl : other = place := concerns
    obtain ⟨same, different⟩ := @settle_of_ended ledger hold actualCredits balanced member
      ended
    constructor
    · intro repeated
      rw [performCredit, run_changeReservation, found]
      simp only [same repeated, store_self found]
    · intro changed
      obtain ⟨failure, rejected⟩ := different changed
      refine ⟨failure, ?_⟩
      rw [performCredit, run_changeReservation, found]
      simp only [rejected]
  | release other =>
    obtain rfl : other = place := concerns
    obtain ⟨same, different⟩ := release_of_ended balanced member ended
    constructor
    · intro repeated
      rw [performCredit, run_changeReservation, found]
      simp only [same repeated, store_self found]
    · intro changed
      obtain ⟨failure, rejected⟩ := different changed
      refine ⟨failure, ?_⟩
      rw [performCredit, run_changeReservation, found]
      simp only [rejected]

/-- A change of a reservation leaves the ones at other places. -/
theorem changeReservation_other {place other : Nat} (different : other ≠ place)
    (change : CreditAccount → CreditReservation → Checked CreditMutation)
    (ledger : CreditLedger) :
    ((changeReservation other change).run ledger).2.reservations[place]? =
      ledger.reservations[place]? := by
  rw [run_changeReservation]
  cases ledger.reservations[other]? with
  | none => rfl
  | some hold =>
    cases changed : change ledger.account hold with
    | error failure => simp [changed]
    | ok mutation => simp [changed, CreditLedger.store, different]

/-- An operation that does not concern a reservation leaves it. -/
theorem performCredit_other {ledger : CreditLedger} {place : Nat} {hold : CreditReservation}
    {operation : CreditOperation} (found : ledger.reservations[place]? = some hold)
    (elsewhere : ¬ operation.Concerns place) :
    ((performCredit operation).run ledger).2.reservations[place]? = some hold := by
  cases operation with
  | settle other actualCredits =>
    rw [performCredit, changeReservation_other elsewhere]
    exact found
  | release other =>
    rw [performCredit, changeReservation_other elsewhere]
    exact found
  | grant positiveCredits =>
    rw [performCredit, Program.run_read_bind, id]
    cases grantCreditAccount ledger.account positiveCredits <;> exact found
  | reserve input =>
    rw [performCredit, Program.run_read_bind, id]
    cases reserveCreditAccount ledger.account input with
    | error failure => exact found
    | ok mutation =>
      obtain ⟨inside, _⟩ := List.getElem?_eq_some_iff.mp found
      show (ledger.reservations ++ [mutation.reservation])[place]? = some hold
      rw [List.getElem?_append_left inside]
      exact found

/-- Every operation leaves an ended reservation. -/
theorem performCredit_ended {ledger : CreditLedger} {place : Nat} {hold : CreditReservation}
    (operation : CreditOperation) (balanced : Balanced ledger)
    (found : ledger.reservations[place]? = some hold) (ended : hold.state ≠ .reserved) :
    ((performCredit operation).run ledger).2.reservations[place]? = some hold := by
  by_cases concerns : operation.Concerns place
  · have terminal := terminal_of_ended balanced found ended concerns
    by_cases repeated : operation.Ended hold
    · rw [terminal.repeated repeated]
      exact found
    · obtain ⟨failure, rejected⟩ := terminal.rejected repeated
      rw [rejected]
      exact found
  · exact performCredit_other found concerns

/-- What is promised of every ledger. -/
structure Sound (ledger : CreditLedger) : Prop where
  conserved : bigInt ledger.account.availableCredits + bigInt ledger.account.reservedCredits +
    bigInt ledger.account.spentCredits = bigInt ledger.account.grantedCredits
  reserved : bigInt ledger.account.reservedCredits = (ledger.reservations.map heldCredits).sum
  spent : bigInt ledger.account.spentCredits = (ledger.reservations.map spentOn).sum
  amounts : ∀ amount ∈ [ledger.account.availableCredits, ledger.account.reservedCredits,
    ledger.account.spentCredits, ledger.account.grantedCredits],
      isCanonicalDigits amount 48 = true ∧ 0 ≤ bigInt amount
  /-- A hold can be settled at any amount that its quote covers. -/
  settles : ∀ place hold actualCredits, ledger.reservations[place]? = some hold →
    hold.state = .reserved → ledger.account.revision < maximumCreditRevision →
      isCanonicalDigits actualCredits 48 = true →
        bigInt actualCredits ≤ bigInt hold.quotedCredits →
          ∃ account, (performCredit (.settle place actualCredits)).run ledger =
            (.ok (), ledger.store place ⟨account,
              { hold with state := .settled, settledCredits := some actualCredits }⟩)
  /-- A hold can be released. -/
  releases : ∀ place hold, ledger.reservations[place]? = some hold → hold.state = .reserved →
    ledger.account.revision < maximumCreditRevision →
      ∃ account, (performCredit (.release place)).run ledger =
        (.ok (), ledger.store place ⟨account,
          { hold with state := .released, settledCredits := some (js "0") }⟩)
  /-- An ended reservation is terminal. -/
  terminal : ∀ (place : Nat) (hold : CreditReservation) operation,
    ledger.reservations[place]? = some hold → hold.state ≠ .reserved →
      operation.Concerns place → Terminal ledger hold operation
  /-- An ended reservation stays as it is. -/
  lasting : ∀ (place : Nat) (hold : CreditReservation) later,
    ledger.reservations[place]? = some hold → hold.state ≠ .reserved →
      (finalState performCredit ledger later).reservations[place]? = some hold

/-- A balanced ledger is sound. -/
theorem Balanced.sound {ledger : CreditLedger} (balanced : Balanced ledger) : Sound ledger := by
  have valid := validateCreditAccount_eq_ok.mp balanced.account
  refine ⟨valid.conserved, balanced.reserved, balanced.spent, ?_, ?_, ?_, ?_, ?_⟩
  · intro amount member
    refine ⟨?_, bigInt_nonneg amount⟩
    simp only [List.mem_cons, List.not_mem_nil, or_false] at member
    rcases member with rfl | rfl | rfl | rfl
    · exact valid.available
    · exact valid.reserved
    · exact valid.spent
    · exact valid.granted
  · intro place hold actualCredits found state below canonical quote
    obtain ⟨account, settled⟩ := settle_of_held balanced (List.mem_of_getElem? found) state below
      canonical quote
    refine ⟨account, ?_⟩
    rw [performCredit, run_changeReservation, found]
    simp only [settled]
  · intro place hold found state below
    obtain ⟨account, released⟩ := release_of_held balanced (List.mem_of_getElem? found) state below
    refine ⟨account, ?_⟩
    rw [performCredit, run_changeReservation, found]
    simp only [released]
  · intro place hold operation found ended concerns
    exact terminal_of_ended balanced found ended concerns
  · intro place hold later found ended
    have kept := finalState_invariant
      (fun ledger => Balanced ledger ∧ ledger.reservations[place]? = some hold)
      (fun operation ledger held => ⟨balanced_performCredit operation ledger held.1,
        performCredit_ended operation held.1 held.2 ended⟩) ⟨balanced, found⟩ later
    exact kept.2

/-- Whatever operations are performed on a new account and its reservations, the ledger that they
lead to is sound. -/
theorem sound_of_operations {scope : CreditScope} {account : CreditAccount}
    (created : createCreditAccount scope = .ok account) (operations : List CreditOperation) :
    Sound (finalState performCredit ⟨account, []⟩ operations) :=
  (finalState_invariant Balanced balanced_performCredit (balanced_create created) operations).sound

/-- A scope. -/
def sampleCreditScope : CreditScope := ⟨js "tenant-1", js "principal-1", js "default"⟩

/-- A new account of the scope. -/
def sampleCreditAccount : CreditAccount where
  schemaVersion := creditAccountSchema
  scope := sampleCreditScope
  revision := 1
  availableCredits := js "0"
  reservedCredits := js "0"
  spentCredits := js "0"
  grantedCredits := js "0"

/-- A request to reserve credits of the scope. -/
def sampleCreditRequest : CreditReservationInput where
  scope := sampleCreditScope
  reservationId := js "reservation-1"
  idempotencyKey := js "request-1"
  requestDigest := js "sha256:aaaaaaaaaaaaaaaaaaaaaaaaaaaaaaaaaaaaaaaaaaaaaaaaaaaaaaaaaaaaaaaa"
  pluginId := js "crewon.image"
  priceRevision := 1
  quotedCredits := js "40"

/-- Credits are granted, reserved twice, settled once, replayed and released once. -/
def sampleCreditOperations : List CreditOperation :=
  [.grant (js "100"), .reserve sampleCreditRequest, .reserve sampleCreditRequest,
    .settle 0 (js "25"), .settle 0 (js "25"), .release 1]

/-- The operations on the account leave a sound ledger, with what was settled spent. -/
theorem sampleCreditOperations_sound :
    createCreditAccount sampleCreditScope = .ok sampleCreditAccount ∧
      (finalState performCredit ⟨sampleCreditAccount, []⟩ sampleCreditOperations).account
        = { sampleCreditAccount with
          revision := 6, availableCredits := js "75", spentCredits := js "25",
          grantedCredits := js "100" } ∧
      Sound (finalState performCredit ⟨sampleCreditAccount, []⟩ sampleCreditOperations) := by
  have created : createCreditAccount sampleCreditScope = .ok sampleCreditAccount := by
    decide_cbv
  refine ⟨created, by decide_cbv, ?_⟩
  exact sound_of_operations created sampleCreditOperations

end Crewon.Verif.PluginCredit
