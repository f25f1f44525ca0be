import Crewon.Domain.Failure
import Crewon.Js.BigInt

/-!
# Credits of plugins

Credits are granted to an account, reserved for a request at its quoted amount, and settled at what
the request cost or released. Amounts are decimal texts of at most 48 digits.
-/

namespace Crewon.Domain

open Crewon.Js Crewon.Checked

/-- Whose credits these are. The pool says which balance is used. -/
structure CreditScope where
  tenantId : JsString
  principalId : JsString
  poolId : JsString
deriving DecidableEq

/-- The credits of a scope. -/
structure CreditAccount where
  schemaVersion : JsString
  scope : CreditScope
  revision : Int
  availableCredits : JsString
  reservedCredits : JsString
  spentCredits : JsString
  grantedCredits : JsString
deriving DecidableEq

/-- A request to reserve credits. -/
structure CreditReservationInput where
  scope : CreditScope
  reservationId : JsString
  idempotencyKey : JsString
  requestDigest : JsString
  pluginId : JsString
  priceRevision : Int
  quotedCredits : JsString
deriving DecidableEq

/-- Where a reservation is. -/
inductive CreditReservationState where
  | reserved
  | settled
  | released
deriving DecidableEq

/-- A reservation. -/
structure CreditReservation extends CreditReservationInput where
  schemaVersion : JsString
  state : CreditReservationState
  settledCredits : Option JsString
deriving DecidableEq

/-- An account with one of its reservations. -/
structure CreditMutation where
  account : CreditAccount
  reservation : CreditReservation
deriving DecidableEq

/-- A rejection of the ledger. -/
def creditLedgerError (code : String) : Failure := ⟨.pluginCredit, code⟩

/-- The version of accounts. -/
def creditAccountSchema : JsString := js "crewon.plugin-credit-account.v0"

/-- The version of reservations. -/
def creditReservationSchema : JsString := js "crewon.plugin-credit-reservation.v0"

/-- The largest revision. -/
def maximumCreditRevision : Int := 2147483647

/-- The checks of an amount. -/
def credits (input : JsString) (positive : Bool) : Checked Unit :=
  rejectIf (isCanonicalDigits input 48 = false ∨ positive = true ∧ input = js "0")
    (creditLedgerError "plugin_credit_amount_invalid")

/-- The checks of an identifier. -/
def creditIdentifier (input : JsString) : Checked Unit := do
  rejectIf (input.length = 0 ∨ input.trim ≠ input ∨ 128 < input.length ∨
      input.units.any JsString.isControlOrDelete = true)
    (creditLedgerError "plugin_credit_identity_invalid")
  rejectIf (input.hasLoneSurrogate = true) (creditLedgerError "plugin_credit_identity_invalid")

/-- The checks of a revision. -/
def creditRevision (input : Int) : Checked Unit :=
  rejectIf (isPositiveInteger input = false ∨ maximumCreditRevision < input)
    (creditLedgerError "plugin_credit_revision_invalid")

/-- The revision behind another one. -/
def nextCreditRevision (current : Int) : Checked Int := do
  creditRevision (current + 1)
  return current + 1

/-- The checks of a scope. -/
def validateCreditScope (input : CreditScope) : Checked Unit := do
  creditIdentifier input.tenantId
  creditIdentifier input.principalId
  creditIdentifier input.poolId

/-- The checks of an account. -/
def validateCreditAccount (input : CreditAccount) : Checked Unit := do
  rejectIf (input.schemaVersion ≠ creditAccountSchema)
    (creditLedgerError "plugin_credit_account_schema_unsupported")
  credits input.availableCredits false
  credits input.reservedCredits false
  credits input.spentCredits false
  credits input.grantedCredits false
  rejectIf (bigInt input.availableCredits + bigInt input.reservedCredits +
      bigInt input.spentCredits ≠ bigInt input.grantedCredits)
    (creditLedgerError "plugin_credit_account_invariant_invalid")
  validateCreditScope input.scope
  creditRevision input.revision

/-- The pattern `^[a-z][a-z0-9]*(?:[.-][a-z0-9]+)+$`, behind its first letter: whether the text is in
a part behind a separator, and whether that part has a unit. -/
def pluginIdTail : Bool → Bool → List UInt16 → Bool
  | separated, filled, [] => separated && filled
  | separated, filled, point :: rest =>
    if isLowerLetter point || isDigit point then pluginIdTail separated true rest
    else if point = unit '.' || point = unit '-' then filled && pluginIdTail true false rest
    else false

/-- The checks of the name of a plugin. -/
def isPluginId (input : JsString) : Bool :=
  input.length ≤ 48 &&
    match input.units with
    | [] => false
    | first :: rest => isLowerLetter first && pluginIdTail false true rest

/-- The checks of what a reservation is for. -/
def reservationFields (input : CreditReservationInput) : Checked Unit := do
  rejectIf (isDigest input.requestDigest = false)
    (creditLedgerError "plugin_credit_request_digest_invalid")
  creditIdentifier input.pluginId
  rejectIf (isPluginId input.pluginId = false)
    (creditLedgerError "plugin_credit_plugin_id_invalid")
  validateCreditScope input.scope
  creditIdentifier input.reservationId
  creditIdentifier input.idempotencyKey
  creditRevision input.priceRevision
  credits input.quotedCredits true

/-- The checks of a request to reserve credits. -/
def validateCreditReservationInput (input : CreditReservationInput) : Checked Unit :=
  reservationFields input

/-- The checks of what a reservation was settled at. -/
def validateSettledCredits (input : CreditReservation) : Checked Unit :=
  match input.state with
  | .reserved => rejectIf (input.settledCredits ≠ none)
      (creditLedgerError "plugin_credit_reservation_settlement_invalid")
  | .settled =>
    match input.settledCredits with
    | none => .error (creditLedgerError "plugin_credit_amount_invalid")
    | some settledCredits => do
      credits settledCredits false
      rejectIf (bigInt input.quotedCredits < bigInt settledCredits)
        (creditLedgerError "plugin_credit_quote_exceeded")
  | .released => rejectIf (input.settledCredits ≠ some (js "0"))
      (creditLedgerError "plugin_credit_reservation_settlement_invalid")

/-- The checks of a reservation. -/
def validateCreditReservation (input : CreditReservation) : Checked Unit := do
  rejectIf (input.schemaVersion ≠ creditReservationSchema)
    (creditLedgerError "plugin_credit_reservation_schema_unsupported")
  reservationFields input.toCreditReservationInput
  validateSettledCredits input

/-- An account starts empty. -/
def createCreditAccount (scope : CreditScope) : Checked CreditAccount := do
  let account : CreditAccount := {
    schemaVersion := creditAccountSchema
    scope := scope
    revision := 1
    availableCredits := js "0"
    reservedCredits := js "0"
    spentCredits := js "0"
    grantedCredits := js "0" }
  validateCreditAccount account
  return account

/-- Grant credits to an account. -/
def grantCreditAccount (account : CreditAccount) (positiveCredits : JsString) :
    Checked CreditAccount := do
  validateCreditAccount account
  credits positiveCredits true
  let amount := bigInt positiveCredits
  let revision ← nextCreditRevision account.revision
  let next := { account with
    revision := revision
    availableCredits := decimal (bigInt account.availableCredits + amount)
    grantedCredits := decimal (bigInt account.grantedCredits + amount) }
  validateCreditAccount next
  return next

/-- The scopes are the same. -/
def matchCreditScope (left right : CreditScope) : Checked Unit :=
  rejectIf (left ≠ right) (creditLedgerError "plugin_credit_scope_mismatch")

/-- Reserve the quoted credits of a request. -/
def reserveCreditAccount (account : CreditAccount) (input : CreditReservationInput) :
    Checked CreditMutation := do
  validateCreditAccount account
  validateCreditReservationInput input
  let reservation : CreditReservation := { input with
    schemaVersion := creditReservationSchema
    state := .reserved
    settledCredits := none }
  validateCreditReservation reservation
  matchCreditScope account.scope reservation.scope
  let amount := bigInt reservation.quotedCredits
  rejectIf (bigInt account.availableCredits < amount)
    (creditLedgerError "plugin_credit_insufficient_balance")
  let revision ← nextCreditRevision account.revision
  let next := { account with
    revision := revision
    availableCredits := decimal (bigInt account.availableCredits - amount)
    reservedCredits := decimal (bigInt account.reservedCredits + amount) }
  validateCreditAccount next
  return ⟨next, reservation⟩

/-- The quoted amount, which the account has to hold. -/
def reservedAmount (account : CreditAccount) (reservation : CreditReservation) : Checked Int := do
  let quoted := bigInt reservation.quotedCredits
  rejectIf (bigInt account.reservedCredits < quoted)
    (creditLedgerError "plugin_credit_reserved_balance_mismatch")
  return quoted

/-- Settle a reservation at what the request cost. -/
def settleCreditReservation (account : CreditAccount) (hold : CreditReservation)
    (actualCredits : JsString) : Checked CreditMutation := do
  validateCreditAccount account
  validateCreditReservation hold
  matchCreditScope account.scope hold.scope
  credits actualCredits false
  rejectIf (bigInt hold.quotedCredits < bigInt actualCredits)
    (creditLedgerError "plugin_credit_quote_exceeded")
  match hold.state with
  | .settled => do
    rejectIf (hold.settledCredits ≠ some actualCredits)
      (creditLedgerError "plugin_credit_settlement_conflict")
    return ⟨account, hold⟩
  | .released => .error (creditLedgerError "plugin_credit_reservation_terminal_conflict")
  | .reserved => do
    let quoted ← reservedAmount account hold
    let revision ← nextCreditRevision account.revision
    let next := { account with
      revision := revision
      availableCredits := decimal (bigInt account.availableCredits + quoted - bigInt actualCredits)
      reservedCredits := decimal (bigInt account.reservedCredits - quoted)
      spentCredits := decimal (bigInt account.spentCredits + bigInt actualCredits) }
    validateCreditAccount next
    let settled := { hold with
      state := .settled
      settledCredits := some actualCredits }
    validateCreditReservation settled
    return ⟨next, settled⟩

/-- Release an unsettled hold. -/
def releaseCreditReservation (account : CreditAccount) (hold : CreditReservation) :
    Checked CreditMutation := do
  validateCreditAccount account
  validateCreditReservation hold
  matchCreditScope account.scope hold.scope
  match hold.state with
  | .released => return ⟨account, hold⟩
  | .settled => .error (creditLedgerError "plugin_credit_reservation_terminal_conflict")
  | .reserved => do
    let quoted ← reservedAmount account hold
    let revision ← nextCreditRevision account.revision
    let next := { account with
      revision := revision
      availableCredits := decimal (bigInt account.availableCredits + quoted)
      reservedCredits := decimal (bigInt account.reservedCredits - quoted) }
    validateCreditAccount next
    let released := { hold with
      state := .released
      settledCredits := some (js "0") }
    validateCreditReservation released
    return ⟨next, released⟩

end Crewon.Domain
