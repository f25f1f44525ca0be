import Crewon.Js.Date
import Crewon.Js.Number
import Crewon.Lib.Checked

/-!
# Rejections and the checks that raise them

Every rejection carries the error class that is thrown and its code. The field checks are the
ones each source file repeats for its own error class; here they take the rejection.
-/

namespace Crewon.Domain

open Crewon.Js Crewon.Checked

/-- The error classes the program distinguishes. -/
inductive ErrorClass where
  | runLifecycle
  | runGoalAccounting
  | threadGoal
  | threadGoalEvent
  | runPlan
  | workflowVersion
  | automation
  | workspaceChange
  | pluginCredit
  | creativeProject
  | projectText
  | extensionManifest
  | modelTransport
  | agentKernel
  | toolBroker
  | toolExecutionPending
  | toolResultCapacity
  | contractValidation
  | deviceGateway
  | runProgress
  | plain
  | modelHistory
  | threadRollback
  | threadLifecycle
  | proposedPlan
  | executionLifecycle
  | toolExecutionReceipt
  | toolApproval
  | context
  | governedContext
  | store
  | automationStore
  | range
  | applicationConflict
  | applicationInternal
  | applicationNotFound
  | applicationAuthorization
  | applicationValidation
deriving DecidableEq

/-- A rejection: the class thrown and its code. -/
structure Failure where
  /-- The class of the error. -/
  kind : ErrorClass
  /-- The code it carries. -/
  code : String
deriving DecidableEq

/-- A computation that the program may abort with a rejection. -/
abbrev Checked := Except Failure

/-- Reject a text that is empty after trimming. -/
def requireNonEmpty (value : JsString) (failure : Failure) : Checked Unit :=
  rejectIf (value.isBlank = true) failure

/-- Reject a text that is present and empty after trimming. -/
def requireNullableNonEmpty (value : Option JsString) (failure : Failure) : Checked Unit :=
  whenPresent value fun text => requireNonEmpty text failure

/-- Reject a number that is not a safe integer of at least one. -/
def requirePositiveInteger (value : Int) (failure : Failure) : Checked Unit :=
  rejectIf (isPositiveInteger value = false) failure

/-- Reject a number that is not a safe integer of at least zero. -/
def requireNonNegativeInteger (value : Int) (failure : Failure) : Checked Unit :=
  rejectIf (isNonNegativeInteger value = false) failure

/-- Reject a text longer than the bound in UTF-8. -/
def requireBoundedString (value : JsString) (maxBytes : Nat) (failure : Failure) : Checked Unit :=
  rejectIf (value.fitsBytes maxBytes = false) failure

/-- Reject a text that is empty after trimming or longer than the bound in UTF-8. -/
def requireBoundedNonEmpty (value : JsString) (maxBytes : Nat) (failure : Failure) :
    Checked Unit :=
  rejectIf (value.isBlank = true ∨ value.fitsBytes maxBytes = false) failure

/-- Reject a text that is not a timestamp. -/
def requireTimestamp (value : JsString) (failure : Failure) : Checked Unit :=
  rejectIf (isTimestamp value = false) failure

/-- The sum of two counters, rejected when it is negative or no safe integer. -/
def addSafeIntegers (left right : Int) (failure : Failure) : Checked Int :=
  if isNonNegativeInteger (left + right) then .ok (left + right) else .error failure

/-- The next value of a counter. -/
def incrementSafeInteger (value : Int) (failure : Failure) : Checked Int :=
  addSafeIntegers value 1 failure

@[simp] theorem requireNonEmpty_eq_ok {value : JsString} {failure : Failure} {result : Unit} :
    requireNonEmpty value failure = .ok result ↔ value.isBlank = false := by
  simp [requireNonEmpty]

@[simp] theorem requirePositiveInteger_eq_ok {value : Int} {failure : Failure} {result : Unit} :
    requirePositiveInteger value failure = .ok result ↔ 1 ≤ value ∧ value ≤ maxSafeInteger := by
  simp [requirePositiveInteger, isPositiveInteger_iff]

@[simp] theorem requireNonNegativeInteger_eq_ok {value : Int} {failure : Failure}
    {result : Unit} : requireNonNegativeInteger value failure = .ok result ↔
      0 ≤ value ∧ value ≤ maxSafeInteger := by
  simp [requireNonNegativeInteger, isNonNegativeInteger_iff]

@[simp] theorem requireTimestamp_eq_ok {value : JsString} {failure : Failure} {result : Unit} :
    requireTimestamp value failure = .ok result ↔ isTimestamp value = true := by
  simp [requireTimestamp]

@[simp] theorem addSafeIntegers_eq_ok {left right result : Int} {failure : Failure} :
    addSafeIntegers left right failure = .ok result ↔
      result = left + right ∧ 0 ≤ result ∧ result ≤ maxSafeInteger := by
  unfold addSafeIntegers
  split
  case isTrue safe =>
    have bounds := isNonNegativeInteger_iff.mp safe
    simp only [Except.ok.injEq]
    omega
  case isFalse overflow =>
    have bounds := mt isNonNegativeInteger_iff.mpr overflow
    simp only [reduceCtorEq, false_iff]
    omega

end Crewon.Domain
