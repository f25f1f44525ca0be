import Crewon.Lib.Trace
import Crewon.Store.ToolExecution
import Mathlib

/-!
# A receipt of a tool execution is dispatched once

Every accepted transition moves a receipt along one of a few edges, none of which leads back to
its preparation. What a transition leaves is a valid receipt again, so along every history of a
receipt, and along every run of the store, a receipt is dispatched at most once, is completed
only after that, and stays as it is once it has ended.
-/

namespace Crewon.Verif.ToolExecution

open Crewon.Js Crewon.Checked Crewon.Domain Crewon.Lib Crewon.Store

section Receipts

variable {receipt next : ToolExecutionReceiptState}

/-- The changes of status that transitions make. -/
def edges : List (ToolExecutionReceiptStatus × ToolExecutionReceiptStatus) :=
  [(.prepared, .dispatched), (.dispatched, .unknownOutcome), (.dispatched, .completed),
    (.unknownOutcome, .completed), (.prepared, .canceled), (.dispatched, .canceled),
    (.unknownOutcome, .canceled)]

/-- The largest revision that a receipt with a status can have. -/
def stage : ToolExecutionReceiptStatus → Int
  | .prepared => 1
  | .dispatched => 2
  | .unknownOutcome => 3
  | .completed => 4
  | .canceled => 4

/-- A valid receipt that went through no more transitions than its status allows. -/
structure Sound (receipt : ToolExecutionReceiptState) : Prop where
  valid : validateToolExecutionReceipt receipt = .ok ()
  staged : receipt.revision ≤ stage receipt.status

/-- What one transition does to a receipt. -/
structure Moved (receipt next : ToolExecutionReceiptState) : Prop where
  edge : (receipt.status, next.status) ∈ edges
  revision : next.revision = receipt.revision + 1
  later : NoLater receipt.updatedAt next.updatedAt
  receiptId : next.receiptId = receipt.receiptId

/-- A time is in order when it is a timestamp that is not before the other one. -/
theorem requireOrderedTimestamp_eq_ok {value earliest : JsString} {code : String}
    (valid : isTimestamp earliest = true) :
    requireOrderedTimestamp value earliest code = .ok () ↔ NoLater earliest value := by
  simp only [requireOrderedTimestamp, bind_eq_ok, exists_unit, requireTimestamp_eq_ok,
    rejectIf_eq_ok, Bool.not_eq_true, noLater_iff, valid, true_and]

/-- The checks of a receipt that no transition touches. -/
def Identified (receipt : ToolExecutionReceiptState) : Prop :=
  receipt.schemaVersion = js "crewon.tool-execution-receipt.v0" ∧
    (∀ value ∈ [receipt.receiptId, receipt.tenantId, receipt.runId, receipt.stepId,
        receipt.attemptId, receipt.workItemId, receipt.executionId, receipt.idempotencyKey,
        receipt.call.segmentId, receipt.call.callId],
      requireBoundedLength value 512 "tool_receipt_identity_invalid" = .ok ()) ∧
    requireReceiptDigest receipt.actionDigest "tool_action_digest_invalid" = .ok () ∧
    (∀ intent, receipt.actionIntent = some intent → validateActionIntent intent receipt = .ok ()) ∧
    requireReceiptDigest receipt.call.inputDigest "tool_input_digest_invalid" = .ok () ∧
    isToolName receipt.call.name = true ∧
    ¬ (receipt.effect = .mutation ∧ receipt.recovery ≠ .reconcilable)

/-- The checks of a receipt, in those of its identity and those of its state. -/
theorem validateToolExecutionReceipt_eq_ok :
    validateToolExecutionReceipt receipt = .ok () ↔
      Identified receipt ∧ (1 ≤ receipt.revision ∧ receipt.revision ≤ maxSafeInteger) ∧
        isTimestamp receipt.preparedAt = true ∧ isTimestamp receipt.updatedAt = true ∧
        requireNullableBoundedLength receipt.providerReceiptId 512
          "tool_provider_receipt_id_invalid" = .ok () ∧
        validateStateShape receipt = .ok () := by
  simp only [validateToolExecutionReceipt, Identified, bind_eq_ok, exists_unit, rejectIf_eq_ok,
    not_not, forEach_eq_ok, whenPresent_eq_ok, requireTimestamp_eq_ok, Bool.not_eq_false,
    isPositiveInteger_iff, and_assoc]

/-- The times and the result of a receipt agree with its status. -/
def Shaped (receipt : ToolExecutionReceiptState) : Prop :=
  (receipt.status = .prepared → receipt.dispatchedAt = none) ∧
    (receipt.status.dispatchRequired = true → receipt.dispatchedAt ≠ none) ∧
    receipt.status.resolved = receipt.resolvedAt.isSome ∧
    decide (receipt.status = .completed) = receipt.result.isSome ∧
    (∀ dispatchedAt, receipt.dispatchedAt = some dispatchedAt →
      NoLater receipt.preparedAt dispatchedAt) ∧
    (∀ resolvedAt, receipt.resolvedAt = some resolvedAt →
      requireOrderedTimestamp resolvedAt (receipt.dispatchedAt.getD receipt.preparedAt)
        "tool_receipt_resolved_at_invalid" = .ok ()) ∧
    NoLater receipt.preparedAt receipt.updatedAt ∧
    ∀ result, receipt.result = some result → validateResult result = .ok ()

/-- The status of a receipt says which of its times and whether its result are present. -/
theorem validateStateShape_eq_ok (prepared : isTimestamp receipt.preparedAt = true)
    (updated : isTimestamp receipt.updatedAt = true) :
    validateStateShape receipt = .ok () ↔ Shaped receipt := by
  simp only [validateStateShape, Shaped, bind_eq_ok, exists_unit, rejectIf_eq_ok,
    whenPresent_eq_ok,
    requireOrderedTimestamp_eq_ok prepared, noLater_iff, prepared, updated, true_and, not_or,
    not_and, not_not, Bool.not_eq_true, and_assoc, ne_eq]

/-- A receipt whose parts are in order is sound. -/
theorem Sound.of_parts (identified : Identified receipt)
    (counted : 1 ≤ receipt.revision ∧ receipt.revision ≤ stage receipt.status)
    (prepared : isTimestamp receipt.preparedAt = true)
    (updated : isTimestamp receipt.updatedAt = true)
    (provider : requireNullableBoundedLength receipt.providerReceiptId 512
      "tool_provider_receipt_id_invalid" = .ok ()) (shaped : Shaped receipt) : Sound receipt := by
  have small : stage receipt.status ≤ maxSafeInteger := by
    cases receipt.status <;> decide
  have shape := (validateStateShape_eq_ok prepared updated).mpr shaped
  exact ⟨validateToolExecutionReceipt_eq_ok.mpr
    ⟨identified, ⟨counted.1, by omega⟩, prepared, updated, provider, shape⟩, counted.2⟩

/-- A prepared receipt is sound. -/
theorem prepareToolExecutionReceipt_sound {input : PrepareToolExecutionReceiptInput}
    (accepted : prepareToolExecutionReceipt input = .ok receipt) :
    Sound receipt ∧ receipt.status = .prepared := by
  simp only [prepareToolExecutionReceipt, bind_eq_ok, exists_unit, pure_eq_ok] at accepted
  obtain ⟨valid, rfl⟩ := accepted
  exact ⟨⟨valid, Int.le_refl 1⟩, rfl⟩

/-- A dispatched receipt is sound, and it was prepared. -/
theorem dispatchToolExecutionReceipt_moves {dispatchedAt : JsString} (sound : Sound receipt)
    (accepted : dispatchToolExecutionReceipt receipt dispatchedAt = .ok next) :
    Sound next ∧ Moved receipt next ∧ next.status = .dispatched := by
  simp only [dispatchToolExecutionReceipt, bind_eq_ok, exists_unit, requireReceiptStatus,
    rejectIf_eq_ok, not_not, List.mem_singleton, pure_eq_ok] at accepted
  obtain ⟨valid, status, ordered, rfl⟩ := accepted
  obtain ⟨identified, counted, prepared, updated, provider, shape⟩ :=
    validateToolExecutionReceipt_eq_ok.mp valid
  have later := (requireOrderedTimestamp_eq_ok updated).mp ordered
  obtain ⟨_, _, resolved, result, _, _, since, _⟩ :=
    (validateStateShape_eq_ok prepared updated).mp shape
  have dispatched := (noLater_iff.mp later).2.1
  have staged := sound.staged
  rw [status] at staged resolved result
  refine ⟨Sound.of_parts identified ⟨?_, ?_⟩ prepared dispatched provider ?_,
    ⟨?_, rfl, later, rfl⟩, rfl⟩
  · show 1 ≤ receipt.revision + 1
    omega
  · show receipt.revision + 1 ≤ 2
    exact Int.add_le_add_right staged 1
  · refine ⟨?_, ?_, resolved, result, ?_, ?_, since.trans later, ?_⟩
    · intro impossible
      cases impossible
    · intro _ absent
      cases absent
    · intro time same
      rw [← Option.some.inj same]
      exact since.trans later
    · intro time present
      rw [present] at resolved
      cases resolved
    · intro value present
      rw [present] at result
      cases result
  · show (receipt.status, .dispatched) ∈ edges
    rw [status]
    decide

/-- A receipt whose outcome is unknown is sound, and it was dispatched. -/
theorem markToolExecutionUnknownOutcome_moves {observedAt : JsString}
    {providerReceiptId : Option JsString} (sound : Sound receipt)
    (accepted : markToolExecutionUnknownOutcome receipt observedAt providerReceiptId =
      .ok next) : Sound next ∧ Moved receipt next ∧ next.status = .unknownOutcome := by
  simp only [markToolExecutionUnknownOutcome, bind_eq_ok, exists_unit, requireReceiptStatus,
    rejectIf_eq_ok, not_not, List.mem_singleton, pure_eq_ok] at accepted
  obtain ⟨valid, status, ordered, provider, rfl⟩ := accepted
  obtain ⟨identified, counted, prepared, updated, _, shape⟩ :=
    validateToolExecutionReceipt_eq_ok.mp valid
  have later := (requireOrderedTimestamp_eq_ok updated).mp ordered
  obtain ⟨_, present, resolved, result, dispatched, ended, since, known⟩ :=
    (validateStateShape_eq_ok prepared updated).mp shape
  have observed := (noLater_iff.mp later).2.1
  have staged := sound.staged
  rw [status] at staged present resolved result
  refine ⟨Sound.of_parts identified ⟨?_, ?_⟩ prepared observed provider ?_,
    ⟨?_, rfl, later, rfl⟩, rfl⟩
  · show 1 ≤ receipt.revision + 1
    omega
  · show receipt.revision + 1 ≤ 3
    exact Int.add_le_add_right staged 1
  · refine ⟨?_, ?_, resolved, result, dispatched, ended, since.trans later, known⟩
    · intro impossible
      cases impossible
    · exact fun _ => present rfl
  · show (receipt.status, .unknownOutcome) ∈ edges
    rw [status]
    decide

/-- A receipt that ended is sound, and only one that was dispatched is completed. -/
theorem resolveToolExecutionReceipt_moves {resolution : ToolExecutionResolution}
    (sound : Sound receipt)
    (accepted : resolveToolExecutionReceipt receipt resolution = .ok next) :
    Sound next ∧ Moved receipt next ∧ next.status = resolution.status := by
  simp only [resolveToolExecutionReceipt, bind_eq_ok, exists_unit, requireReceiptStatus,
    rejectIf_eq_ok, not_not, List.mem_cons, List.not_mem_nil, or_false, pure_eq_ok] at accepted
  obtain ⟨valid, status, ordered, _, resolves, again, rfl⟩ := accepted
  obtain ⟨_, _, _, updated, _, _⟩ := validateToolExecutionReceipt_eq_ok.mp valid
  have later := (requireOrderedTimestamp_eq_ok updated).mp ordered
  have staged := sound.staged
  refine ⟨⟨again, ?_⟩, ⟨?_, rfl, later, rfl⟩, rfl⟩
  · have most : receipt.revision ≤ 3 := by
      rcases status with prepared | dispatched | unknown
      · rw [prepared, stage] at staged
        omega
      · rw [dispatched, stage] at staged
        omega
      · rw [unknown, stage] at staged
        exact staged
    show receipt.revision + 1 ≤ stage resolution.status
    cases resolution with
    | completed resolvedAt providerReceiptId result =>
      show receipt.revision + 1 ≤ 4
      omega
    | canceled resolvedAt providerReceiptId =>
      show receipt.revision + 1 ≤ 4
      omega
  · cases resolution with
    | completed resolvedAt providerReceiptId result =>
      simp only [validateResolution, bind_eq_ok, exists_unit, rejectIf_eq_ok] at resolves
      show (receipt.status, .completed) ∈ edges
      rcases status with prepared | dispatched | unknown
      · exact absurd prepared resolves.1
      · rw [dispatched]
        decide
      · rw [unknown]
        decide
    | canceled resolvedAt providerReceiptId =>
      show (receipt.status, .canceled) ∈ edges
      rcases status with prepared | dispatched | unknown
      · rw [prepared]
        decide
      · rw [dispatched]
        decide
      · rw [unknown]
        decide

/-- The status that a transition leads to. -/
def target : ToolExecutionTransition → ToolExecutionReceiptStatus
  | .dispatch .. => .dispatched
  | .unknownOutcome .. => .unknownOutcome
  | .complete .. => .completed
  | .cancel .. => .canceled

/-- Every transition keeps a receipt sound and moves it along an edge to its own status. -/
theorem transitionReceipt_moves {transition : ToolExecutionTransition} (sound : Sound receipt)
    (accepted : transitionReceipt receipt transition = .ok next) :
    Sound next ∧ Moved receipt next ∧ next.status = target transition := by
  cases transition with
  | dispatch occurredAt => exact dispatchToolExecutionReceipt_moves sound accepted
  | unknownOutcome occurredAt providerReceiptId =>
    exact markToolExecutionUnknownOutcome_moves sound accepted
  | complete occurredAt providerReceiptId result =>
    exact resolveToolExecutionReceipt_moves sound accepted
  | cancel occurredAt providerReceiptId => exact resolveToolExecutionReceipt_moves sound accepted

/-- A sound receipt has a result exactly when it is completed. -/
theorem Sound.result (sound : Sound receipt) :
    receipt.result.isSome = true ↔ receipt.status = .completed := by
  obtain ⟨_, _, prepared, updated, _, shape⟩ := validateToolExecutionReceipt_eq_ok.mp sound.valid
  obtain ⟨_, _, _, result, _⟩ := (validateStateShape_eq_ok prepared updated).mp shape
  rw [← result, decide_eq_true_eq]

/-- A transition starts from a receipt that has not ended. -/
theorem Moved.unresolved (moved : Moved receipt next) : receipt.status.resolved = false := by
  have edge := moved.edge
  revert edge
  cases receipt.status <;> cases next.status <;> decide

/-- A transition never leads back to the preparation. -/
theorem Moved.left (moved : Moved receipt next) : next.status ≠ .prepared := by
  have edge := moved.edge
  revert edge
  cases receipt.status <;> cases next.status <;> decide

/-- Only a receipt that is prepared is dispatched. -/
theorem Moved.dispatched (moved : Moved receipt next) (status : next.status = .dispatched) :
    receipt.status = .prepared := by
  have edge := moved.edge
  rw [status] at edge
  revert edge
  cases receipt.status <;> decide

/-- No receipt is completed that is only prepared. -/
theorem Moved.completed (moved : Moved receipt next) (status : next.status = .completed) :
    receipt.status ≠ .prepared := by
  have edge := moved.edge
  rw [status] at edge
  revert edge
  cases receipt.status <;> decide

end Receipts

section Histories

/-- The receipts that transitions lead to one after the other, from the first one on. -/
def receiptHistory (receipt : ToolExecutionReceiptState) :
    List ToolExecutionTransition → Checked (List ToolExecutionReceiptState)
  | [] => .ok [receipt]
  | transition :: later => do
    let next ← transitionReceipt receipt transition
    let rest ← receiptHistory next later
    return receipt :: rest

/-- A transition dispatches a receipt. -/
def dispatches : ToolExecutionTransition → Bool
  | .dispatch _ => true
  | _ => false

/-- The receipts of a history are sound, each one moved from the one before it, and it is
dispatched once at most: never when it was before. -/
theorem receiptHistory_moves {receipt : ToolExecutionReceiptState}
    {transitions : List ToolExecutionTransition} {states : List ToolExecutionReceiptState}
    (sound : Sound receipt) (accepted : receiptHistory receipt transitions = .ok states) :
    (∀ state ∈ states, Sound state) ∧ states.IsChain Moved ∧ states.head? = some receipt ∧
      (transitions.filter dispatches).length ≤ 1 ∧
      (receipt.status ≠ .prepared → transitions.filter dispatches = []) := by
  induction transitions generalizing receipt states with
  | nil =>
    obtain rfl := Except.ok.inj accepted
    refine ⟨?_, List.IsChain.singleton receipt, rfl, Nat.zero_le 1, fun _ => rfl⟩
    intro state member
    rw [List.mem_singleton.mp member]
    exact sound
  | cons transition later hypothesis =>
    simp only [receiptHistory, bind_eq_ok, pure_eq_ok] at accepted
    obtain ⟨next, first, rest, there, rfl⟩ := accepted
    obtain ⟨after, moved, status⟩ := transitionReceipt_moves sound first
    obtain ⟨sounds, chain, start, few, none⟩ := hypothesis after there
    have silent := none moved.left
    refine ⟨?_, ?_, rfl, ?_, ?_⟩
    · intro state member
      cases List.mem_cons.mp member with
      | inl here =>
        rw [here]
        exact sound
      | inr behind => exact sounds state behind
    · obtain ⟨tail, rfl⟩ := List.head?_eq_some_iff.mp start
      exact List.IsChain.cons_cons moved chain
    · rw [List.filter_cons, silent]
      split
      · exact Nat.le_refl 1
      · exact Nat.zero_le 1
    · intro gone
      rw [List.filter_cons, silent]
      cases transition with
      | dispatch occurredAt => exact absurd (moved.dispatched status) gone
      | unknownOutcome | complete | cancel => rfl

end Histories

section Stores

variable {before after : ToolExecutionStore} {receiptId : JsString}
  {receipt next : ToolExecutionReceiptState}

/-- What an operation can do to the receipts. -/
inductive Effect (before : ToolExecutionStore) : ToolExecutionStore → Prop where
  | nothing : Effect before before
  | prepared {after : ToolExecutionStore} (receipt : ToolExecutionReceiptState)
      (valid : validateToolExecutionReceipt receipt = .ok ()) (fresh : receipt.status = .prepared)
      (first : receipt.revision = 1)
      (absent : before.toolExecutionReceipts.find receipt.receiptId = none)
      (receipts : after.toolExecutionReceipts =
        before.toolExecutionReceipts.set receipt.receiptId receipt) : Effect before after
  | moved (receipt next : ToolExecutionReceiptState) (transition : ToolExecutionTransition)
      (present : before.toolExecutionReceipts.find receipt.receiptId = some receipt)
      (moves : transitionReceipt receipt transition = .ok next) :
      Effect before (before.setReceipt next)
  | kept (receipt : ToolExecutionReceiptState)
      (present : before.toolExecutionReceipts.find receipt.receiptId = some receipt) :
      Effect before (before.setReceipt receipt)

/-- A required receipt is the one found under its id. -/
theorem requiredReceipt_eq_ok :
    requiredReceipt before receiptId = .ok receipt ↔
      before.toolExecutionReceipts.find receiptId = some receipt := by
  unfold requiredReceipt
  cases before.toolExecutionReceipts.find receiptId <;> simp

/-- A transition is applied to the receipt that was asked for. -/
theorem applyToolExecutionTransition_eq_ok {input : TransitionToolExecutionInput}
    (accepted : applyToolExecutionTransition receipt input = .ok next) :
    receipt.receiptId = input.receiptId ∧ receipt.revision = input.expectedRevision ∧
      transitionReceipt receipt input.transition = .ok next := by
  simp only [applyToolExecutionTransition, bind_eq_ok, exists_unit, rejectIf_eq_ok, not_or,
    not_not, mapError_eq_ok] at accepted
  obtain ⟨⟨_, _, same, _⟩, revision, moves⟩ := accepted
  exact ⟨same, revision, moves⟩

/-- A transition that was accepted changed the receipt it names. -/
theorem transitionToolExecution_eq_ok {admission : Checked Unit}
    {input : TransitionToolExecutionInput}
    (done : (transitionToolExecution admission input).run before = (.ok (), after)) :
    ∃ receipt next, before.toolExecutionReceipts.find input.receiptId = some receipt ∧
      receipt.receiptId = input.receiptId ∧
      transitionReceipt receipt input.transition = .ok next ∧ after = before.setReceipt next := by
  simp only [transitionToolExecution, Program.run_check_bind_eq_ok, exists_unit,
    Program.run_read_bind, id_eq, requiredReceipt_eq_ok, Program.run_update, Prod.mk.injEq,
    true_and] at done
  obtain ⟨_, _, receipt, present, next, applied, rfl⟩ := done
  obtain ⟨same, _, moves⟩ := applyToolExecutionTransition_eq_ok applied
  exact ⟨receipt, next, present, same, moves, rfl⟩

/-- A receipt enters the store prepared, and under a new id. -/
theorem prepareToolExecution_effect {admission : Checked Unit} {lease : QueueLeaseInput}
    (done : (prepareToolExecution admission receipt lease).run before = (.ok (), after)) :
    Effect before after := by
  simp only [prepareToolExecution, Program.run_check_bind_eq_ok, exists_unit,
    Program.run_read_bind, id_eq, Program.run_update_bind, Program.run_update, Prod.mk.injEq,
    true_and, bind_eq_ok, rejectIf_eq_ok] at done
  obtain ⟨valid, _, ⟨absent, _, _⟩, rfl⟩ := done
  simp only [validatePrepareToolExecutionInput, bind_eq_ok, exists_unit, mapError_eq_ok,
    rejectIf_eq_ok, not_or, not_not] at valid
  obtain ⟨valid, _, fresh, first⟩ := valid
  exact .prepared receipt valid fresh first (by simpa using absent) rfl

/-- A completion changes the receipt it names, unless it is a replay. -/
theorem commitToolExecutionCompletion_effect {admission : Checked Unit}
    {completed : CompletedReceipt} {lease : WorkItemLeaseInput} {replayed : Bool}
    (done : (commitToolExecutionCompletion admission completed lease replayed).run before =
      (.ok (), after)) : Effect before after := by
  simp only [commitToolExecutionCompletion, Program.run_check_bind_eq_ok, Program.run_read_bind,
    id_eq, requiredReceipt_eq_ok] at done
  obtain ⟨receipt, present, rest⟩ := done
  cases replayed with
  | true =>
    obtain rfl : before = after := congrArg Prod.snd rest
    exact .nothing
  | false =>
    simp only [Bool.false_eq_true, ↓reduceIte, Program.run_check_bind_eq_ok, exists_unit,
      Program.run_update, Prod.mk.injEq, true_and] at rest
    obtain ⟨next, applied, _, rfl⟩ := rest
    obtain ⟨same, _, moves⟩ := applyToolExecutionTransition_eq_ok applied
    exact .moved receipt next _ (by rw [same]; exact present) moves

/-- An unknown outcome changes a receipt that was dispatched, and no other. -/
theorem commitToolExecutionUnknownOutcome_effect {admission : Checked Unit}
    {unknown : UnknownOutcomeReceipt} {lease : WorkItemLeaseInput}
    (done : (commitToolExecutionUnknownOutcome admission unknown lease).run before =
      (.ok (), after)) : Effect before after := by
  simp only [commitToolExecutionUnknownOutcome, Program.run_check_bind_eq_ok, exists_unit,
    Program.run_read_bind, id_eq, requiredReceipt_eq_ok, Program.run_update, Prod.mk.injEq,
    true_and] at done
  obtain ⟨receipt, present, next, applied, _, rfl⟩ := done
  unfold applyToolExecutionUnknownOutcome at applied
  split at applied
  · obtain ⟨same, _, moves⟩ := applyToolExecutionTransition_eq_ok applied
    exact .moved receipt next _ (by rw [same]; exact present) moves
  · simp only [bind_eq_ok, exists_unit, rejectIf_eq_ok, not_or, not_not, pure_eq_ok] at applied
    obtain ⟨⟨_, _, same, _⟩, rfl⟩ := applied
    exact .kept receipt (by rw [same]; exact present)

/-- Every operation has one of the listed effects. -/
theorem performToolExecution_effect {operation : ToolExecutionOperation}
    (done : (performToolExecution operation).run before = (.ok (), after)) :
    Effect before after := by
  cases operation with
  | prepare admission receipt lease => exact prepareToolExecution_effect done
  | transition admission input =>
    obtain ⟨receipt, next, present, same, moves, rfl⟩ := transitionToolExecution_eq_ok done
    exact .moved receipt next _ (by rw [same]; exact present) moves
  | complete admission completed lease replayed => exact commitToolExecutionCompletion_effect done
  | unknownOutcome admission unknown lease => exact commitToolExecutionUnknownOutcome_effect done

/-- An operation that is rejected leaves the receipts alone. -/
theorem performToolExecution_atomic {operation : ToolExecutionOperation} :
    Program.Atomic (performToolExecution operation) := by
  cases operation with
  | prepare admission receipt lease =>
    apply (Program.readOnly_check _).bind_atomic
    intro _
    apply (Program.readOnly_check _).bind_atomic
    intro _
    apply (Program.readOnly_read _).bind_atomic
    intro store
    apply (Program.readOnly_check _).bind_atomic
    intro _
    apply Program.Total.atomic
    exact (Program.total_update _).bind fun _ => Program.total_update _
  | transition admission input =>
    apply (Program.readOnly_check _).bind_atomic
    intro _
    apply (Program.readOnly_check _).bind_atomic
    intro _
    apply (Program.readOnly_read _).bind_atomic
    intro store
    apply (Program.readOnly_check _).bind_atomic
    intro current
    apply (Program.readOnly_check _).bind_atomic
    intro next
    exact (Program.total_update _).atomic
  | complete admission completed lease replayed =>
    apply (Program.readOnly_read _).bind_atomic
    intro store
    apply (Program.readOnly_check _).bind_atomic
    intro current
    cases replayed with
    | true => exact (Program.readOnly_check _).atomic
    | false =>
      apply (Program.readOnly_check _).bind_atomic
      intro next
      apply (Program.readOnly_check _).bind_atomic
      intro _
      exact (Program.total_update _).atomic
  | unknownOutcome admission unknown lease =>
    apply (Program.readOnly_read _).bind_atomic
    intro store
    apply (Program.readOnly_check _).bind_atomic
    intro current
    apply (Program.readOnly_check _).bind_atomic
    intro next
    apply (Program.readOnly_check _).bind_atomic
    intro _
    exact (Program.total_update _).atomic

/-- The receipts of a store are sound, each one under its own id. -/
def Filed (store : ToolExecutionStore) : Prop :=
  ∀ receiptId receipt, store.toolExecutionReceipts.find receiptId = some receipt →
    receipt.receiptId = receiptId ∧ Sound receipt

/-- A receipt is in the store, as it was or moved by one transition. -/
def Follows (receipt : ToolExecutionReceiptState) (store : ToolExecutionStore) : Prop :=
  ∃ next, store.toolExecutionReceipts.find receipt.receiptId = some next ∧
    (next = receipt ∨ Moved receipt next)

/-- A receipt that is in the store follows itself. -/
theorem Follows.refl (present : before.toolExecutionReceipts.find receipt.receiptId = some receipt) :
    Follows receipt before := ⟨receipt, present, .inl rfl⟩

/-- Every effect leaves the receipts sound and under their ids. -/
theorem Effect.filed (effect : Effect before after) (filed : Filed before) : Filed after := by
  intro receiptId found present
  cases effect with
  | nothing => exact filed receiptId found present
  | prepared receipt valid fresh first absent receipts =>
    rw [receipts, OrderedMap.find_set] at present
    split at present
    case isTrue same =>
      rw [← Option.some.inj present]
      refine ⟨same.symm, valid, ?_⟩
      rw [first, fresh]
      exact Int.le_refl 1
    case isFalse different => exact filed receiptId found present
  | moved receipt next transition source moves =>
    obtain ⟨sound, moved, _⟩ := transitionReceipt_moves (filed _ _ source).2 moves
    rw [ToolExecutionStore.setReceipt, OrderedMap.find_set] at present
    split at present
    case isTrue same =>
      rw [← Option.some.inj present]
      exact ⟨same.symm, sound⟩
    case isFalse different => exact filed receiptId found present
  | kept receipt source =>
    rw [ToolExecutionStore.setReceipt, OrderedMap.set_of_find source] at present
    exact filed receiptId found present

/-- Every effect leaves each receipt as it was or moves it by one transition. -/
theorem Effect.follows (effect : Effect before after) (filed : Filed before)
    (present : before.toolExecutionReceipts.find receiptId = some receipt) :
    Follows receipt after := by
  obtain ⟨rfl, _⟩ := filed _ _ present
  cases effect with
  | nothing => exact .refl present
  | prepared fresh _ _ _ absent receipts =>
    have different : receipt.receiptId ≠ fresh.receiptId := by
      intro same
      rw [same, absent] at present
      cases present
    refine ⟨receipt, ?_, .inl rfl⟩
    rw [receipts, OrderedMap.find_set_of_ne different]
    exact present
  | moved source next transition there moves =>
    obtain ⟨_, moved, _⟩ := transitionReceipt_moves (filed _ _ there).2 moves
    by_cases same : receipt.receiptId = source.receiptId
    · rw [same, there] at present
      obtain rfl := Option.some.inj present
      refine ⟨next, ?_, .inr moved⟩
      rw [ToolExecutionStore.setReceipt, moved.receiptId]
      exact OrderedMap.find_set_self
    · refine ⟨receipt, ?_, .inl rfl⟩
      rw [ToolExecutionStore.setReceipt, OrderedMap.find_set_of_ne (by rwa [moved.receiptId])]
      exact present
  | kept source there =>
    refine ⟨receipt, ?_, .inl rfl⟩
    rw [ToolExecutionStore.setReceipt, OrderedMap.set_of_find there]
    exact present

variable {operation : ToolExecutionOperation} {outcome : Except Failure Unit}

/-- Whatever an operation returns, it leaves the receipts sound. -/
theorem performToolExecution_filed (filed : Filed before) :
    Filed ((performToolExecution operation).run before).2 := by
  cases performed : (performToolExecution operation).run before with
  | mk outcome after =>
    cases outcome with
    | ok value => exact (performToolExecution_effect performed).filed filed
    | error failure =>
      have same := performToolExecution_atomic before failure (by rw [performed])
      rw [performed] at same
      rw [same]
      exact filed

/-- Whatever an operation returns, it moves each receipt by one transition at most. -/
theorem performToolExecution_follows (filed : Filed before)
    (present : before.toolExecutionReceipts.find receiptId = some receipt) :
    Follows receipt ((performToolExecution operation).run before).2 := by
  cases performed : (performToolExecution operation).run before with
  | mk outcome after =>
    cases outcome with
    | ok value => exact (performToolExecution_effect performed).follows filed present
    | error failure =>
      have same := performToolExecution_atomic before failure (by rw [performed])
      rw [performed] at same
      rw [same]
      obtain ⟨rfl, _⟩ := filed _ _ present
      exact .refl present

/-- The store accepted a request to dispatch a receipt. -/
def DispatchesReceipt (step : Step ToolExecutionOperation Failure ToolExecutionStore Unit)
    (receiptId : JsString) : Prop :=
  step.Succeeds ∧ ∃ admission input, step.operation = .transition admission input ∧
    input.receiptId = receiptId ∧ dispatches input.transition = true

/-- A receipt is in the store and no longer prepared. -/
def Left (store : ToolExecutionStore) (receiptId : JsString) : Prop :=
  ∃ receipt, store.toolExecutionReceipts.find receiptId = some receipt ∧
    receipt.status ≠ .prepared

/-- A receipt that left its preparation does not return to it. -/
theorem Left.keep (left : Left before receiptId) (filed : Filed before) :
    Left ((performToolExecution operation).run before).2 receiptId := by
  obtain ⟨receipt, present, status⟩ := left
  have followed : Follows receipt ((performToolExecution operation).run before).2 :=
    performToolExecution_follows filed present
  obtain ⟨rfl, _⟩ := filed _ _ present
  obtain ⟨next, there, same | moved⟩ := followed
  · rw [same] at there
    exact ⟨receipt, there, status⟩
  · exact ⟨next, there, moved.left⟩

/-- A request to dispatch is accepted for a prepared receipt only, which it leaves dispatched. -/
theorem dispatch_prepared {step : Step ToolExecutionOperation Failure ToolExecutionStore Unit}
    (performed : (performToolExecution step.operation).run step.before =
      (step.outcome, step.after)) (filed : Filed step.before)
    (dispatched : DispatchesReceipt step receiptId) :
    ¬ Left step.before receiptId ∧ Left step.after receiptId := by
  obtain ⟨operation, before, outcome, after⟩ := step
  obtain ⟨⟨value, rfl⟩, admission, input, rfl, rfl, dispatching⟩ := dispatched
  change (transitionToolExecution admission input).run before = (.ok (), after) at performed
  change Filed before at filed
  show ¬ Left before input.receiptId ∧ Left after input.receiptId
  obtain ⟨receipt, next, present, same, moves, rfl⟩ := transitionToolExecution_eq_ok performed
  obtain ⟨_, moved, status⟩ := transitionReceipt_moves (filed _ _ present).2 moves
  have reached : next.status = .dispatched := by
    cases transition : input.transition with
    | dispatch occurredAt => rw [status, transition, target]
    | unknownOutcome | complete | cancel => simp [transition, dispatches] at dispatching
  constructor
  · rintro ⟨found, there, gone⟩
    rw [present] at there
    rw [← Option.some.inj there] at gone
    exact gone (moved.dispatched reached)
  · refine ⟨next, ?_, moved.left⟩
    rw [ToolExecutionStore.setReceipt, ← same, ← moved.receiptId]
    exact OrderedMap.find_set_self

end Stores

section Claims

/-- A receipt may be followed by another one: it has not ended, is completed only after it was
dispatched, counts one revision more and is updated no earlier. -/
structure Continues (receipt next : ToolExecutionReceiptState) : Prop where
  unresolved : receipt.status.resolved = false
  completed : next.status = .completed → receipt.status ≠ .prepared
  revision : next.revision = receipt.revision + 1
  later : NoLater receipt.updatedAt next.updatedAt

/-- A receipt that was moved continues the one before it. -/
theorem Moved.continues {receipt next : ToolExecutionReceiptState} (moved : Moved receipt next) :
    Continues receipt next :=
  ⟨moved.unresolved, moved.completed, moved.revision, moved.later⟩

/-- Along every history of a receipt from its preparation, every receipt is valid and has a result
exactly when it is completed, each one continues the one before it, and one transition at most is
a dispatch. In every run of the store each operation leaves every receipt as it is or moves it to
one that continues it, and no two requests to dispatch one receipt are accepted. -/
theorem receipt_dispatched_once {input : PrepareToolExecutionReceiptInput}
    {receipt : ToolExecutionReceiptState} {transitions : List ToolExecutionTransition}
    {states : List ToolExecutionReceiptState}
    (prepared : prepareToolExecutionReceipt input = .ok receipt)
    (accepted : receiptHistory receipt transitions = .ok states)
    (operations : List ToolExecutionOperation) :
    (∀ state ∈ states, validateToolExecutionReceipt state = .ok () ∧
      (state.result.isSome = true ↔ state.status = .completed)) ∧
    states.IsChain Continues ∧
    (transitions.filter dispatches).length ≤ 1 ∧
    (∀ step ∈ trace performToolExecution .empty operations, ∀ receiptId found,
      step.before.toolExecutionReceipts.find receiptId = some found →
      ∃ next, step.after.toolExecutionReceipts.find receiptId = some next ∧
        (next = found ∨ Continues found next)) ∧
    (trace performToolExecution .empty operations).Pairwise fun earlier later =>
      ∀ receiptId, DispatchesReceipt earlier receiptId → ¬ DispatchesReceipt later receiptId := by
  obtain ⟨sounds, chain, _, few, _⟩ :=
    receiptHistory_moves (prepareToolExecutionReceipt_sound prepared).1 accepted
  have empty : Filed ToolExecutionStore.empty := by
    intro receiptId found present
    cases present
  refine ⟨?_, ?_, few, ?_, ?_⟩
  · exact fun state member => ⟨(sounds state member).valid, (sounds state member).result⟩
  · exact chain.imp fun _ _ moved => moved.continues
  · intro step member receiptId found present
    have filed := (trace_invariant Filed
      (fun operation store held => performToolExecution_filed held) empty member).1
    have followed : Follows found ((performToolExecution step.operation).run step.before).2 :=
      performToolExecution_follows filed present
    rw [run_of_mem_trace member] at followed
    obtain ⟨rfl, _⟩ := filed _ _ present
    obtain ⟨next, there, same | moved⟩ := followed
    · exact ⟨next, there, .inl same⟩
    · exact ⟨next, there, .inr moved.continues⟩
  · apply trace_pairwise Filed fun step store =>
      ∀ receiptId, DispatchesReceipt step receiptId → Left store receiptId
    · exact fun operation store held => performToolExecution_filed held
    · exact fun step held performed receiptId dispatched =>
        (dispatch_prepared performed held dispatched).2
    · exact fun step operation store held marked receiptId dispatched =>
        (marked receiptId dispatched).keep held
    · intro earlier later held marked performed receiptId first second
      exact (dispatch_prepared performed held second).1 (marked receiptId first)
    · exact empty

/-- The sample receipt is prepared for a shell call. -/
def sampleInput : PrepareToolExecutionReceiptInput where
  receiptId := js "receipt"
  tenantId := js "tenant"
  runId := js "run"
  stepId := js "step"
  attemptId := js "attempt"
  workItemId := js "work"
  executionId := js "execution"
  idempotencyKey := js "key"
  actionDigest := uniformDigest '0'
  actionIntent := {
    schemaVersion := js "crewon.action-intent.v0"
    runId := js "run"
    segmentId := js "segment"
    callId := js "call"
    tool := ⟨.function, js "shell", uniformDigest '1'⟩
    effect := .mutation
    recovery := .reconcilable
    policySnapshotId := js "policy"
    workspaceBindingId := some (js "workspace")
    resourceBindingId := none
    credentialBindingId := none
    executionTarget := ⟨.docker, js "container"⟩
    capability := js "shell.run"
    approvalRequirement := .none
    limits := ⟨60000, 4096, 4096⟩ }
  call := ⟨js "segment", js "call", .function, js "shell", uniformDigest '1'⟩
  effect := .mutation
  recovery := .reconcilable
  preparedAt := js "2026-01-01T00:00:00Z"

/-- The sample receipt is dispatched, its outcome becomes unknown, and it is completed. -/
def sampleTransitions : List ToolExecutionTransition := [
  .dispatch (js "2026-01-01T00:00:01Z"),
  .unknownOutcome (js "2026-01-01T00:00:02Z") none,
  .complete (js "2026-01-01T00:00:03Z") (js "provider")
    ⟨js "done", uniformDigest '2', false, none, none⟩]

/-- The transitions of the sample receipt are accepted. -/
theorem sampleTransitions_accepted :
    (prepareToolExecutionReceipt sampleInput >>= fun receipt =>
      receiptHistory receipt sampleTransitions >>= fun states =>
        pure (states.map ToolExecutionReceiptState.status)) =
      .ok [.prepared, .dispatched, .unknownOutcome, .completed] := by
  decide_cbv

/-- The history of the sample receipt goes through every stage, one revision at a time. -/
theorem receipt_dispatched_once_sample : ∃ receipt states,
    prepareToolExecutionReceipt sampleInput = .ok receipt ∧
    receiptHistory receipt sampleTransitions = .ok states ∧
    states.map ToolExecutionReceiptState.status =
      [.prepared, .dispatched, .unknownOutcome, .completed] ∧ states.IsChain Continues := by
  have accepted := sampleTransitions_accepted
  simp only [bind_eq_ok, pure_eq_ok] at accepted
  obtain ⟨receipt, prepared, states, followed, statuses⟩ := accepted
  obtain ⟨_, chain, _⟩ := receipt_dispatched_once prepared followed []
  exact ⟨receipt, states, prepared, followed, statuses, chain⟩

end Claims

end Crewon.Verif.ToolExecution
