import Crewon.Application.RunExecutionService
import Crewon.Lib.Trace
import Mathlib

/-!
# An approval has one outcome

Every request that ends an approval starts from one that is still required and leaves one that is
not, so that in any order of requests one of them at most ends it. A decision is checked against
the expiry by the store; an expiry is checked by the service alone, which reads the approval from
the store before: what it reads of the expiry holds for good.
-/

namespace Crewon.Verif.ToolApproval

open Crewon.Js Crewon.Checked Crewon.Domain Crewon.Lib Crewon.Store Crewon.Application

variable {parse : JsString → Option Int}

section Approvals

variable {state next : ToolApprovalState}

/-- The first text names an instant before that of the second one. -/
def Precedes (parse : JsString → Option Int) (first second : JsString) : Prop :=
  ∃ start stop, parse first = some start ∧ parse second = some stop ∧ start < stop

/-- The first text names an instant not after that of the second one. -/
def Reaches (parse : JsString → Option Int) (first second : JsString) : Prop :=
  ∃ start stop, parse first = some start ∧ parse second = some stop ∧ start ≤ stop

/-- How an approval ends: it was required, and what it is for and its expiry stay. -/
structure Ended (parse : JsString → Option Int) (state next : ToolApprovalState) : Prop where
  required : state.status = .required
  ended : next.status ≠ .required
  identity : next.toToolApprovalIdentity = state.toToolApprovalIdentity
  expiresAt : next.expiresAt = state.expiresAt
  dated : ∀ expiresAt, state.expiresAt = some expiresAt → parse expiresAt ≠ none
  updated : parse next.updatedAt ≠ none

/-- An approval that ended keeps its id. -/
theorem Ended.approvalId (ended : Ended parse state next) : next.approvalId = state.approvalId :=
  congrArg ToolApprovalIdentity.approvalId ended.identity

/-- A text that is accepted names an instant. -/
theorem requireApprovalTimestamp_eq_ok {value : JsString} {code : String}
    (valid : requireApprovalTimestamp parse value code = .ok ()) : parse value ≠ none := by
  simp only [requireApprovalTimestamp, rejectIf_eq_ok, not_or] at valid
  exact valid.2

/-- The expiry of a valid approval names an instant. -/
theorem validateToolApprovalState_dated
    (valid : validateToolApprovalState parse state = .ok ()) :
    ∀ expiresAt, state.expiresAt = some expiresAt → parse expiresAt ≠ none := by
  simp only [validateToolApprovalState, bind_eq_ok, exists_unit, whenPresent_eq_ok] at valid
  obtain ⟨_, _, _, _, expiry, _⟩ := valid
  intro expiresAt present
  exact requireApprovalTimestamp_eq_ok (expiry expiresAt present)

/-- A decision ends an approval that has not expired. -/
theorem decideToolApproval_ended {expectedRevision : Int} {decision : ToolApprovalDecision}
    (accepted : decideToolApproval parse state expectedRevision decision = .ok next) :
    Ended parse state next ∧ next.status ≠ .expired ∧
      ∀ expiresAt, state.expiresAt = some expiresAt →
        Precedes parse decision.decidedAt expiresAt := by
  simp only [decideToolApproval, bind_eq_ok, exists_unit, rejectIf_eq_ok, not_not,
    whenPresent_eq_ok, pure_eq_ok, Bool.not_eq_true] at accepted
  obtain ⟨valid, status, _, _, _, decided, _, early, rfl⟩ := accepted
  have dated := validateToolApprovalState_dated valid
  have at' := requireApprovalTimestamp_eq_ok decided
  refine ⟨⟨status, ?_, rfl, rfl, dated, at'⟩, ?_, ?_⟩
  · show decision.outcome.status ≠ .required
    cases decision.outcome <;> decide
  · show decision.outcome.status ≠ .expired
    cases decision.outcome <;> decide
  · intro expiresAt present
    obtain ⟨start, known⟩ := Option.ne_none_iff_exists'.mp at'
    obtain ⟨stop, due⟩ := Option.ne_none_iff_exists'.mp (dated expiresAt present)
    have before := early expiresAt present
    simp only [isNotAfter, known, due, decide_eq_false_iff_not, Int.not_le] at before
    exact ⟨start, stop, known, due, before⟩

/-- An approval ends without a decision in the way that was asked for, at the given instant. -/
theorem terminateToolApproval_ended {status : ToolApprovalTermination} {expectedRevision : Int}
    {reasonCode occurredAt : JsString}
    (accepted : terminateToolApproval parse state status expectedRevision reasonCode occurredAt =
      .ok next) :
    Ended parse state next ∧ next.status = status.status ∧ next.updatedAt = occurredAt := by
  simp only [terminateToolApproval, bind_eq_ok, exists_unit, rejectIf_eq_ok, not_not,
    pure_eq_ok] at accepted
  obtain ⟨valid, required, _, _, occurred, _, rfl⟩ := accepted
  refine ⟨⟨required, ?_, rfl, rfl, validateToolApprovalState_dated valid,
    requireApprovalTimestamp_eq_ok occurred⟩, rfl, rfl⟩
  show status.status ≠ .required
  cases status <;> decide

end Approvals

section Stores

variable {before after : ToolApprovalStore} {reply : ToolApprovalReply} {approvalId : JsString}
  {approval current : ToolApprovalState} {operation : ToolApprovalOperation}

/-- What an operation does to the approvals: it adds a required one, or ends one, or both, or
nothing. -/
inductive Effect (parse : JsString → Option Int) (before : ToolApprovalStore) :
    ToolApprovalReply → ToolApprovalStore → Prop where
  | nothing : Effect parse before .replayed before
  | required {after : ToolApprovalStore} (approval : ToolApprovalState)
      (fresh : approval.status = .required)
      (absent : before.toolApprovals.find approval.approvalId = none)
      (approvals : after.toolApprovals = before.toolApprovals.set approval.approvalId approval) :
      Effect parse before .required after
  | ended {after : ToolApprovalStore} (current next : ToolApprovalState) (approvalId : JsString)
      (present : before.toolApprovals.find approvalId = some current)
      (ended : Ended parse current next)
      (approvals : after.toolApprovals = before.toolApprovals.set next.approvalId next) :
      Effect parse before (.ended next) after
  | replaced {after : ToolApprovalStore} (current next replacement : ToolApprovalState)
      (approvalId : JsString) (present : before.toolApprovals.find approvalId = some current)
      (ended : Ended parse current next) (superseded : next.status = .superseded)
      (fresh : replacement.status = .required)
      (absent : before.toolApprovals.find replacement.approvalId = none)
      (approvals : after.toolApprovals = (before.toolApprovals.set next.approvalId next).set
        replacement.approvalId replacement) : Effect parse before (.ended next) after

/-- A loaded approval is stored under the id. -/
theorem load_eq_some {tenantId : JsString} (loaded : before.load tenantId approvalId = some approval) :
    before.toolApprovals.find approvalId = some approval := by
  unfold ToolApprovalStore.load at loaded
  exact (Option.filter_eq_some_iff.mp loaded).1

/-- A required approval is stored under the id. -/
theorem requiredApproval_eq_ok {tenantId : JsString}
    (found : requiredApproval before tenantId approvalId = .ok approval) :
    before.toolApprovals.find approvalId = some approval := by
  unfold requiredApproval at found
  split at found
  · cases found
  · next loaded =>
    rw [← Except.ok.inj found]
    exact load_eq_some loaded

/-- A new approval has an id that no other one has. -/
theorem validateNewApproval_eq_ok (valid : validateNewApproval before approval = .ok ()) :
    before.toolApprovals.find approval.approvalId = none := by
  simp only [validateNewApproval, rejectIf_eq_ok, not_or] at valid
  simpa using valid.1

/-- An approval that is asked for is required. -/
theorem validateRequiredApproval_eq_ok (valid : validateRequiredApproval parse approval = .ok ()) :
    approval.status = .required := by
  simp only [validateRequiredApproval, bind_eq_ok, exists_unit, rejectIf_eq_ok, not_not] at valid
  exact valid.2

/-- What a request that ends an approval changes. -/
theorem endToolApproval_eq_ok {admission : Checked Unit} {tenantId : JsString}
    {commit : CommitRunInput} {change : ToolApprovalState → Checked ToolApprovalState}
    (done : (endToolApproval admission tenantId approvalId commit change).run before =
      (.ok reply, after)) :
    ∃ current next, before.toolApprovals.find approvalId = some current ∧
      change current = .ok next ∧ reply = .ended next ∧ after = before.setApproval next := by
  simp only [endToolApproval, Program.run_read_bind, id_eq, Program.run_check_bind_eq_ok,
    exists_unit, mapError_eq_ok, Program.run_update_bind, Program.run_pure, Prod.mk.injEq,
    Except.ok.injEq] at done
  obtain ⟨current, found, next, changed, _, _, rfl, rfl⟩ := done
  exact ⟨current, next, requiredApproval_eq_ok found, changed, rfl, rfl⟩

/-- A request to expire an approval leaves it expired at the instant of the request. -/
theorem expireToolApproval_eq_ok {admission : Checked Unit} {input : ExpireToolApprovalInput}
    (done : (expireToolApproval parse admission input).run before = (.ok reply, after)) :
    ∃ current next, before.toolApprovals.find input.approvalId = some current ∧
      Ended parse current next ∧ next.status = .expired ∧ next.updatedAt = input.occurredAt ∧
      reply = .ended next ∧ after = before.setApproval next := by
  obtain ⟨current, next, present, changed, replied, same⟩ := endToolApproval_eq_ok done
  obtain ⟨ended, status, updated⟩ := terminateToolApproval_ended changed
  exact ⟨current, next, present, ended, status, updated, replied, same⟩

/-- A request to replace an approval supersedes it and asks for another one, unless it was
answered before. -/
theorem replaceToolApproval_effect {admission requeued : Checked Unit}
    {input : ReplaceToolApprovalInput}
    (done : (replaceToolApproval parse admission requeued input).run before =
      (.ok reply, after)) :
    Effect parse before reply after ∧ ∀ next, reply = .ended next → next.status ≠ .expired := by
  simp only [replaceToolApproval, Program.run_check_bind_eq_ok, exists_unit,
    Program.run_read_bind, id_eq] at done
  obtain ⟨required, current, found, done⟩ := done
  cases existing : before.toolApprovalActions.find (toolApprovalActionKey input.replacement) with
  | some existingId =>
    rw [existing] at done
    simp only [replayToolApprovalReplacement] at done
    cases prior : before.toolApprovals.find existingId with
    | none =>
      rw [prior] at done
      cases done
    | some approval =>
      rw [prior] at done
      simp only [Program.run_check_bind_eq_ok, exists_unit, Program.run_pure, Prod.mk.injEq,
        Except.ok.injEq] at done
      obtain ⟨_, _, rfl, rfl⟩ := done
      exact ⟨.nothing, fun next impossible => by cases impossible⟩
  | none =>
    rw [existing] at done
    simp only [Program.run_check_bind_eq_ok, exists_unit, mapError_eq_ok, Program.run_update_bind,
      Program.run_pure, Prod.mk.injEq, Except.ok.injEq] at done
    obtain ⟨_, fresh, superseded, terminated, _, _, _, rfl, rfl⟩ := done
    obtain ⟨ended, status, _⟩ := terminateToolApproval_ended terminated
    refine ⟨.replaced current superseded input.replacement input.approvalId
      (requiredApproval_eq_ok found) ended status (validateRequiredApproval_eq_ok required)
      (validateNewApproval_eq_ok fresh) rfl, ?_⟩
    intro next same
    rw [← (ToolApprovalReply.ended.inj same), status]
    decide

/-- Every operation has one of the listed effects, and only a request to expire an approval leaves
one expired. -/
theorem performToolApproval_effect
    (done : (performToolApproval parse operation).run before = (.ok reply, after)) :
    Effect parse before reply after ∧
      ((∀ admission input, operation ≠ .expire admission input) →
        ∀ next, reply = .ended next → next.status ≠ .expired) := by
  cases operation with
  | require admission requeued approval commit =>
    simp only [performToolApproval, requireToolApproval, Program.run_check_bind_eq_ok,
      exists_unit, Program.run_read_bind, id_eq, Program.run_update_bind, Program.run_pure,
      Prod.mk.injEq, Except.ok.injEq] at done
    obtain ⟨required, fresh, _, _, _, rfl, rfl⟩ := done
    refine ⟨.required approval (validateRequiredApproval_eq_ok required)
      (validateNewApproval_eq_ok fresh) rfl, ?_⟩
    intro _ next impossible
    cases impossible
  | decide admission input =>
    obtain ⟨current, next, present, changed, rfl, rfl⟩ := endToolApproval_eq_ok done
    obtain ⟨ended, status, _⟩ := decideToolApproval_ended changed
    refine ⟨.ended current next _ present ended rfl, ?_⟩
    intro _ other same
    rw [← ToolApprovalReply.ended.inj same]
    exact status
  | expire admission input =>
    obtain ⟨current, next, present, ended, _, _, rfl, rfl⟩ := expireToolApproval_eq_ok done
    exact ⟨.ended current next _ present ended rfl, fun other => absurd rfl (other _ _)⟩
  | supersede admission input =>
    obtain ⟨current, next, present, changed, rfl, rfl⟩ := endToolApproval_eq_ok done
    obtain ⟨ended, status, _⟩ := terminateToolApproval_ended changed
    refine ⟨.ended current next _ present ended rfl, ?_⟩
    intro _ other same
    rw [← ToolApprovalReply.ended.inj same, status]
    decide
  | replace admission requeued input =>
    obtain ⟨effect, status⟩ := replaceToolApproval_effect done
    exact ⟨effect, fun _ => status⟩

/-- The approvals are stored under their own ids. -/
def Filed (store : ToolApprovalStore) : Prop :=
  ∀ approvalId approval, store.toolApprovals.find approvalId = some approval →
    approval.approvalId = approvalId

/-- The approval is stored under its id, as it was or ended. -/
def Follows (parse : JsString → Option Int) (approval : ToolApprovalState)
    (store : ToolApprovalStore) : Prop :=
  ∃ next, store.toolApprovals.find approval.approvalId = some next ∧
    (next = approval ∨ Ended parse approval next)

/-- Setting an approval under its id keeps the approvals under theirs. -/
theorem filed_set (filed : Filed before)
    (approvals : after.toolApprovals = before.toolApprovals.set approval.approvalId approval) :
    Filed after := by
  intro approvalId found present
  rw [approvals, OrderedMap.find_set] at present
  split at present
  case isTrue same =>
    rw [← Option.some.inj present]
    exact same.symm
  case isFalse => exact filed approvalId found present

/-- A new approval leaves the other ones as they are. -/
theorem find_new (absent : before.toolApprovals.find approval.approvalId = none)
    (present : before.toolApprovals.find current.approvalId = some current) :
    (before.toolApprovals.set approval.approvalId approval).find current.approvalId =
      some current := by
  have different : current.approvalId ≠ approval.approvalId := by
    intro same
    rw [same, absent] at present
    cases present
  rw [OrderedMap.find_set_of_ne different]
  exact present

/-- Ending an approval leaves the other ones as they are. -/
theorem follows_ended {ending next : ToolApprovalState} (filed : Filed before)
    (found : before.toolApprovals.find approvalId = some ending)
    (ended : Ended parse ending next)
    (present : before.toolApprovals.find approval.approvalId = some approval) :
    ∃ later, (before.toolApprovals.set next.approvalId next).find approval.approvalId =
      some later ∧ (later = approval ∨ Ended parse approval later) := by
  obtain rfl := filed _ _ found
  by_cases same : approval.approvalId = ending.approvalId
  · rw [same, found] at present
    obtain rfl := Option.some.inj present
    refine ⟨next, ?_, .inr ended⟩
    rw [ended.approvalId]
    exact OrderedMap.find_set_self
  · refine ⟨approval, ?_, .inl rfl⟩
    rw [OrderedMap.find_set_of_ne (by rwa [ended.approvalId])]
    exact present

/-- Every effect keeps the approvals under their ids. -/
theorem Effect.filed (effect : Effect parse before reply after) (filed : Filed before) :
    Filed after := by
  cases effect with
  | nothing => exact filed
  | required approval fresh absent approvals => exact filed_set filed approvals
  | ended current next approvalId present ended approvals => exact filed_set filed approvals
  | replaced current next replacement approvalId present ended superseded fresh absent approvals =>
    have first : Filed (before.setApproval next) := filed_set filed rfl
    exact filed_set first approvals

/-- Every effect leaves each approval as it was or ends it. -/
theorem Effect.follows (effect : Effect parse before reply after) (filed : Filed before)
    (present : before.toolApprovals.find approvalId = some approval) :
    Follows parse approval after := by
  obtain rfl := filed _ _ present
  cases effect with
  | nothing => exact ⟨approval, present, .inl rfl⟩
  | required added fresh absent approvals =>
    refine ⟨approval, ?_, .inl rfl⟩
    rw [approvals]
    exact find_new absent present
  | ended current next other found ended approvals =>
    rw [Follows, approvals]
    exact follows_ended filed found ended present
  | replaced current next replacement other found ended superseded fresh absent approvals =>
    obtain ⟨later, there, follows⟩ := follows_ended filed found ended present
    refine ⟨later, ?_, follows⟩
    have different : approval.approvalId ≠ replacement.approvalId := by
      intro same
      rw [same, absent] at present
      cases present
    rw [approvals, OrderedMap.find_set_of_ne different]
    exact there

/-- An approval that is stored was stored before, or is required, or is the one that ended. -/
theorem Effect.origin {next : ToolApprovalState} (effect : Effect parse before reply after)
    (there : after.toolApprovals.find approvalId = some next) :
    before.toolApprovals.find approvalId = some next ∨ next.status = .required ∨
      reply = .ended next := by
  cases effect with
  | nothing => exact .inl there
  | required approval fresh absent approvals =>
    rw [approvals, OrderedMap.find_set] at there
    split at there
    · rw [← Option.some.inj there]
      exact .inr (.inl fresh)
    · exact .inl there
  | ended current ending other present ended approvals =>
    rw [approvals, OrderedMap.find_set] at there
    split at there
    · rw [Option.some.inj there]
      exact .inr (.inr rfl)
    · exact .inl there
  | replaced current ending replacement other present ended superseded fresh absent approvals =>
    rw [approvals, OrderedMap.find_set, OrderedMap.find_set] at there
    split at there
    · rw [← Option.some.inj there]
      exact .inr (.inl fresh)
    · split at there
      · rw [Option.some.inj there]
        exact .inr (.inr rfl)
      · exact .inl there

/-- The operation with a work item that takes its delay. -/
def requeueable : ToolApprovalOperation → ToolApprovalOperation
  | .require admission _ approval commit => .require admission (.ok ()) approval commit
  | .replace admission _ input => .replace admission (.ok ()) input
  | operation => operation

/-- Whatever the queue says in the end, an operation leaves the same approvals. -/
theorem requeueable_state (store : ToolApprovalStore) :
    ((performToolApproval parse operation).run store).2 =
      ((performToolApproval parse (requeueable operation)).run store).2 := by
  have last (requeued : Checked Unit) (reply : ToolApprovalReply) (state : ToolApprovalStore) :
      ((Program.check requeued >>= fun _ => pure reply : ToolApprovalProgram).run state).2 =
        ((Program.check (.ok ()) >>= fun _ => pure reply : ToolApprovalProgram).run state).2 := by
    cases requeued <;> rfl
  cases operation with
  | require admission requeued approval commit =>
    apply Program.run_bind_state
    intro _
    apply Program.run_bind_state
    intro store
    apply Program.run_bind_state
    intro _
    apply Program.run_bind_state
    intro _
    apply Program.run_bind_state
    intro _
    apply Program.run_bind_state
    intro _
    apply Program.run_bind_state
    exact fun _ => last requeued .required
  | replace admission requeued input =>
    apply Program.run_bind_state
    intro _
    apply Program.run_bind_state
    intro store
    apply Program.run_bind_state
    intro current
    cases store.toolApprovalActions.find (toolApprovalActionKey input.replacement) with
    | some existingId => exact fun _ => rfl
    | none =>
      apply Program.run_bind_state
      intro _
      apply Program.run_bind_state
      intro _
      apply Program.run_bind_state
      intro superseded
      apply Program.run_bind_state
      intro _
      apply Program.run_bind_state
      intro _
      apply Program.run_bind_state
      intro _
      apply Program.run_bind_state
      intro _
      apply Program.run_bind_state
      exact fun _ => last requeued (.ended superseded)
  | decide | expire | supersede => rfl

/-- A request to end an approval that is rejected leaves the approvals alone. -/
theorem endToolApproval_atomic {admission : Checked Unit} {tenantId : JsString}
    {commit : CommitRunInput} {change : ToolApprovalState → Checked ToolApprovalState} :
    Program.Atomic (endToolApproval admission tenantId approvalId commit change) := by
  apply (Program.readOnly_read _).bind_atomic
  intro store
  apply (Program.readOnly_check _).bind_atomic
  intro current
  apply (Program.readOnly_check _).bind_atomic
  intro next
  apply (Program.readOnly_check _).bind_atomic
  intro _
  apply (Program.readOnly_check _).bind_atomic
  intro _
  apply Program.Total.atomic
  exact (Program.total_update _).bind fun _ => Program.total_pure _

/-- The answer to an earlier replacement leaves the approvals alone. -/
theorem replayToolApprovalReplacement_readOnly {admission : Checked Unit}
    {store : ToolApprovalStore} {existingId : JsString} {input : ReplaceToolApprovalInput} :
    Program.ReadOnly (replayToolApprovalReplacement admission store current existingId input) := by
  unfold replayToolApprovalReplacement
  cases store.toolApprovals.find existingId with
  | none => exact Program.readOnly_abort _
  | some existing =>
    exact (Program.readOnly_check _).bind fun _ => (Program.readOnly_check _).bind fun _ =>
      Program.readOnly_pure _

/-- An operation that is rejected leaves the approvals alone, when the queue takes the delay. -/
theorem requeueable_atomic :
    Program.Atomic (performToolApproval parse (requeueable operation)) := by
  have total : Program.Total (Program.check (.ok ()) : Program Failure ToolApprovalStore Unit) :=
    fun _ => ⟨(), rfl⟩
  cases operation with
  | require admission requeued approval commit =>
    apply (Program.readOnly_check _).bind_atomic
    intro _
    apply (Program.readOnly_read _).bind_atomic
    intro store
    apply (Program.readOnly_check _).bind_atomic
    intro _
    apply (Program.readOnly_check _).bind_atomic
    intro _
    apply (Program.readOnly_check _).bind_atomic
    intro _
    apply Program.Total.atomic
    exact (Program.total_update _).bind fun _ => (Program.total_update _).bind fun _ =>
      total.bind fun _ => Program.total_pure _
  | replace admission requeued input =>
    apply (Program.readOnly_check _).bind_atomic
    intro _
    apply (Program.readOnly_read _).bind_atomic
    intro store
    apply (Program.readOnly_check _).bind_atomic
    intro current
    cases store.toolApprovalActions.find (toolApprovalActionKey input.replacement) with
    | some existingId => exact replayToolApprovalReplacement_readOnly.atomic
    | none =>
      apply (Program.readOnly_check _).bind_atomic
      intro _
      apply (Program.readOnly_check _).bind_atomic
      intro _
      apply (Program.readOnly_check _).bind_atomic
      intro superseded
      apply (Program.readOnly_check _).bind_atomic
      intro _
      apply (Program.readOnly_check _).bind_atomic
      intro _
      apply Program.Total.atomic
      exact (Program.total_update _).bind fun _ => (Program.total_update _).bind fun _ =>
        (Program.total_update _).bind fun _ => total.bind fun _ => Program.total_pure _
  | decide admission input => exact endToolApproval_atomic
  | expire admission input => exact endToolApproval_atomic
  | supersede admission input => exact endToolApproval_atomic

/-- Whatever an operation returns, it leaves the approvals alone or has one of the listed
effects. -/
theorem performToolApproval_change (store : ToolApprovalStore) :
    ((performToolApproval parse operation).run store).2 = store ∨
      ∃ reply, Effect parse store reply ((performToolApproval parse operation).run store).2 := by
  rw [requeueable_state]
  cases performed : (performToolApproval parse (requeueable operation)).run store with
  | mk outcome after =>
    cases outcome with
    | ok reply => exact .inr ⟨reply, (performToolApproval_effect performed).1⟩
    | error failure =>
      have same := requeueable_atomic store failure (by rw [performed])
      rw [performed] at same
      exact .inl same

/-- Every operation keeps the approvals under their ids. -/
theorem performToolApproval_filed (operation : ToolApprovalOperation) (store : ToolApprovalStore)
    (filed : Filed store) : Filed ((performToolApproval parse operation).run store).2 := by
  rcases performToolApproval_change store with same | ⟨reply, effect⟩
  · rw [same]
    exact filed
  · exact effect.filed filed

/-- Every operation leaves each approval as it was or ends it. -/
theorem performToolApproval_follows (filed : Filed before)
    (present : before.toolApprovals.find approvalId = some approval) :
    Follows parse approval ((performToolApproval parse operation).run before).2 := by
  rcases performToolApproval_change before with same | ⟨reply, effect⟩
  · rw [same]
    obtain rfl := filed _ _ present
    exact ⟨approval, present, .inl rfl⟩
  · exact effect.follows filed present

end Stores

section Runs

/-- One step of a run on the store. -/
abbrev ApprovalStep := Step ToolApprovalOperation Failure ToolApprovalStore ToolApprovalReply

variable {before : ToolApprovalStore} {approvalId : JsString} {approval : ToolApprovalState}
  {operation : ToolApprovalOperation}

/-- The step ended the approval. -/
def Ends (step : ApprovalStep) (approvalId : JsString) : Prop :=
  ∃ next, step.outcome = .ok (.ended next) ∧ next.approvalId = approvalId

/-- The approval is stored and no longer required. -/
def Terminal (store : ToolApprovalStore) (approvalId : JsString) : Prop :=
  ∃ approval, store.toolApprovals.find approvalId = some approval ∧ approval.status ≠ .required

/-- An approval that is no longer required stays as it is. -/
theorem terminal_kept (filed : Filed before)
    (present : before.toolApprovals.find approvalId = some approval)
    (terminal : approval.status ≠ .required) :
    ((performToolApproval parse operation).run before).2.toolApprovals.find approvalId =
      some approval := by
  have followed : Follows parse approval ((performToolApproval parse operation).run before).2 :=
    performToolApproval_follows filed present
  obtain rfl := filed _ _ present
  obtain ⟨next, there, rfl | ended⟩ := followed
  · exact there
  · exact absurd ended.required terminal

/-- A step that ends an approval finds it required and leaves it terminal. -/
theorem ends_required {step : ApprovalStep}
    (performed : (performToolApproval parse step.operation).run step.before =
      (step.outcome, step.after)) (filed : Filed step.before)
    (ends : Ends step approvalId) :
    ¬ Terminal step.before approvalId ∧ Terminal step.after approvalId := by
  obtain ⟨operation, before, outcome, after⟩ := step
  obtain ⟨next, rfl, rfl⟩ := ends
  have effect := (performToolApproval_effect performed).1
  change Filed before at filed
  show ¬ Terminal before next.approvalId ∧ Terminal after next.approvalId
  have required (current : ToolApprovalState) (other : JsString)
      (present : before.toolApprovals.find other = some current)
      (ended : Ended parse current next) : ¬ Terminal before next.approvalId := by
    rintro ⟨found, there, gone⟩
    obtain rfl := filed _ _ present
    rw [ended.approvalId, present] at there
    rw [← Option.some.inj there] at gone
    exact gone ended.required
  cases effect with
  | ended current _ other present ended approvals =>
    refine ⟨required current other present ended, next, ?_, ended.ended⟩
    rw [approvals]
    exact OrderedMap.find_set_self
  | replaced current _ replacement other present ended superseded fresh absent approvals =>
    refine ⟨required current other present ended, next, ?_, ended.ended⟩
    have different : next.approvalId ≠ replacement.approvalId := by
      intro same
      obtain rfl := filed _ _ present
      rw [← same, ended.approvalId, present] at absent
      cases absent
    rw [approvals, OrderedMap.find_set_of_ne different]
    exact OrderedMap.find_set_self

/-- The step decided the approval. -/
def Decides (step : ApprovalStep) (input : DecideToolApprovalInput) : Prop :=
  step.Succeeds ∧ ∃ admission, step.operation = .decide admission input

/-- A decision that is accepted comes before the approval expires. -/
theorem decides_early {step : ApprovalStep} {input : DecideToolApprovalInput}
    (performed : (performToolApproval parse step.operation).run step.before =
      (step.outcome, step.after)) (decides : Decides step input) :
    ∃ approval, step.before.toolApprovals.find input.approvalId = some approval ∧
      ∀ expiresAt, approval.expiresAt = some expiresAt →
        Precedes parse input.decision.decidedAt expiresAt := by
  obtain ⟨operation, before, outcome, after⟩ := step
  obtain ⟨⟨reply, rfl⟩, admission, rfl⟩ := decides
  obtain ⟨current, next, present, changed, _, _⟩ := endToolApproval_eq_ok performed
  exact ⟨current, present, (decideToolApproval_ended changed).2.2⟩

end Runs

section Systems

variable {before after : ApprovalSystem} {operation : ApprovalSystemOperation}
  {outcome : Except Failure (Option ToolApprovalReply)} {approvalId : JsString}
  {approval next : ToolApprovalState}

/-- What a worker has loaded agrees with the store on the expiry. -/
def Remembered (system : ApprovalSystem) : Prop :=
  ∀ approval ∈ system.loaded, ∃ current,
    system.store.toolApprovals.find approval.approvalId = some current ∧
      current.expiresAt = approval.expiresAt

/-- The approvals of the system are stored under their ids, and remembered. -/
structure Consistent (system : ApprovalSystem) : Prop where
  filed : Filed system.store
  remembered : Remembered system

/-- Asking the store leaves the store as the request does, and what is loaded. -/
theorem askStore_state (program : ToolApprovalProgram) (system : ApprovalSystem) :
    ((askStore program).run system).2 =
      { system with store := (program.run system.store).2 } := by
  rw [askStore, Program.run_bind, Program.run_focus]
  cases (program.run system.store).1 <;> rfl

/-- What a step does to the system: nothing, or an approval is loaded, or the store is asked. It is
asked to expire an approval only for one that was loaded and is due. -/
inductive SystemEffect (parse : JsString → Option Int) (system : ApprovalSystem) :
    ApprovalSystem → Prop where
  | nothing : SystemEffect parse system system
  | loaded (approval : ToolApprovalState) (approvalId : JsString)
      (present : system.store.toolApprovals.find approvalId = some approval) :
      SystemEffect parse system { system with loaded := system.loaded ++ [approval] }
  | asked (asked : ToolApprovalOperation)
      (due : ∀ admission input, asked = .expire admission input →
        ∃ approval ∈ system.loaded, approval.approvalId = input.approvalId ∧
          ∃ expiresAt, approval.expiresAt = some expiresAt ∧
            isBefore parse input.occurredAt expiresAt = false) :
      SystemEffect parse system
        { system with store := ((performToolApproval parse asked).run system.store).2 }

/-- A request that the service makes is for the approval it was asked about, which is due. -/
theorem requestToolApprovalExpiry_eq_ok {state : RunState} {lease : WorkItemLeaseInput}
    {eventId occurredAt : JsString} {input : ExpireToolApprovalInput}
    (requested : requestToolApprovalExpiry parse state lease approval eventId occurredAt =
      .ok (some input)) :
    input.approvalId = approval.approvalId ∧ ∃ expiresAt, approval.expiresAt = some expiresAt ∧
      isBefore parse input.occurredAt expiresAt = false := by
  simp only [requestToolApprovalExpiry, bind_eq_ok, exists_unit, pure_eq_ok] at requested
  obtain ⟨_, found⟩ := requested
  obtain ⟨expiresAt, present, request⟩ := Option.bind_eq_some_iff.mp found
  split at request
  · cases request
  · next early =>
    rw [← Option.some.inj request]
    exact ⟨rfl, expiresAt, present, by simpa using early⟩

/-- Every step of the system has one of the listed effects. -/
theorem performApprovalSystem_effect (operation : ApprovalSystemOperation)
    (system : ApprovalSystem) :
    SystemEffect parse system ((performApprovalSystem parse operation).run system).2 := by
  cases operation with
  | request asked other =>
    rw [performApprovalSystem, askStore_state]
    exact .asked asked fun admission input same => absurd same (other admission input)
  | load tenantId approvalId =>
    show SystemEffect parse system
      { system with loaded := system.loaded ++ (system.store.load tenantId approvalId).toList }
    cases loaded : system.store.load tenantId approvalId with
    | none =>
      simp only [Option.toList_none, List.append_nil]
      exact .nothing
    | some approval => exact .loaded approval approvalId (load_eq_some loaded)
  | expire admission state lease index eventId occurredAt =>
    rw [performApprovalSystem, expireLoadedApproval, Program.run_read_bind]
    cases found : system.loaded[index]? with
    | none =>
      simp only [id, found, Program.run_pure]
      exact .nothing
    | some approval =>
      simp only [id, found]
      cases requested :
          requestToolApprovalExpiry parse state lease approval eventId occurredAt with
      | error failure =>
        rw [Program.run_check_error_bind]
        exact .nothing
      | ok request =>
        rw [Program.run_check_ok_bind]
        cases request with
        | none => exact .nothing
        | some input =>
          show SystemEffect parse system
            ((askStore (expireToolApproval parse admission input)).run system).2
          rw [askStore_state]
          apply SystemEffect.asked (.expire admission input)
          rintro _ _ ⟨rfl, rfl⟩
          exact ⟨approval, List.mem_of_getElem? found,
            (requestToolApprovalExpiry_eq_ok requested).imp_left Eq.symm⟩

/-- A step keeps the system consistent. -/
theorem SystemEffect.consistent (effect : SystemEffect parse before after)
    (consistent : Consistent before) : Consistent after := by
  obtain ⟨filed, remembered⟩ := consistent
  cases effect with
  | nothing => exact ⟨filed, remembered⟩
  | loaded approval approvalId present =>
    refine ⟨filed, ?_⟩
    intro found member
    cases List.mem_append.mp member with
    | inl old => exact remembered found old
    | inr new =>
      rw [List.mem_singleton.mp new]
      obtain rfl := filed _ _ present
      exact ⟨approval, present, rfl⟩
  | asked asked due =>
    refine ⟨performToolApproval_filed asked before.store filed, ?_⟩
    intro approval member
    obtain ⟨current, present, same⟩ := remembered approval member
    have followed : Follows parse current
        ((performToolApproval parse asked).run before.store).2 :=
      performToolApproval_follows filed present
    obtain ⟨later, there, rfl | ended⟩ := followed
    · rw [filed _ _ present] at there
      exact ⟨later, there, same⟩
    · rw [filed _ _ present] at there
      exact ⟨later, there, ended.expiresAt.trans same⟩

/-- An approval becomes expired only by a request to expire it, at the instant of the request. -/
theorem becomes_expired {store : ToolApprovalStore} {asked : ToolApprovalOperation}
    (filed : Filed store) (present : store.toolApprovals.find approvalId = some approval)
    (unexpired : approval.status ≠ .expired)
    (there : ((performToolApproval parse asked).run store).2.toolApprovals.find approvalId =
      some next) (expired : next.status = .expired) :
    Ended parse approval next ∧ ∃ admission input, asked = .expire admission input ∧
      input.approvalId = approvalId ∧ next.updatedAt = input.occurredAt := by
  have followed : Follows parse approval ((performToolApproval parse asked).run store).2 :=
    performToolApproval_follows filed present
  obtain rfl := filed _ _ present
  obtain ⟨later, here, same⟩ := followed
  obtain rfl := Option.some.inj (here.symm.trans there)
  have ended : Ended parse approval later := by
    rcases same with rfl | ended
    · exact absurd expired unexpired
    · exact ended
  refine ⟨ended, ?_⟩
  rw [requeueable_state] at here
  cases performed : (performToolApproval parse (requeueable asked)).run store with
  | mk outcome after =>
    rw [performed] at here
    cases outcome with
    | error failure =>
      have kept := requeueable_atomic store failure (by rw [performed])
      rw [performed] at kept
      rw [show after = store from kept, present] at here
      rw [← Option.some.inj here] at expired
      exact absurd expired unexpired
    | ok reply =>
      obtain ⟨effect, silent⟩ := performToolApproval_effect performed
      have replied : reply = .ended later := by
        rcases effect.origin here with old | required | replied
        · rw [present] at old
          rw [← Option.some.inj old] at expired
          exact absurd expired unexpired
        · rw [expired] at required
          cases required
        · exact replied
      by_cases other : ∀ admission input, requeueable asked ≠ .expire admission input
      · exact absurd expired (silent other later replied)
      · simp only [not_forall, not_not] at other
        obtain ⟨admission, input, same⟩ := other
        rw [same] at performed
        obtain ⟨current, next, found, done, _, updated, rfl, _⟩ :=
          expireToolApproval_eq_ok performed
        obtain rfl := ToolApprovalReply.ended.inj replied
        refine ⟨admission, input, ?_, ?_, updated⟩
        · cases asked with
          | expire | decide | supersede => exact same
          | require | replace => cases same
        · rw [← filed _ _ found, ← done.approvalId, ended.approvalId]

/-- An approval enters the store required. -/
theorem Effect.enters {store later : ToolApprovalStore} {reply : ToolApprovalReply}
    (effect : Effect parse store reply later) (filed : Filed store)
    (absent : store.toolApprovals.find approvalId = none)
    (there : later.toolApprovals.find approvalId = some next) : next.status = .required := by
  have ending (current ended : ToolApprovalState) (other : JsString)
      (present : store.toolApprovals.find other = some current)
      (ends : Ended parse current ended) : approvalId ≠ ended.approvalId := by
    rintro rfl
    obtain rfl := filed _ _ present
    rw [ends.approvalId, present] at absent
    cases absent
  cases effect with
  | nothing =>
    rw [absent] at there
    cases there
  | required approval fresh _ approvals =>
    rw [approvals, OrderedMap.find_set, absent] at there
    split at there
    · rw [← Option.some.inj there]
      exact fresh
    · cases there
  | ended current ended other present ends approvals =>
    rw [approvals, OrderedMap.find_set_of_ne (ending current ended other present ends),
      absent] at there
    cases there
  | replaced current ended replacement other present ends _ fresh _ approvals =>
    rw [approvals, OrderedMap.find_set,
      OrderedMap.find_set_of_ne (ending current ended other present ends), absent] at there
    split at there
    · rw [← Option.some.inj there]
      exact fresh
    · cases there

/-- An approval enters the system required. -/
theorem SystemEffect.enters (effect : SystemEffect parse before after)
    (consistent : Consistent before)
    (absent : before.store.toolApprovals.find approvalId = none)
    (there : after.store.toolApprovals.find approvalId = some next) :
    next.status = .required := by
  cases effect with
  | nothing | loaded =>
    rw [absent] at there
    cases there
  | asked asked due =>
    have change : ((performToolApproval parse asked).run before.store).2 = before.store ∨
        ∃ reply, Effect parse before.store reply
          ((performToolApproval parse asked).run before.store).2 :=
      performToolApproval_change before.store
    rcases change with same | ⟨reply, done⟩
    · rw [same, absent] at there
      cases there
    · exact done.enters consistent.filed absent there

/-- A step that leaves an approval expired that was not starts from one that is due. -/
theorem SystemEffect.due (effect : SystemEffect parse before after)
    (consistent : Consistent before)
    (present : before.store.toolApprovals.find approvalId = some approval)
    (unexpired : approval.status ≠ .expired)
    (there : after.store.toolApprovals.find approvalId = some next)
    (expired : next.status = .expired) :
    ∃ expiresAt, next.expiresAt = some expiresAt ∧ Reaches parse expiresAt next.updatedAt := by
  obtain ⟨filed, remembered⟩ := consistent
  cases effect with
  | nothing | loaded =>
    rw [present] at there
    rw [← Option.some.inj there] at expired
    exact absurd expired unexpired
  | asked asked due =>
    obtain ⟨ended, admission, input, rfl, rfl, updated⟩ :=
      becomes_expired filed present unexpired there expired
    obtain ⟨known, member, same, expiresAt, expires, late⟩ := due admission input rfl
    obtain ⟨current, stored, agrees⟩ := remembered known member
    rw [same, present] at stored
    obtain rfl := Option.some.inj stored
    have expiry : approval.expiresAt = some expiresAt := agrees.trans expires
    obtain ⟨start, dated⟩ := Option.ne_none_iff_exists'.mp (ended.dated expiresAt expiry)
    obtain ⟨stop, occurred⟩ := Option.ne_none_iff_exists'.mp ended.updated
    refine ⟨expiresAt, ended.expiresAt.trans expiry, start, stop, dated, occurred, ?_⟩
    rw [updated] at occurred
    simp only [isBefore, occurred, dated, decide_eq_false_iff_not, Int.not_lt] at late
    exact late

end Systems

section Claims

/-- The empty store keeps its approvals under their ids. -/
theorem filed_empty : Filed ToolApprovalStore.empty := by
  intro approvalId approval present
  cases present

/-- In every order of requests to the store at most one ends an approval, an approval that ended
stays as it is, and a decision comes before the approval expires. In every run in which workers ask
the service to expire the approvals they loaded, an approval becomes expired only when it is due,
and never when it has no expiry. -/
theorem approval_outcome (parse : JsString → Option Int)
    (operations : List ToolApprovalOperation) (steps : List ApprovalSystemOperation) :
    (trace (performToolApproval parse) .empty operations).Pairwise (fun earlier later =>
      ∀ approvalId, Ends earlier approvalId → ¬ Ends later approvalId) ∧
    (∀ step ∈ trace (performToolApproval parse) .empty operations, ∀ approvalId approval,
      step.before.toolApprovals.find approvalId = some approval → approval.status ≠ .required →
        step.after.toolApprovals.find approvalId = some approval) ∧
    (∀ step ∈ trace (performToolApproval parse) .empty operations, ∀ input,
      Decides step input → ∃ approval,
        step.before.toolApprovals.find input.approvalId = some approval ∧
        ∀ expiresAt, approval.expiresAt = some expiresAt →
          Precedes parse input.decision.decidedAt expiresAt) ∧
    (∀ step ∈ trace (performApprovalSystem parse) .empty steps, ∀ approvalId next,
      (∀ approval, step.before.store.toolApprovals.find approvalId = some approval →
        approval.status ≠ .expired) →
      step.after.store.toolApprovals.find approvalId = some next → next.status = .expired →
        ∃ expiresAt, next.expiresAt = some expiresAt ∧
          Reaches parse expiresAt next.updatedAt) := by
  refine ⟨?_, ?_, ?_, ?_⟩
  · apply trace_pairwise Filed fun step store =>
      ∀ approvalId, Ends step approvalId → Terminal store approvalId
    · exact performToolApproval_filed
    · exact fun step filed performed approvalId ends => (ends_required performed filed ends).2
    · intro step operation store filed marked approvalId ends
      obtain ⟨approval, present, terminal⟩ := marked approvalId ends
      exact ⟨approval, terminal_kept filed present terminal, terminal⟩
    · intro earlier later filed marked performed approvalId first second
      exact (ends_required performed filed second).1 (marked approvalId first)
    · exact filed_empty
  · intro step member approvalId approval present terminal
    have filed := (trace_invariant Filed performToolApproval_filed filed_empty member).1
    have kept : ((performToolApproval parse step.operation).run
        step.before).2.toolApprovals.find approvalId = some approval :=
      terminal_kept filed present terminal
    rw [run_of_mem_trace member] at kept
    exact kept
  · exact fun step member input decides => decides_early (run_of_mem_trace member) decides
  · intro step member approvalId next unexpired there expired
    have start : Consistent ApprovalSystem.empty :=
      ⟨filed_empty, fun approval loaded => nomatch loaded⟩
    have consistent := (trace_invariant Consistent
      (fun operation system held => (performApprovalSystem_effect operation system).consistent held)
      start member).1
    have effect : SystemEffect parse step.before
        ((performApprovalSystem parse step.operation).run step.before).2 :=
      performApprovalSystem_effect step.operation step.before
    rw [run_of_mem_trace member] at effect
    cases present : step.before.store.toolApprovals.find approvalId with
    | none =>
      rw [effect.enters consistent present there] at expired
      cases expired
    | some approval =>
      exact effect.due consistent present (unexpired approval present) there expired

/-- What the sample approval is for. -/
def sampleIdentity : ToolApprovalIdentity where
  approvalId := js "approval"
  tenantId := js "tenant"
  spaceId := js "space"
  runId := js "run"
  receiptId := js "receipt"
  workItemId := js "work"
  actionDigest := uniformDigest '0'
  policySnapshotId := js "policy"
  requestedByActorId := js "actor"

/-- The sample approval, without an expiry. -/
def sampleApproval : ToolApprovalState where
  toToolApprovalIdentity := sampleIdentity
  schemaVersion := js "crewon.tool-approval.v0"
  status := .required
  revision := 1
  requiredAt := js "2026-01-01T00:00:00Z"
  expiresAt := none
  decision := none
  terminalReasonCode := none
  updatedAt := js "2026-01-01T00:00:00Z"

/-- The commit of one event of the sample run. -/
def sampleCommit (sequence : Int) (data : RunEventData) : CommitRunInput where
  tenantId := js "tenant"
  expectedRevision := sequence - 1
  events := [{
    schemaVersion := js "crewon.run-event.v0"
    runId := js "run"
    eventId := js "event"
    sequence := sequence
    occurredAt := js "2026-01-01T00:00:00Z"
    data := data }]
  workItems := []

/-- The store is asked for the sample approval and, in the same second, to expire it. -/
def sampleRequests : List ToolApprovalOperation := [
  .require (.ok ()) (.ok ()) sampleApproval
    (sampleCommit 3 (.runApprovalRequired ⟨js "approval", uniformDigest '0'⟩)),
  .expire (.ok ()) ⟨js "tenant", js "approval", ⟨js "work", js "worker", js "lease", 1⟩, 1,
    js "2026-01-01T00:00:00Z", sampleCommit 4 (.runResumed (js "tool_approval_expired"))⟩]

/-- The store itself does not look at the expiry: asked directly, it leaves an approval expired
that has none. -/
theorem approval_expires_unasked : ∃ next,
    (finalState (performToolApproval dateParse) .empty sampleRequests).toolApprovals.find
      (js "approval") = some next ∧ next.status = .expired ∧ next.expiresAt = none := by
  have found : ((finalState (performToolApproval dateParse) .empty
      sampleRequests).toolApprovals.find (js "approval")).map
        (fun next => (next.status, next.expiresAt)) = some (.expired, none) := by
    decide_cbv
  obtain ⟨next, present, both⟩ := Option.map_eq_some_iff.mp found
  obtain ⟨status, expiry⟩ := Prod.mk.inj both
  exact ⟨next, present, status, expiry⟩

end Claims

end Crewon.Verif.ToolApproval
