import Crewon.Verif.WorkflowAcceptance

/-!
# How a workflow run goes on and ends

A workflow that ended stays the way it ended, until a cancellation turns it into a canceled one. A
workflow that has not ended can go on, as long as no node is settled as canceled that nobody asked
to cancel.
-/

namespace Crewon.Verif.WorkflowProgress

open Crewon.Js Crewon.Checked Crewon.Lib Crewon.Domain Crewon.Store Crewon.Application
open Crewon.Verif.WorkflowGraph Crewon.Verif.WorkflowExecution Crewon.Verif.WorkflowAcceptance

/-- What holds of a workflow that ended in a status. -/
def EndedAs (state : WorkflowExecutionState) : WorkflowStatus → Prop
  | .completed => state.cancelRequested = false ∧ ∀ node ∈ state.nodes, node.status = .completed
  | .failed => state.cancelRequested = false ∧ SomeFailed state.nodes
  | .canceled =>
    state.cancelRequested = true ∧ ∀ node ∈ state.nodes, isTerminalNode node.status = true
  | .running | .waitingHuman => False

/-- A node that ended is neither pending nor claimed. -/
theorem isTerminalNode_iff {node : WorkflowExecutionNodeState} :
    isTerminalNode node.status = true ↔ node.status ≠ .pending ∧ node.isActive = false := by
  cases same : node.status <;> simp [isTerminalNode, WorkflowExecutionNodeState.isActive, same]

/-- A cancellation that the store accepted while no node is at work leaves only nodes that ended. -/
theorem closed_terminal {state : WorkflowExecutionState} (closed : Closed state)
    (requested : state.cancelRequested = true) (idle : ¬ AtWork state.nodes) :
    ∀ node ∈ state.nodes, isTerminalNode node.status = true := by
  intro node member
  have gone := closed requested node member
  rw [isTerminalNode_iff]
  refine ⟨gone.1, ?_⟩
  rw [Bool.eq_false_iff]
  intro active
  simp only [WorkflowExecutionNodeState.isActive, Bool.or_eq_true, decide_eq_true_eq] at active
  rcases active with (running | waiting) | unknown
  · exact idle ⟨node, member, .inl running⟩
  · exact gone.2 waiting
  · exact idle ⟨node, member, .inr unknown⟩

/-- No node is at work among nodes that ended. -/
theorem not_atWork {nodes : List WorkflowExecutionNodeState}
    (ended : ∀ node ∈ nodes, isTerminalNode node.status = true) : ¬ AtWork nodes := by
  rintro ⟨node, member, busy⟩
  have terminal := ended node member
  rcases busy with busy | busy <;> simp [busy, isTerminalNode] at terminal

/-- A workflow that ended in a status shows it. -/
theorem EndedAs.status {run : WorkflowRun} {state : WorkflowExecutionState} {status : WorkflowStatus}
    (valid : Valid run state) (ended : EndedAs state status) : state.status = status := by
  rw [valid.held.status, projectedStatus_eq]
  cases status with
  | running => exact ended.elim
  | waitingHuman => exact ended.elim
  | completed =>
    have unfailed : ¬ SomeFailed state.nodes := by
      rintro ⟨node, member, failed⟩
      simp [ended.2 node member] at failed
    simp [ended.1, unfailed, if_pos ended.2]
  | failed => simp [ended.1, ended.2]
  | canceled => simp [ended.1, not_atWork ended.2]

/-- A valid state that shows one of these statuses while no node is at work ended in it. -/
theorem endedAs_of_status {run : WorkflowRun} {state : WorkflowExecutionState}
    (valid : Valid run state)
    (ended : state.status = .completed ∨ state.status = .failed ∨ state.status = .canceled)
    (idle : ¬ AtWork state.nodes) : EndedAs state state.status := by
  have shown := valid.held.status
  rw [projectedStatus_eq] at shown
  split at shown
  case isTrue requested =>
    rw [shown]
    exact ⟨requested.1, closed_terminal valid.closed requested.1 idle⟩
  case isFalse going =>
    have unrequested : state.cancelRequested = false := by
      rw [Bool.eq_false_iff]
      exact fun requested => going ⟨requested, idle⟩
    split at shown
    case isTrue failed =>
      rw [shown]
      exact ⟨unrequested, failed⟩
    case isFalse =>
      split at shown
      case isTrue completed =>
        rw [shown]
        exact ⟨unrequested, completed⟩
      case isFalse =>
        split at shown <;> simp [shown] at ended

/-- The status that a call leaves an ended workflow in. -/
def statusAfter (call : WorkflowCall) (status : WorkflowStatus) : WorkflowStatus :=
  if call.operation = .requestCancel then .canceled else status

/-- A workflow that ended has no node at work that the store lets a cancellation meet. -/
theorem EndedAs.idle {current : WorkflowExecutionState} {status : WorkflowStatus}
    (ended : EndedAs current status) (apart : ¬ (AtWork current.nodes ∧ SomeFailed current.nodes)) :
    ¬ AtWork current.nodes := by
  cases status with
  | running => exact ended.elim
  | waitingHuman => exact ended.elim
  | completed =>
    refine not_atWork fun node member => ?_
    simp [ended.2 node member, isTerminalNode]
  | failed => exact fun working => apart ⟨working, ended.2⟩
  | canceled => exact not_atWork ended.2

/-- A settlement leaves a workflow ended in the way it was. -/
theorem EndedAs.settle {run : WorkflowRun} {environment : CallEnvironment} {call : WorkflowCall}
    {current next : WorkflowExecutionState} {status : WorkflowStatus}
    {target : WorkflowExecutionNodeState} (ended : EndedAs current status)
    (other : call.operation ≠ .requestCancel) (proposes : Proposes run environment call current next)
    (member : target ∈ current.nodes) (active : target.isActive = true) : EndedAs next status := by
  have going : isTerminalNode target.status = false := by
    rw [Bool.eq_false_iff]
    intro terminal
    exact absurd (active.symm.trans (isTerminalNode_iff.mp terminal).2) (by decide)
  cases status with
  | running => exact ended.elim
  | waitingHuman => exact ended.elim
  | completed => simp [ended.2 target member, isTerminalNode] at going
  | canceled => exact absurd ((ended.2 target member).symm.trans going) (by decide)
  | failed =>
    refine ⟨?_, ?_⟩
    · rw [proposes.cancelRequested, ended.1]
      simp [other]
    · obtain ⟨node, listed, failed⟩ := ended.2
      obtain ⟨after, kept, change⟩ := exists_after proposes.changes listed
      have same := change.terminal (by simp [failed, isTerminalNode])
      exact ⟨after, kept, same ▸ failed⟩

/-- A workflow that ended has ended after every accepted call, in the same status unless the call is
a cancellation. -/
theorem EndedAs.step {run : WorkflowRun} {current next : WorkflowExecutionState}
    {call : WorkflowCall} {status : WorkflowStatus} (valid : Valid run current)
    (ended : EndedAs current status) (step : Step run current call next) :
    EndedAs next (statusAfter call status) := by
  have after := valid_step valid step
  have shown := ended.status valid
  unfold statusAfter
  cases step with
  | returned environment outcome planned =>
    split
    case isFalse => exact ended
    case isTrue cancels =>
      -- a cancellation returns at once only when the workflow is canceled
      simp only [planCall, cancels, planRequestCancel, Except.ok.injEq] at planned
      split at planned
      case isFalse => simp at planned
      case isTrue canceled =>
        obtain rfl := shown.symm.trans canceled.2
        exact ended
  | swapped environment _ claims planned accepted =>
    have proposes := planCall_proposes valid.held.distinct planned
    cases asked : call.operation with
    | claimReady duration =>
      simp only [planCall, asked] at planned
      have running := (planClaimReady_eq_swap planned).2.1
      obtain rfl := shown.symm.trans running
      exact ended.elim
    | settleNode nodeId claimId outcome =>
      simp only [planCall, asked] at planned
      obtain ⟨target, member, _, _, active, _⟩ := planSettleNode_eq_swap planned
      rw [if_neg (by simp)]
      exact ended.settle (by simp [asked]) proposes member active
    | requestCancel =>
      have requested : next.cancelRequested = true := by
        rw [proposes.cancelRequested]
        simp [asked]
      have apart := (proposal_status_iff valid.held.distinct planned).mp after.held.status
      have idle := ended.idle fun both => apart ⟨asked, both⟩
      simp only [planCall, asked, Except.ok.injEq] at planned
      have nodes := (planRequestCancel_eq_swap planned).2
      rw [if_pos rfl]
      refine ⟨requested, closed_terminal after.closed requested ?_⟩
      rwa [nodes, atWork_canceled]

/-- A workflow that ended stays ended in every run of accepted calls, in the same status until a
cancellation. -/
theorem EndedAs.steps {run : WorkflowRun} {current later : WorkflowExecutionState}
    {status : WorkflowStatus} {calls : List (WorkflowExecutionState × WorkflowCall)}
    (valid : Valid run current) (ended : EndedAs current status)
    (steps : Steps run current calls later) :
    Valid run later ∧
      EndedAs later (if ∃ entry ∈ calls, entry.2.operation = .requestCancel then .canceled
        else status) := by
  induction steps with
  | start => exact ⟨valid, by simpa using ended⟩
  | step trace middle next call _ step hypothesis =>
    obtain ⟨before, reached⟩ := hypothesis
    refine ⟨valid_step before step, ?_⟩
    have after := reached.step before step
    unfold statusAfter at after
    by_cases cancels : call.operation = .requestCancel
    · rw [if_pos cancels] at after
      rw [if_pos ⟨(middle, call), by simp, cancels⟩]
      exact after
    · have same : (∃ entry ∈ trace ++ [(middle, call)], entry.2.operation = .requestCancel) ↔
          ∃ entry ∈ trace, entry.2.operation = .requestCancel := by
        simp [or_and_right, exists_or, cancels]
      rw [if_neg cancels] at after
      simp only [same]
      exact after

/-- Once a workflow is completed, failed or canceled with no node at work, every further run of
accepted calls leaves the status alone until it is cancelled, and canceled from then on. -/
theorem terminal_status_kept {run : WorkflowRun} {start current later : WorkflowExecutionState}
    {trace calls : List (WorkflowExecutionState × WorkflowCall)} (created : Created run start)
    (reached : Steps run start trace current)
    (ended : current.status = .completed ∨ current.status = .failed ∨ current.status = .canceled)
    (idle : ¬ AtWork current.nodes) (steps : Steps run current calls later) :
    later.status =
      if ∃ entry ∈ calls, entry.2.operation = .requestCancel then .canceled else current.status := by
  have valid := reached.valid created
  obtain ⟨after, kept⟩ := (endedAs_of_status valid ended idle).steps valid steps
  exact kept.status after

/-- The work of the second agent is settled. -/
def settleSurvey (outcome : WorkflowNodeOutcome) : WorkflowCall :=
  sampleCall "settle-survey" (.settleNode (js "survey") (js "claim-2") outcome)

/-- Both agents ended. -/
def sampleEnded (first second : WorkflowNodeOutcome) : WorkflowExecutionState :=
  (proposalOf (sampleSettled first)
    (planCall sampleRun sampleEnvironment (settleSurvey second) (sampleSettled first))).1

/-- The second agent completes its work. -/
def surveyed : WorkflowNodeOutcome := .completed (uniformDigest 'e')

/-- The calls that led there. -/
def sampleTrace (first : WorkflowNodeOutcome) : List (WorkflowExecutionState × WorkflowCall) :=
  [(sampleCreated, claimAgents), (sampleClaimed.1, settleDraft first),
    (sampleSettled first, settleSurvey surveyed)]

/-- The failed workflow after a cancellation. -/
def sampleOverridden : WorkflowExecutionState :=
  (proposalOf (sampleEnded (.failed (js "tool_error")) surveyed) (planCall sampleRun
    sampleEnvironment cancelRun (sampleEnded (.failed (js "tool_error")) surveyed))).1

/-- What the samples of ended workflows rest on: the first agent is settled as canceled or fails, the
second one completes, and a cancellation is accepted after the failure. -/
theorem sampleEnded_evaluated :
    SampleSwap sampleClaimed.1 (settleDraft .canceled) (sampleSettled .canceled) [] ∧
      SampleSwap (sampleSettled .canceled) (settleSurvey surveyed)
        (sampleEnded .canceled surveyed) [] ∧
      SampleSwap (sampleSettled (.failed (js "tool_error"))) (settleSurvey surveyed)
        (sampleEnded (.failed (js "tool_error")) surveyed) [] ∧
      SampleSwap (sampleEnded (.failed (js "tool_error")) surveyed) cancelRun sampleOverridden [] := by
  decide +kernel

/-- Both agents end, the first of them without a result. -/
theorem sampleEnded_steps {first : WorkflowNodeOutcome}
    (unfinished : first = .canceled ∨ first = .failed (js "tool_error")) :
    Steps sampleRun sampleCreated (sampleTrace first) (sampleEnded first surveyed) := by
  have claimed := sampleRun_evaluated.2.1.step
  rcases unfinished with rfl | rfl
  · have settled := sampleEnded_evaluated.1.step
    have ended := sampleEnded_evaluated.2.1.step
    exact .step _ _ _ _ (.step _ _ _ _ (.step _ _ _ _ .start claimed) settled) ended
  · have ended := sampleEnded_evaluated.2.2.1.step
    exact .step _ _ _ _ sampleFailed_steps ended

/-- A cancellation of the failed workflow is accepted. -/
theorem sampleOverridden_steps :
    Steps sampleRun (sampleEnded (.failed (js "tool_error")) surveyed)
      [(sampleEnded (.failed (js "tool_error")) surveyed, cancelRun)] sampleOverridden := by
  have canceled := sampleEnded_evaluated.2.2.2.step
  exact .step _ _ _ _ .start canceled

/-- The workflow failed with no node at work, and the cancellation turns it into a canceled one. -/
theorem sampleOverridden_evaluated :
    (sampleEnded (.failed (js "tool_error")) surveyed).status = .failed ∧
      (∀ node ∈ (sampleEnded (.failed (js "tool_error")) surveyed).nodes, node.isActive = false) ∧
      ¬ AtWork (sampleEnded (.failed (js "tool_error")) surveyed).nodes ∧
      sampleOverridden.status = .canceled := by
  decide +kernel

/-- The status of the failed workflow after the cancellation is as the rule says. -/
theorem terminal_status_sample :
    sampleOverridden.status =
      if ∃ entry ∈ [(sampleEnded (.failed (js "tool_error")) surveyed, cancelRun)],
          entry.2.operation = .requestCancel then .canceled
      else (sampleEnded (.failed (js "tool_error")) surveyed).status :=
  terminal_status_kept sampleCreated_created (sampleEnded_steps (.inr rfl))
    (.inr (.inl sampleOverridden_evaluated.1)) sampleOverridden_evaluated.2.2.1
    sampleOverridden_steps

/-- A failed workflow with no node at work turns into a canceled one. -/
theorem failed_workflow_canceled :
    Created sampleRun sampleCreated ∧
      Steps sampleRun sampleCreated (sampleTrace (.failed (js "tool_error")))
        (sampleEnded (.failed (js "tool_error")) surveyed) ∧
      (sampleEnded (.failed (js "tool_error")) surveyed).status = .failed ∧
      (∀ node ∈ (sampleEnded (.failed (js "tool_error")) surveyed).nodes, node.isActive = false) ∧
      Step sampleRun (sampleEnded (.failed (js "tool_error")) surveyed) cancelRun
        sampleOverridden ∧
      sampleOverridden.status = .canceled :=
  ⟨sampleCreated_created, sampleEnded_steps (.inr rfl), sampleOverridden_evaluated.1,
    sampleOverridden_evaluated.2.1, sampleEnded_evaluated.2.2.2.step,
    sampleOverridden_evaluated.2.2.2⟩

/-- A node that nobody asked to cancel is settled as canceled. -/
def UnrequestedCancellation (state : WorkflowExecutionState) (call : WorkflowCall) : Prop :=
  state.cancelRequested = false ∧ ∃ nodeId claimId, call.operation = .settleNode nodeId claimId .canceled

/-- No node is canceled that nobody asked to cancel. -/
def Unforced (state : WorkflowExecutionState) : Prop :=
  state.cancelRequested = false → ∀ node ∈ state.nodes, node.status ≠ .canceled

/-- A call that settles no node as canceled on its own keeps this. -/
theorem unforced_step {run : WorkflowRun} {current next : WorkflowExecutionState}
    {call : WorkflowCall} (valid : Valid run current) (unforced : Unforced current)
    (step : Step run current call next) (allowed : ¬ UnrequestedCancellation current call) :
    Unforced next := by
  cases step with
  | returned => exact unforced
  | swapped environment _ claims planned accepted =>
    have proposes := planCall_proposes valid.held.distinct planned
    intro unrequested after member
    have requested := proposes.cancelRequested
    simp only [unrequested, Bool.false_eq, Bool.or_eq_false_iff, decide_eq_false_iff_not]
      at requested
    obtain ⟨before, listed, change⟩ := exists_before proposes.changes member
    have kept := unforced requested.1 before listed
    cases change with
    | kept => exact kept
    | lost => simp
    | claimed =>
      simp only [claimedNode]
      split <;> simp
    | settled claimId outcome settles =>
      cases outcome with
      | canceled => exact absurd ⟨requested.1, _, _, settles⟩ allowed
      | completed => simp [settledNode, WorkflowNodeOutcome.status]
      | failed => simp [settledNode, WorkflowNodeOutcome.status]
      | unknown => simp [settledNode, WorkflowNodeOutcome.status]
    | canceled cancels => exact absurd cancels requested.2

/-- No state of a run has a canceled node that nobody asked to cancel, unless one was settled so. -/
theorem unforced_of_steps {run : WorkflowRun} {start state : WorkflowExecutionState}
    {trace : List (WorkflowExecutionState × WorkflowCall)} (created : Created run start)
    (steps : Steps run start trace state)
    (allowed : ∀ entry ∈ trace, ¬ UnrequestedCancellation entry.1 entry.2) : Unforced state := by
  induction steps with
  | start =>
    obtain ⟨now, rfl, _⟩ := created
    intro _ node member
    obtain ⟨definition, _, rfl⟩ := List.mem_map.mp member
    simp [initialNode]
  | step trace current next call earlier step hypothesis =>
    have unforced := hypothesis fun entry member =>
      allowed entry (List.mem_append_left _ member)
    have last := allowed (current, call) (List.mem_append_right _ List.mem_cons_self)
    exact unforced_step (earlier.valid created) unforced step last

/-- The first pending node in the order of execution is claimable when every node before it is
completed. -/
theorem exists_claimable {workflow : CompiledWorkflowVersion} {state : WorkflowExecutionState}
    (fits : Fits workflow state) (compiled : Compiled workflow)
    (settled : ∀ node ∈ state.nodes, node.status = .pending ∨ node.status = .completed)
    (unfinished : ¬ ∀ node ∈ state.nodes, node.status = .completed) :
    ∃ node definition, Claimable workflow state.nodes node definition := by
  obtain ⟨first, found⟩ : ∃ first, state.nodes.find? (fun node => node.status = .pending) =
      some first := by
    rw [← Option.isSome_iff_exists, List.find?_isSome]
    by_contra none
    refine unfinished fun node member => (settled node member).resolve_left fun pending => ?_
    exact none ⟨node, member, by simpa using pending⟩
  obtain ⟨pending, earlier, later, split, completed⟩ := List.find?_eq_some_iff_append.mp found
  have member : first ∈ state.nodes := by
    rw [split]
    exact List.mem_append_right _ List.mem_cons_self
  obtain ⟨definition, defined⟩ := fits.definition compiled member
  obtain ⟨known, named⟩ := findNode_eq_some defined
  refine ⟨first, definition, member, defined, by simpa using pending, ?_⟩
  intro dependency needed
  have order : workflow.executionOrder =
      earlier.map (·.nodeId) ++ first.nodeId :: later.map (·.nodeId) := by
    rw [← fits.order compiled, split, List.map_append, List.map_cons]
  have needs : dependency ∈ dependenciesOf workflow.nodes first.nodeId := by
    rw [← named, dependenciesOf_of_mem compiled.distinct known]
    exact needed
  obtain ⟨done, before, rfl⟩ := List.mem_map.mp (compiled.ordered _ _ _ order dependency needs)
  have listed : done ∈ state.nodes := by
    rw [split]
    exact List.mem_append_left _ before
  have closed := completed done before
  refine ⟨done, listed, rfl, (settled done listed).resolve_left ?_⟩
  simpa using closed

/-- In every run that settles no node as canceled before a cancellation was requested, a workflow
that runs has a node that runs, may run or waits for a human, or a node that can be claimed. -/
theorem running_workflow_progresses {digest : WorkflowVersionSource → JsString}
    {source : WorkflowVersionSource} {expectedDigest : Option JsString} {run : WorkflowRun}
    (compiled : compileWorkflowVersion digest source expectedDigest = .ok run.workflow)
    {start state : WorkflowExecutionState} {trace : List (WorkflowExecutionState × WorkflowCall)}
    (created : Created run start) (steps : Steps run start trace state)
    (allowed : ∀ entry ∈ trace, ¬ UnrequestedCancellation entry.1 entry.2)
    (running : state.status = .running) (going : state.cancelRequested = false) :
    (∃ node ∈ state.nodes,
        node.status = .running ∨ node.status = .unknown ∨ node.status = .waitingHuman) ∨
      ∃ node definition, Claimable run.workflow state.nodes node definition := by
  have graph := compileWorkflowVersion_compiled compiled
  have unforced := unforced_of_steps created steps allowed
  have valid := steps.valid created
  by_cases active : ∃ node ∈ state.nodes,
      node.status = .running ∨ node.status = .unknown ∨ node.status = .waitingHuman
  · exact .inl active
  · right
    have shown := valid.held.status
    rw [running, going, projectedStatus_eq] at shown
    simp only [Bool.false_eq_true, false_and, if_false] at shown
    split at shown
    case isTrue => simp at shown
    case isFalse unfailed =>
      split at shown
      case isTrue => simp at shown
      case isFalse unfinished =>
        refine exists_claimable valid.fits graph (fun node member => ?_) unfinished
        cases status : node.status with
        | pending => exact .inl rfl
        | completed => exact .inr rfl
        | running => exact absurd ⟨node, member, .inl status⟩ active
        | unknown => exact absurd ⟨node, member, .inr (.inl status)⟩ active
        | waitingHuman => exact absurd ⟨node, member, .inr (.inr status)⟩ active
        | failed => exact absurd ⟨node, member, status⟩ unfailed
        | canceled => exact absurd status (unforced going node member)

/-- The workflow runs while both agents do. It still runs once the first one is settled as canceled
and the second one completed, with no node that is active or ready. -/
theorem sampleBlocked_evaluated :
    (sampleClaimed.1.status = .running ∧ sampleClaimed.1.cancelRequested = false) ∧
      (sampleEnded .canceled surveyed).status = .running ∧
      (sampleEnded .canceled surveyed).cancelRequested = false ∧
      ((sampleEnded .canceled surveyed).nodes.map (·.nodeId)).Nodup ∧
      ∀ node ∈ (sampleEnded .canceled surveyed).nodes,
        ¬ (node.status = .running ∨ node.status = .unknown ∨ node.status = .waitingHuman) ∧
          isReady sampleRun.workflow (sampleEnded .canceled surveyed).nodes node.nodeId = false := by
  decide +kernel

/-- Both agents run, and the first one is still there to be settled. -/
theorem progress_sample :
    (∃ node ∈ sampleClaimed.1.nodes,
        node.status = .running ∨ node.status = .unknown ∨ node.status = .waitingHuman) ∨
      ∃ node definition, Claimable sampleRun.workflow sampleClaimed.1.nodes node definition := by
  have claimed := sampleRun_evaluated.2.1.step
  refine running_workflow_progresses sampleWorkflow_compiled sampleCreated_created
    (.step _ _ _ _ .start claimed) ?_ sampleBlocked_evaluated.1.1 sampleBlocked_evaluated.1.2
  rintro entry member ⟨_, nodeId, claimId, settles⟩
  obtain rfl := List.mem_singleton.mp member
  simp [claimAgents, sampleCall] at settles

/-- The first agent is settled as canceled and the second one completes: the verification waits for
ever in a workflow that runs. -/
theorem canceled_agent_blocks :
    Created sampleRun sampleCreated ∧
      Steps sampleRun sampleCreated (sampleTrace .canceled) (sampleEnded .canceled surveyed) ∧
      (sampleEnded .canceled surveyed).status = .running ∧
      (sampleEnded .canceled surveyed).cancelRequested = false ∧
      ¬ ((∃ node ∈ (sampleEnded .canceled surveyed).nodes,
          node.status = .running ∨ node.status = .unknown ∨ node.status = .waitingHuman) ∨
        ∃ node definition,
          Claimable sampleRun.workflow (sampleEnded .canceled surveyed).nodes node definition) := by
  obtain ⟨_, running, going, distinct, idle⟩ := sampleBlocked_evaluated
  refine ⟨sampleCreated_created, sampleEnded_steps (.inl rfl), running, going, ?_⟩
  rintro (⟨node, member, active⟩ | ⟨node, definition, claimable⟩)
  · exact (idle node member).1 active
  · have waits := (idle node claimable.member).2
    rw [claimable.isReady distinct] at waits
    exact absurd waits (by decide)

end Crewon.Verif.WorkflowProgress
