import Crewon.Verif.WorkflowExecution
import Mathlib

/-!
# The store accepts what the service proposes

In every run of accepted calls the store accepts the next proposal, unless the revisions are used
up, the clock went back, a settlement carries a malformed result, or a cancellation is requested
while a node is at work and another one has failed.
-/

namespace Crewon.Verif.WorkflowAcceptance

open Crewon.Js Crewon.Checked Crewon.Domain Crewon.Store Crewon.Application
open Crewon.Verif.WorkflowGraph Crewon.Verif.WorkflowExecution

/-- Every change of a node is a transition that the store allows. -/
theorem nodeChange_validNodeTransition {run : WorkflowRun} {environment : CallEnvironment}
    {call : WorkflowCall} {current : WorkflowExecutionState}
    {before after : WorkflowExecutionNodeState}
    (change : NodeChange run environment call current before after) :
    validNodeTransition before after = true := by
  unfold Store.validNodeTransition
  split
  case isTrue => rfl
  case isFalse different =>
    cases change with
    | kept => exact absurd rfl different
    | lost _ _ _ running => simp [running]
    | claimed _ _ _ _ definition _ _ _ claimable =>
      simp only [claimable.pending, claimedNode]
      split <;> simp
    | settled _ outcome _ _ active =>
      simp only [WorkflowExecutionNodeState.isActive, Bool.or_eq_true, decide_eq_true_eq] at active
      rcases active with (active | active) | active <;> cases outcome <;>
        simp [active, settledNode, WorkflowNodeOutcome.status]
    | canceled _ idle => rcases idle with idle | idle <;> simp [idle]

/-- The outcome of a settlement is accepted. -/
def OperationAccepted (operation : WorkflowOperation) : Prop :=
  ∀ nodeId claimId outcome, operation = .settleNode nodeId claimId outcome → OutcomeAccepted outcome

/-- The expiry of a lease is in the format of the host. -/
theorem leaseExpiryText_canonical {now expiresAt : JsString} {duration : Int}
    (expires : leaseExpiryText now duration = .ok expiresAt) : canonicalUtc expiresAt = true := by
  unfold leaseExpiryText at expires
  split at expires
  case h_2 => simp at expires
  case h_1 instant written =>
    obtain rfl := Except.ok.inj expires
    obtain ⟨start, _, formatted⟩ := Option.bind_eq_some_iff.mp written
    exact canonicalUtc_toIsoString formatted

/-- Every change of a held node leads to a held one, if the outcome is accepted. -/
theorem nodeChange_held {run : WorkflowRun} {environment : CallEnvironment}
    {call : WorkflowCall} {current : WorkflowExecutionState}
    {before after : WorkflowExecutionNodeState} (compiled : Compiled run.workflow)
    (fits : Fits run.workflow current) (keeps : DependenciesKeep run environment)
    (bounded : boundedId call.operationId = true) (accepted : OperationAccepted call.operation)
    (held : NodeHeld before) (change : NodeChange run environment call current before after) :
    NodeHeld after := by
  cases change with
  | kept => exact held
  | lost _ _ _ running => exact held.recovered running
  | claimed duration expiresAt recovered drawn definition _ _ expires claimable =>
    have input : InputKeeps (claimInput run environment call.operationId expiresAt) := {
      expiresAt := leaseExpiryText_canonical expires
      operationId := bounded
      nextId := keeps.nextId
      inputDigest := fun _ _ => keeps.sha256 _ }
    exact held.claimedNode input claimable.pending
      (fits.kind compiled claimable.member claimable.defined)
  | settled claimId outcome settles _ active =>
    exact (held.settledNode active).mpr (accepted _ _ _ settles)
  | canceled cancels idle =>
    have canceled := held.canceledNode
    rwa [canceledNode, if_pos idle] at canceled

/-- The nodes of a proposal are held exactly when the outcome of a settlement is accepted. -/
theorem proposal_nodes_held_iff {run : WorkflowRun} {environment : CallEnvironment}
    {call : WorkflowCall} {current next : WorkflowExecutionState} {claims : List WorkflowNodeClaim}
    (compiled : Compiled run.workflow) (fits : Fits run.workflow current) (held : StateHeld current)
    (keeps : DependenciesKeep run environment) (bounded : boundedId call.operationId = true)
    (planned : planCall run environment call current = .ok (.swap next claims)) :
    (∀ node ∈ next.nodes, NodeHeld node) ↔ OperationAccepted call.operation := by
  constructor
  · intro nodes nodeId claimId outcome settles
    simp only [planCall, settles] at planned
    obtain ⟨target, listed, named, _, active, rfl⟩ := planSettleNode_eq_swap planned
    refine ((held.nodes target listed).settledNode active).mp (nodes _ ?_)
    exact List.mem_map.mpr ⟨target, listed, by rw [if_pos named]⟩
  · intro accepted after member
    obtain ⟨before, listed, change⟩ :=
      exists_before (planCall_proposes held.distinct planned).changes member
    exact nodeChange_held compiled fits keeps bounded accepted (held.nodes before listed) change

/-- A cancellation leaves alone the nodes that are at work, and those that failed. -/
theorem canceledNode_status_iff {status : WorkflowNodeStatus} (pending : status ≠ .pending)
    (waiting : status ≠ .waitingHuman) (canceled : status ≠ .canceled)
    (node : WorkflowExecutionNodeState) : (canceledNode node).status = status ↔ node.status = status := by
  unfold canceledNode
  split
  case isFalse => exact Iff.rfl
  case isTrue idle =>
    constructor
    · intro became
      exact absurd became.symm canceled
    · intro was
      rcases idle with idle | idle
      · exact absurd (was.symm.trans idle) pending
      · exact absurd (was.symm.trans idle) waiting

/-- Some node is at work, or may be. -/
def AtWork (nodes : List WorkflowExecutionNodeState) : Prop :=
  ∃ node ∈ nodes, node.status = .running ∨ node.status = .unknown

/-- Some node failed. -/
def SomeFailed (nodes : List WorkflowExecutionNodeState) : Prop :=
  ∃ node ∈ nodes, node.status = .failed

instance (nodes : List WorkflowExecutionNodeState) : Decidable (AtWork nodes) := by
  unfold AtWork
  infer_instance

instance (nodes : List WorkflowExecutionNodeState) : Decidable (SomeFailed nodes) := by
  unfold SomeFailed
  infer_instance

/-- The status that nodes stand for, in terms of what holds of them. -/
theorem projectedStatus_eq (cancelRequested : Bool) (nodes : List WorkflowExecutionNodeState) :
    projectedStatus cancelRequested nodes =
      if cancelRequested = true ∧ ¬ AtWork nodes then .canceled
      else if SomeFailed nodes then .failed
      else if ∀ node ∈ nodes, node.status = .completed then .completed
      else if (∃ node ∈ nodes, node.status = .waitingHuman) ∧ ¬ AtWork nodes then .waitingHuman
      else .running := by
  unfold projectedStatus AtWork SomeFailed
  simp only [Bool.and_eq_true, Bool.not_eq_true', List.any_eq_false, List.any_eq_true,
    List.all_eq_true, Bool.or_eq_true, decide_eq_true_eq, not_exists, not_and]

/-- The status that a cancellation writes is the one that its nodes stand for, unless a node is at
work while another one failed. -/
theorem cancellation_status_iff (nodes : List WorkflowExecutionNodeState) :
    (if nodes.any fun node => node.status = .running || node.status = .unknown then
      WorkflowStatus.running else .canceled) = projectedStatus true nodes ↔
      ¬ (AtWork nodes ∧ SomeFailed nodes) := by
  have any : (nodes.any fun node => node.status = .running || node.status = .unknown) = true ↔
      AtWork nodes := by
    simp [AtWork]
  rw [projectedStatus_eq]
  simp only [any]
  by_cases working : AtWork nodes
  · have unfinished : ¬ ∀ node ∈ nodes, node.status = .completed := by
      obtain ⟨node, member, busy⟩ := working
      intro all
      rcases busy with busy | busy <;> simp [all node member] at busy
    by_cases failed : SomeFailed nodes <;> simp [working, failed, unfinished]
  · simp [working]

/-- A node that a cancellation leaves behind is at work exactly when it was. -/
theorem atWork_canceled (nodes : List WorkflowExecutionNodeState) :
    AtWork (nodes.map canceledNode) ↔ AtWork nodes := by
  have running (node : WorkflowExecutionNodeState) :
      (canceledNode node).status = .running ↔ node.status = .running :=
    canceledNode_status_iff (by decide) (by decide) (by decide) node
  have unknown (node : WorkflowExecutionNodeState) :
      (canceledNode node).status = .unknown ↔ node.status = .unknown :=
    canceledNode_status_iff (by decide) (by decide) (by decide) node
  simp only [AtWork, List.mem_map, exists_exists_and_eq_and, running, unknown]

/-- A node that a cancellation leaves behind failed exactly when it had. -/
theorem someFailed_canceled (nodes : List WorkflowExecutionNodeState) :
    SomeFailed (nodes.map canceledNode) ↔ SomeFailed nodes := by
  have failed (node : WorkflowExecutionNodeState) :
      (canceledNode node).status = .failed ↔ node.status = .failed :=
    canceledNode_status_iff (by decide) (by decide) (by decide) node
  simp only [SomeFailed, List.mem_map, exists_exists_and_eq_and, failed]

/-- What a cancellation with a next state says. -/
theorem planRequestCancel_eq_swap {environment : CallEnvironment}
    {current next : WorkflowExecutionState} {claims : List WorkflowNodeClaim}
    (planned : planRequestCancel environment current = .swap next claims) :
    ¬ (current.cancelRequested = true ∧ current.status = .canceled) ∧
      next.nodes = current.nodes.map canceledNode := by
  unfold planRequestCancel at planned
  split at planned
  case isTrue => simp at planned
  case isFalse going =>
    obtain ⟨rfl, _⟩ := WorkflowPlan.swap.inj planned
    exact ⟨going, rfl⟩

/-- The status of a proposal is the one that the store projects, unless a cancellation meets a node
at work and a failed one. -/
theorem proposal_status_iff {run : WorkflowRun} {environment : CallEnvironment}
    {call : WorkflowCall} {current next : WorkflowExecutionState} {claims : List WorkflowNodeClaim}
    (distinct : (current.nodes.map (·.nodeId)).Nodup)
    (planned : planCall run environment call current = .ok (.swap next claims)) :
    next.status = projectedStatus next.cancelRequested next.nodes ↔
      ¬ (call.operation = .requestCancel ∧ AtWork current.nodes ∧ SomeFailed current.nodes) := by
  have proposes := planCall_proposes distinct planned
  rw [proposes.status]
  by_cases cancels : call.operation = .requestCancel
  · have requested : next.cancelRequested = true := by
      rw [proposes.cancelRequested]
      simp [cancels]
    have planned : planRequestCancel environment current = .swap next claims := by
      simpa [planCall, cancels] using planned
    have nodes := (planRequestCancel_eq_swap planned).2
    rw [if_pos cancels, requested, cancellation_status_iff, nodes, atWork_canceled,
      someFailed_canceled]
    simp [cancels]
  · rw [if_neg cancels]
    simp [cancels]

/-- The store accepts a next state. -/
def Accepted (current next : WorkflowExecutionState) : Prop :=
  validateState next = .ok () ∧ assertTransition current next = .ok ()

instance (current next : WorkflowExecutionState) : Decidable (Accepted current next) := by
  unfold Accepted
  infer_instance

/-- The first state of the run. -/
def Created (run : WorkflowRun) (state : WorkflowExecutionState) : Prop :=
  ∃ now, state = initialWorkflowExecution run.tenantId run.runId run.workflow now ∧
    validateState state = .ok ()

/-- An accepted call. It returns at once, or the store accepts what it proposes. -/
inductive Step (run : WorkflowRun) (current : WorkflowExecutionState) (call : WorkflowCall) :
    WorkflowExecutionState → Prop where
  | returned (environment : CallEnvironment) (outcome : WorkflowOutcome)
      (planned : planCall run environment call current = .ok (.done outcome)) :
      Step run current call current
  | swapped (environment : CallEnvironment) (next : WorkflowExecutionState)
      (claims : List WorkflowNodeClaim)
      (planned : planCall run environment call current = .ok (.swap next claims))
      (accepted : Accepted current next) : Step run current call next

/-- Accepted calls one after the other, each with the state it met. -/
inductive Steps (run : WorkflowRun) (start : WorkflowExecutionState) :
    List (WorkflowExecutionState × WorkflowCall) → WorkflowExecutionState → Prop where
  | start : Steps run start [] start
  | step (trace : List (WorkflowExecutionState × WorkflowCall))
      (current next : WorkflowExecutionState) (call : WorkflowCall)
      (earlier : Steps run start trace current) (step : Step run current call next) :
      Steps run start (trace ++ [(current, call)]) next

/-- What every accepted call keeps holds of every state of a run. -/
theorem Steps.invariant {run : WorkflowRun} {property : WorkflowExecutionState → Prop}
    (kept : ∀ current next call, property current → Step run current call next → property next)
    {start state : WorkflowExecutionState} {trace : List (WorkflowExecutionState × WorkflowCall)}
    (steps : Steps run start trace state) (first : property start) : property state := by
  induction steps with
  | start => exact first
  | step trace current next call earlier step hypothesis => exact kept current next call hypothesis step

/-- Nodes that no cancellation leaves behind. -/
def Closed (state : WorkflowExecutionState) : Prop :=
  state.cancelRequested = true →
    ∀ node ∈ state.nodes, node.status ≠ .pending ∧ node.status ≠ .waitingHuman

/-- What holds of every state of a run. -/
structure Valid (run : WorkflowRun) (state : WorkflowExecutionState) : Prop where
  held : StateHeld state
  fits : Fits run.workflow state
  closed : Closed state

/-- The first state of a run is valid. -/
theorem Created.valid {run : WorkflowRun} {state : WorkflowExecutionState}
    (created : Created run state) : Valid run state := by
  obtain ⟨now, rfl, validated⟩ := created
  refine ⟨validateState_eq_ok.mp validated, rfl, ?_⟩
  intro requested
  exact absurd (show false = true from requested) (by decide)

/-- A node that was neither pending nor waiting is neither after a change, and a cancellation leaves
none behind that is. -/
theorem nodeChange_closed {run : WorkflowRun} {environment : CallEnvironment}
    {call : WorkflowCall} {current : WorkflowExecutionState}
    {before after : WorkflowExecutionNodeState}
    (change : NodeChange run environment call current before after)
    (requested : current.cancelRequested = true)
    (idle : before.status ≠ .pending ∧ before.status ≠ .waitingHuman) :
    after.status ≠ .pending ∧ after.status ≠ .waitingHuman := by
  cases change with
  | kept => exact idle
  | lost => simp
  | claimed _ _ _ _ _ _ going => exact absurd (requested.symm.trans going) (by decide)
  | settled _ outcome => cases outcome <;> simp [settledNode, WorkflowNodeOutcome.status]
  | canceled => simp

/-- What a call proposes in a valid state is valid once the store accepts it. -/
theorem valid_step {run : WorkflowRun} {current next : WorkflowExecutionState} {call : WorkflowCall}
    (valid : Valid run current) (step : Step run current call next) : Valid run next := by
  cases step with
  | returned => exact valid
  | swapped environment _ claims planned accepted =>
    have proposes := planCall_proposes valid.held.distinct planned
    refine ⟨validateState_eq_ok.mp accepted.1, proposes.succeeds.nodes.symm.trans valid.fits, ?_⟩
    intro requested node member
    rw [proposes.cancelRequested] at requested
    cases before : current.cancelRequested with
    | true =>
      obtain ⟨origin, listed, change⟩ := exists_before proposes.changes member
      exact nodeChange_closed change before (valid.closed before origin listed)
    | false =>
      have cancels : call.operation = .requestCancel := by simpa [before] using requested
      have planned : planRequestCancel environment current = .swap next claims := by
        simpa [planCall, cancels] using planned
      rw [(planRequestCancel_eq_swap planned).2] at member
      obtain ⟨origin, _, rfl⟩ := List.mem_map.mp member
      unfold canceledNode
      split
      case isTrue => simp
      case isFalse other => exact not_or.mp other

/-- Every state of a run is valid. -/
theorem Steps.valid {run : WorkflowRun} {start state : WorkflowExecutionState}
    {trace : List (WorkflowExecutionState × WorkflowCall)} (steps : Steps run start trace state)
    (created : Created run start) : Valid run state :=
  steps.invariant (fun _ _ _ => valid_step) created.valid

/-- In every state of a run, the store accepts the next state that a call computes exactly when a
revision is left, the clock did not go back, the outcome of a settlement is well formed, and no
cancellation meets a node at work and a failed one. -/
theorem proposals_accepted_iff {digest : WorkflowVersionSource → JsString}
    {source : WorkflowVersionSource} {expectedDigest : Option JsString} {run : WorkflowRun}
    (compiled : compileWorkflowVersion digest source expectedDigest = .ok run.workflow)
    {start current : WorkflowExecutionState}
    {trace : List (WorkflowExecutionState × WorkflowCall)} (created : Created run start)
    (steps : Steps run start trace current) {environment : CallEnvironment} {call : WorkflowCall}
    (keeps : DependenciesKeep run environment) (bounded : boundedId call.operationId = true)
    {next : WorkflowExecutionState} {claims : List WorkflowNodeClaim}
    (planned : planCall run environment call current = .ok (.swap next claims)) :
    (validateState next = .ok () ∧ assertTransition current next = .ok ()) ↔
      current.revision < maxSafeInteger ∧
        parsesEarlier environment.now current.updatedAt = false ∧
        OperationAccepted call.operation ∧
        ¬ (call.operation = .requestCancel ∧ AtWork current.nodes ∧ SomeFailed current.nodes) := by
  have graph := compileWorkflowVersion_compiled compiled
  have valid := steps.valid created
  have proposes := planCall_proposes valid.held.distinct planned
  have transitions : ∀ pair ∈ current.nodes.zip next.nodes,
      validNodeTransition pair.1 pair.2 = true := fun pair member =>
    nodeChange_validNodeTransition (List.forall₂_zip proposes.changes member)
  rw [validateState_eq_ok, proposes.succeeds.stateHeld_iff valid.held keeps.now,
    proposes.succeeds.assertTransition_eq_ok, proposal_nodes_held_iff graph valid.fits valid.held
      keeps bounded planned, proposal_status_iff valid.held.distinct planned]
  constructor
  · rintro ⟨⟨room, accepted, apart⟩, clock, _⟩
    exact ⟨room, clock, accepted, apart⟩
  · rintro ⟨room, clock, accepted, apart⟩
    exact ⟨⟨room, accepted, apart⟩, clock, transitions⟩

/-- A workflow of two agents whose work is verified. -/
def sampleSource : WorkflowVersionSource where
  workflowId := js "workflow"
  workflowVersionId := js "version"
  entryNodeIds := [js "draft", js "survey"]
  outputNodeIds := [js "verify"]
  nodes := [
    ⟨js "verify", [js "draft", js "survey"], .verification (js "verifier")⟩,
    ⟨js "draft", [], .agent (js "writer")⟩,
    ⟨js "survey", [], .agent (js "reader")⟩]

/-- The workflow compiled. -/
def sampleWorkflow : CompiledWorkflowVersion where
  contentDigest := uniformDigest 'c'
  workflowId := js "workflow"
  workflowVersionId := js "version"
  entryNodeIds := [js "draft", js "survey"]
  outputNodeIds := [js "verify"]
  nodes := [
    ⟨js "draft", [], .agent (js "writer")⟩,
    ⟨js "survey", [], .agent (js "reader")⟩,
    ⟨js "verify", [js "draft", js "survey"], .verification (js "verifier")⟩]
  executionOrder := [js "draft", js "survey", js "verify"]

/-- The workflow compiles. -/
theorem sampleWorkflow_compiled :
    compileWorkflowVersion (fun _ => uniformDigest 'c') sampleSource none = .ok sampleWorkflow := by
  decide_cbv

/-- A run of the workflow. -/
def sampleRun : WorkflowRun where
  tenantId := js "tenant"
  runId := js "run"
  workflow := sampleWorkflow
  sha256 := fun _ => uniformDigest 'd'

/-- An instant of the run, with two ids to be drawn. -/
def sampleEnvironment : CallEnvironment where
  now := js "2026-07-01T00:00:00.000Z"
  nextId := fun drawn => if drawn = 0 then js "claim-1" else js "claim-2"

/-- A call of the service. -/
def sampleCall (operationId : String) (operation : WorkflowOperation) : WorkflowCall where
  binding := ⟨js "workflow", js "version", uniformDigest 'c'⟩
  operationId := js operationId
  operation := operation

/-- The state and the claims that a plan proposes. -/
def proposalOf (current : WorkflowExecutionState) :
    Checked WorkflowPlan → WorkflowExecutionState × List WorkflowNodeClaim
  | .ok (.swap next claims) => (next, claims)
  | _ => (current, [])

/-- The run is created. -/
def sampleCreated : WorkflowExecutionState :=
  initialWorkflowExecution sampleRun.tenantId sampleRun.runId sampleRun.workflow
    sampleEnvironment.now

/-- Both agents are claimed. -/
def claimAgents : WorkflowCall := sampleCall "claim" (.claimReady 60000)

/-- Both agents run. -/
def sampleClaimed : WorkflowExecutionState × List WorkflowNodeClaim :=
  proposalOf sampleCreated (planCall sampleRun sampleEnvironment claimAgents sampleCreated)

/-- The work of the first agent is settled. -/
def settleDraft (outcome : WorkflowNodeOutcome) : WorkflowCall :=
  sampleCall "settle" (.settleNode (js "draft") (js "claim-1") outcome)

/-- The first agent ended while the second one runs. -/
def sampleSettled (outcome : WorkflowNodeOutcome) : WorkflowExecutionState :=
  (proposalOf sampleClaimed.1
    (planCall sampleRun sampleEnvironment (settleDraft outcome) sampleClaimed.1)).1

/-- A cancellation of the run. -/
def cancelRun : WorkflowCall := sampleCall "cancel" .requestCancel

/-- The state that the cancellation computes once the first agent ended. -/
def sampleCanceled (outcome : WorkflowNodeOutcome) : WorkflowExecutionState :=
  (proposalOf (sampleSettled outcome)
    (planCall sampleRun sampleEnvironment cancelRun (sampleSettled outcome))).1

/-- A call that changes a state of the sample run. -/
abbrev SampleSwap (current : WorkflowExecutionState) (call : WorkflowCall)
    (next : WorkflowExecutionState) (claims : List WorkflowNodeClaim) : Prop :=
  planCall sampleRun sampleEnvironment call current = .ok (.swap next claims) ∧
    Accepted current next

/-- Such a call is a step. -/
theorem SampleSwap.step {current next : WorkflowExecutionState} {call : WorkflowCall}
    {claims : List WorkflowNodeClaim} (swap : SampleSwap current call next claims) :
    Step sampleRun current call next :=
  .swapped sampleEnvironment next claims swap.1 swap.2

/-- What the samples of the run rest on: it starts, both agents are claimed, the first one fails, and
the cancellation that is planned then is invalid. -/
theorem sampleRun_evaluated :
    (canonicalUtc sampleEnvironment.now = true ∧ validateState sampleCreated = .ok ()) ∧
      SampleSwap sampleCreated claimAgents sampleClaimed.1 sampleClaimed.2 ∧
      SampleSwap sampleClaimed.1 (settleDraft (.failed (js "tool_error")))
        (sampleSettled (.failed (js "tool_error"))) [] ∧
      planCall sampleRun sampleEnvironment cancelRun (sampleSettled (.failed (js "tool_error"))) =
        .ok (.swap (sampleCanceled (.failed (js "tool_error"))) []) ∧
      validateState (sampleCanceled (.failed (js "tool_error"))) = .error workflowStateInvalid := by
  decide_cbv

/-- The run starts. -/
theorem sampleCreated_created : Created sampleRun sampleCreated :=
  ⟨sampleEnvironment.now, rfl, sampleRun_evaluated.1.2⟩

/-- The first agent fails while the second one runs. -/
theorem sampleFailed_steps : Steps sampleRun sampleCreated
    [(sampleCreated, claimAgents), (sampleClaimed.1, settleDraft (.failed (js "tool_error")))]
    (sampleSettled (.failed (js "tool_error"))) := by
  have claimed := sampleRun_evaluated.2.1.step
  have settled := sampleRun_evaluated.2.2.1.step
  exact .step _ _ _ _ (.step _ _ _ _ .start claimed) settled

/-- The dependencies of the run keep their formats. -/
theorem sampleEnvironment_keeps : DependenciesKeep sampleRun sampleEnvironment where
  now := sampleRun_evaluated.1.1
  nextId := by
    intro drawn
    show boundedId (if drawn = 0 then js "claim-1" else js "claim-2") = true
    split <;> decide
  sha256 := by
    intro _
    show isDigest (uniformDigest 'd') = true
    decide

/-- The cancellation of a run with a failed agent and a running one is judged by the conditions. -/
theorem proposals_accepted_sample :
    (validateState (sampleCanceled (.failed (js "tool_error"))) = .ok () ∧
      assertTransition (sampleSettled (.failed (js "tool_error")))
        (sampleCanceled (.failed (js "tool_error"))) = .ok ()) ↔
      (sampleSettled (.failed (js "tool_error"))).revision < maxSafeInteger ∧
        parsesEarlier sampleEnvironment.now
          (sampleSettled (.failed (js "tool_error"))).updatedAt = false ∧
        OperationAccepted cancelRun.operation ∧
        ¬ (cancelRun.operation = .requestCancel ∧
          AtWork (sampleSettled (.failed (js "tool_error"))).nodes ∧
          SomeFailed (sampleSettled (.failed (js "tool_error"))).nodes) := by
  have planned := sampleRun_evaluated.2.2.2.1
  exact proposals_accepted_iff sampleWorkflow_compiled sampleCreated_created sampleFailed_steps
    sampleEnvironment_keeps (by decide) planned

/-- The service computes a state for this cancellation, and the store refuses it. -/
theorem cancellation_refused :
    Created sampleRun sampleCreated ∧
      Steps sampleRun sampleCreated
        [(sampleCreated, claimAgents), (sampleClaimed.1, settleDraft (.failed (js "tool_error")))]
        (sampleSettled (.failed (js "tool_error"))) ∧
      planCall sampleRun sampleEnvironment cancelRun (sampleSettled (.failed (js "tool_error"))) =
        .ok (.swap (sampleCanceled (.failed (js "tool_error"))) []) ∧
      validateState (sampleCanceled (.failed (js "tool_error"))) = .error workflowStateInvalid :=
  ⟨sampleCreated_created, sampleFailed_steps, sampleRun_evaluated.2.2.2⟩

end Crewon.Verif.WorkflowAcceptance
