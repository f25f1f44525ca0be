import Crewon.Application.WorkflowExecutionService
import Crewon.Verif.WorkflowGraph

/-!
# What the service proposes and what the store accepts

The service computes the next state of a workflow run node by node. Every node it changes passes the
checks of the store, and so does the status it projects, with one exception: a cancellation requested
while a node is active and another one has failed.
-/

namespace Crewon.Verif.WorkflowExecution

open Crewon.Js Crewon.Checked Crewon.Domain Crewon.Store Crewon.Application
open Crewon.Verif.WorkflowGraph

/-- A node that the store accepts. -/
structure NodeHeld (node : WorkflowExecutionNodeState) : Prop where
  nodeId : boundedId node.nodeId = true
  agentVersionId : ∀ id, node.agentVersionId = some id → boundedId id = true
  kind : node.kind = .humanGate ↔ node.agentVersionId = none
  claimEpoch : 0 ≤ node.claimEpoch ∧ node.claimEpoch ≤ maxSafeInteger
  claimId : ∀ id, node.claimId = some id → boundedId id = true
  claimOperationId : ∀ id, node.claimOperationId = some id → boundedId id = true
  gateRequestId : ∀ id, node.gateRequestId = some id → boundedId id = true
  inputDigest : ∀ digest, node.inputDigest = some digest → isDigest digest = true
  leaseExpiresAt : ∀ expiry, node.leaseExpiresAt = some expiry → canonicalUtc expiry = true
  resultDigest : ∀ digest, node.resultDigest = some digest → isDigest digest = true
  failureCode : ∀ code, node.failureCode = some code → boundedId code = true
  pending : node.status = .pending → node.claimId = none ∧ node.claimOperationId = none ∧
    node.claimEpoch = 0 ∧ node.inputDigest = none
  active : node.isActive = true → node.claimId ≠ none ∧ node.claimOperationId ≠ none ∧
    1 ≤ node.claimEpoch ∧ node.inputDigest ≠ none
  leased : node.status = .running ↔ node.leaseExpiresAt ≠ none
  waiting : node.status = .waitingHuman → node.gateRequestId ≠ none
  gate : node.gateRequestId ≠ none → node.kind = .humanGate
  completed : node.status = .completed ↔ node.resultDigest ≠ none
  failed : node.status = .failed ↔ node.failureCode ≠ none

/-- The checks accept exactly the held nodes. -/
theorem validateNode_eq_ok {node : WorkflowExecutionNodeState} {result : Unit} :
    validateNode node = .ok result ↔ NodeHeld node := by
  simp only [validateNode, bind_eq_ok, exists_unit, rejectIf_eq_ok, not_or, not_not, not_and,
    Bool.not_eq_false, Option.all_eq_true, Int.not_lt, isSafeInteger_iff]
  constructor
  · rintro ⟨⟨nodeId, agentVersionId, kind, epoch, counted, claimId, claimOperationId, gateRequestId,
      inputDigest, leaseExpiresAt, resultDigest, failureCode⟩, pending, active, leased, waiting,
      gate, completed, failed, _⟩
    refine ⟨nodeId, agentVersionId, kind, ⟨counted, epoch.2⟩, claimId, claimOperationId,
      gateRequestId, inputDigest, leaseExpiresAt, resultDigest, failureCode, pending, active, leased,
      waiting, ?_, completed, failed⟩
    intro requested
    by_contra other
    exact requested (gate other)
  · intro held
    have bound := maxSafeInteger_pos
    have epoch := held.claimEpoch
    refine ⟨⟨held.nodeId, held.agentVersionId, held.kind, ⟨by omega, epoch.2⟩, epoch.1,
      held.claimId, held.claimOperationId, held.gateRequestId, held.inputDigest,
      held.leaseExpiresAt, held.resultDigest, held.failureCode⟩, held.pending, held.active,
      held.leased, held.waiting, ?_, held.completed, held.failed, ?_⟩
    · intro other
      by_contra requested
      exact other (held.gate requested)
    · intro ended
      have result := mt held.completed.mpr
      have failure := mt held.failed.mpr
      simp only [ne_eq, not_not] at result failure
      rcases ended with ended | ended
      · exact ⟨result (by simp [ended]), failure (by simp [ended])⟩
      · exact ⟨result (by simp [ended]), failure (by simp [ended])⟩

/-- A node that has not ended has neither a result nor a failure. -/
theorem NodeHeld.open_node {node : WorkflowExecutionNodeState} (held : NodeHeld node)
    (going : isTerminalNode node.status = false) :
    node.resultDigest = none ∧ node.failureCode = none := by
  simp only [isTerminalNode, Bool.or_eq_false_iff, decide_eq_false_iff_not] at going
  exact ⟨not_not.mp (mt held.completed.mpr going.1.1), not_not.mp (mt held.failed.mpr going.1.2)⟩

/-- A recovered node is held. -/
theorem NodeHeld.recovered {node : WorkflowExecutionNodeState} (held : NodeHeld node)
    (running : node.status = .running) :
    NodeHeld { node with status := .unknown, leaseExpiresAt := none } := by
  obtain ⟨result, failure⟩ := held.open_node (by simp [running, isTerminalNode])
  have claimed := held.active (by simp [WorkflowExecutionNodeState.isActive, running])
  exact { held with
    pending := by simp
    active := fun _ => claimed
    leased := by simp
    leaseExpiresAt := by simp
    waiting := by simp
    completed := by simp [result]
    failed := by simp [failure] }

/-- A canceled node is held. -/
theorem NodeHeld.canceledNode {node : WorkflowExecutionNodeState} (held : NodeHeld node) :
    NodeHeld (canceledNode node) := by
  unfold Application.canceledNode
  split
  case isFalse => exact held
  case isTrue idle =>
    have going : isTerminalNode node.status = false := by
      rcases idle with idle | idle <;> simp [idle, isTerminalNode]
    obtain ⟨result, failure⟩ := held.open_node going
    exact { held with
      pending := by simp
      active := by simp [WorkflowExecutionNodeState.isActive]
      leased := by simp
      leaseExpiresAt := by simp
      waiting := by simp
      completed := by simp [result]
      failed := by simp [failure] }

/-- An outcome that the store accepts. -/
def OutcomeAccepted : WorkflowNodeOutcome → Prop
  | .completed resultDigest => isDigest resultDigest = true
  | .failed failureCode => boundedId failureCode = true
  | .canceled | .unknown => True

/-- A settled node is held exactly when its outcome is accepted. -/
theorem NodeHeld.settledNode {node : WorkflowExecutionNodeState} {outcome : WorkflowNodeOutcome}
    (held : NodeHeld node) (active : node.isActive = true) :
    NodeHeld (settledNode outcome node) ↔ OutcomeAccepted outcome := by
  constructor
  · intro settled
    cases outcome with
    | completed resultDigest => exact settled.resultDigest resultDigest rfl
    | failed failureCode => exact settled.failureCode failureCode rfl
    | canceled => trivial
    | unknown => trivial
  · intro accepted
    have claimed := held.active active
    exact { held with
      pending := by cases outcome <;> simp [Application.settledNode, WorkflowNodeOutcome.status]
      active := fun _ => claimed
      leased := by cases outcome <;> simp [Application.settledNode, WorkflowNodeOutcome.status]
      leaseExpiresAt := by simp [Application.settledNode]
      waiting := by cases outcome <;> simp [Application.settledNode, WorkflowNodeOutcome.status]
      resultDigest := by
        rintro digest same
        cases outcome <;> simp_all [Application.settledNode, WorkflowNodeOutcome.resultDigest,
          OutcomeAccepted]
      failureCode := by
        rintro code same
        cases outcome <;> simp_all [Application.settledNode, WorkflowNodeOutcome.failureCode,
          OutcomeAccepted]
      completed := by
        cases outcome <;> simp [Application.settledNode, WorkflowNodeOutcome.status,
          WorkflowNodeOutcome.resultDigest]
      failed := by
        cases outcome <;> simp [Application.settledNode, WorkflowNodeOutcome.status,
          WorkflowNodeOutcome.failureCode] }

/-- What the dependencies of the service promise: a clock in the format of the host, ids of the wire
grammar and digests. -/
structure DependenciesKeep (run : WorkflowRun) (environment : CallEnvironment) : Prop where
  now : canonicalUtc environment.now = true
  nextId : ∀ drawn, boundedId (environment.nextId drawn) = true
  sha256 : ∀ text, isDigest (run.sha256 text) = true

/-- What a claim is planned from keeps the formats of the store. -/
structure InputKeeps (input : ClaimInput) : Prop where
  expiresAt : canonicalUtc input.expiresAt = true
  operationId : boundedId input.operationId = true
  nextId : ∀ drawn, boundedId (input.nextId drawn) = true
  inputDigest : ∀ node recovered, isDigest (input.inputDigest node recovered) = true

/-- A claimed node is held. -/
theorem NodeHeld.claimedNode {node : WorkflowExecutionNodeState} {input : ClaimInput}
    {recovered : List WorkflowExecutionNodeState} {drawn : Nat} {definition : WorkflowNodeDefinition}
    (held : NodeHeld node) (keeps : InputKeeps input) (pending : node.status = .pending)
    (kind : node.kind = nodeKind definition.work) :
    NodeHeld (claimedNode input node (claimOf input recovered drawn node definition)) := by
  obtain ⟨result, failure⟩ := held.open_node (by simp [pending, isTerminalNode])
  have epoch := (held.pending pending).2.2.1
  have bound : (1 : Int) ≤ maxSafeInteger := by decide
  by_cases gate : nodeKind definition.work = .humanGate
  · exact { held with
      claimEpoch := by simpa [Application.claimedNode, claimOf, epoch] using bound
      claimId := by rintro _ ⟨rfl⟩; exact keeps.nextId drawn
      claimOperationId := by rintro _ ⟨rfl⟩; exact keeps.operationId
      gateRequestId := by
        intro id requested
        obtain rfl : input.nextId (drawn + 1) = id := by
          simpa [Application.claimedNode, claimOf, gate] using requested
        exact keeps.nextId (drawn + 1)
      inputDigest := by rintro _ ⟨rfl⟩; exact keeps.inputDigest definition recovered
      leaseExpiresAt := by simp [Application.claimedNode, claimOf, gate]
      pending := by simp [Application.claimedNode, claimOf, gate]
      active := by simp [Application.claimedNode, claimOf, epoch]
      leased := by simp [Application.claimedNode, claimOf, gate]
      waiting := by simp [Application.claimedNode, claimOf, gate]
      gate := fun _ => kind.trans gate
      completed := by simp [Application.claimedNode, claimOf, gate, result]
      failed := by simp [Application.claimedNode, claimOf, gate, failure] }
  · exact { held with
      claimEpoch := by simpa [Application.claimedNode, claimOf, epoch] using bound
      claimId := by rintro _ ⟨rfl⟩; exact keeps.nextId drawn
      claimOperationId := by rintro _ ⟨rfl⟩; exact keeps.operationId
      gateRequestId := by simp [Application.claimedNode, claimOf, gate]
      inputDigest := by rintro _ ⟨rfl⟩; exact keeps.inputDigest definition recovered
      leaseExpiresAt := by
        intro expiry leased
        obtain rfl : input.expiresAt = expiry := by
          simpa [Application.claimedNode, claimOf, gate] using leased
        exact keeps.expiresAt
      pending := by simp [Application.claimedNode, claimOf, gate]
      active := by simp [Application.claimedNode, claimOf, epoch]
      leased := by simp [Application.claimedNode, claimOf, gate]
      waiting := by simp [Application.claimedNode, claimOf, gate]
      gate := by simp [Application.claimedNode, claimOf, gate]
      completed := by simp [Application.claimedNode, claimOf, gate, result]
      failed := by simp [Application.claimedNode, claimOf, gate, failure] }

/-- A state that the store accepts. -/
structure StateHeld (state : WorkflowExecutionState) : Prop where
  schemaVersion : state.schemaVersion = workflowExecutionSchema
  tenantId : boundedId state.tenantId = true
  runId : boundedId state.runId = true
  workflowId : boundedId state.workflowId = true
  workflowVersionId : boundedId state.workflowVersionId = true
  contentDigest : isDigest state.contentDigest = true
  revision : 1 ≤ state.revision ∧ state.revision ≤ maxSafeInteger
  updatedAt : canonicalUtc state.updatedAt = true
  length : 1 ≤ state.nodes.length ∧ state.nodes.length ≤ 64
  distinct : (state.nodes.map (·.nodeId)).Nodup
  nodes : ∀ node ∈ state.nodes, NodeHeld node
  status : state.status = projectedStatus state.cancelRequested state.nodes

/-- The checks accept exactly the held states. -/
theorem validateState_eq_ok {state : WorkflowExecutionState} {result : Unit} :
    validateState state = .ok result ↔ StateHeld state := by
  simp only [validateState, bind_eq_ok, exists_unit, rejectIf_eq_ok, forEach_eq_ok,
    validateNode_eq_ok, not_or, not_not, Bool.not_eq_false, Int.not_lt, Nat.not_lt,
    isSafeInteger_iff]
  constructor
  · rintro ⟨⟨schemaVersion, tenantId, runId, workflowId, workflowVersionId, contentDigest, safe,
      positive, updatedAt, some, few, distinct⟩, nodes, status⟩
    exact ⟨schemaVersion, tenantId, runId, workflowId, workflowVersionId, contentDigest,
      ⟨positive, safe.2⟩, updatedAt, ⟨some, few⟩, distinct, nodes, status⟩
  · intro held
    have bound := maxSafeInteger_pos
    have revision := held.revision
    exact ⟨⟨held.schemaVersion, held.tenantId, held.runId, held.workflowId, held.workflowVersionId,
      held.contentDigest, ⟨by omega, revision.2⟩, revision.1, held.updatedAt, held.length.1,
      held.length.2, held.distinct⟩, held.nodes, held.status⟩

/-- What no change of a node touches. -/
def nodeIdentity (node : WorkflowExecutionNodeState) :
    JsString × WorkflowExecutionNodeKind × Option JsString :=
  (node.nodeId, node.kind, node.agentVersionId)

/-- Two nodes are the same exactly when their identities are. -/
theorem sameNode_iff {current next : WorkflowExecutionNodeState} :
    sameNode current next = true ↔ nodeIdentity current = nodeIdentity next := by
  simp [sameNode, nodeIdentity, and_assoc]

/-- Two lists name the same nodes exactly when their identities agree. -/
theorem sameNodes_iff {current next : List WorkflowExecutionNodeState} :
    current.length = next.length ∧
        ((current.zip next).all fun pair => sameNode pair.1 pair.2) = true ↔
      current.map nodeIdentity = next.map nodeIdentity := by
  induction current generalizing next with
  | nil => cases next <;> simp
  | cons head rest hypothesis =>
    cases next with
    | nil => simp
    | cons other others =>
      simp only [List.length_cons, List.zip_cons_cons, List.all_cons, Bool.and_eq_true,
        List.map_cons, List.cons.injEq, sameNode_iff, ← hypothesis, Nat.add_right_cancel_iff]
      constructor
      · rintro ⟨lengths, first, later⟩
        exact ⟨first, lengths, later⟩
      · rintro ⟨first, lengths, later⟩
        exact ⟨lengths, first, later⟩

/-- A change of a state that touches only what an operation may touch. -/
structure Succeeds (now : JsString) (current next : WorkflowExecutionState) : Prop where
  schemaVersion : next.schemaVersion = current.schemaVersion
  tenantId : next.tenantId = current.tenantId
  runId : next.runId = current.runId
  workflowId : next.workflowId = current.workflowId
  workflowVersionId : next.workflowVersionId = current.workflowVersionId
  contentDigest : next.contentDigest = current.contentDigest
  revision : next.revision = current.revision + 1
  updatedAt : next.updatedAt = now
  cancelRequested : current.cancelRequested = true → next.cancelRequested = true
  nodes : current.nodes.map nodeIdentity = next.nodes.map nodeIdentity

/-- The transition checks accept such a change exactly when the clock did not go back and every node
may become its successor. -/
theorem Succeeds.assertTransition_eq_ok {now : JsString} {current next : WorkflowExecutionState}
    (succeeds : Succeeds now current next) {result : Unit} :
    assertTransition current next = .ok result ↔
      parsesEarlier now current.updatedAt = false ∧
        ∀ pair ∈ current.nodes.zip next.nodes, validNodeTransition pair.1 pair.2 = true := by
  obtain ⟨lengths, same⟩ := sameNodes_iff.mpr succeeds.nodes
  simp only [assertTransition, bind_eq_ok, exists_unit, rejectIf_eq_ok, forEach_eq_ok, not_or,
    not_not, not_and, Bool.not_eq_false, Bool.not_eq_true, succeeds.tenantId, succeeds.runId,
    succeeds.workflowId, succeeds.workflowVersionId, succeeds.contentDigest, succeeds.updatedAt,
    lengths, same, true_and, and_true]
  constructor
  · rintro ⟨⟨clock, _⟩, each⟩
    exact ⟨clock, each⟩
  · rintro ⟨clock, each⟩
    exact ⟨⟨clock, succeeds.cancelRequested⟩, each⟩

/-- The state checks accept such a change of a held state exactly when the revision is safe, every
node is held and the status is the one that the store projects. -/
theorem Succeeds.stateHeld_iff {now : JsString} {current next : WorkflowExecutionState}
    (succeeds : Succeeds now current next) (held : StateHeld current)
    (canonical : canonicalUtc now = true) :
    StateHeld next ↔ current.revision < maxSafeInteger ∧ (∀ node ∈ next.nodes, NodeHeld node) ∧
      next.status = projectedStatus next.cancelRequested next.nodes := by
  have lengths := congrArg List.length succeeds.nodes
  rw [List.length_map, List.length_map] at lengths
  have ids := congrArg (List.map Prod.fst) succeeds.nodes
  rw [List.map_map, List.map_map] at ids
  have revision := held.revision
  constructor
  · intro after
    have bound := after.revision.2
    rw [succeeds.revision] at bound
    exact ⟨by omega, after.nodes, after.status⟩
  · rintro ⟨room, nodes, status⟩
    exact {
      schemaVersion := succeeds.schemaVersion.trans held.schemaVersion
      tenantId := succeeds.tenantId ▸ held.tenantId
      runId := succeeds.runId ▸ held.runId
      workflowId := succeeds.workflowId ▸ held.workflowId
      workflowVersionId := succeeds.workflowVersionId ▸ held.workflowVersionId
      contentDigest := succeeds.contentDigest ▸ held.contentDigest
      revision := by rw [succeeds.revision]; omega
      updatedAt := succeeds.updatedAt ▸ canonical
      length := lengths ▸ held.length
      distinct := by
        have distinct := held.distinct
        show (next.nodes.map (Prod.fst ∘ nodeIdentity)).Nodup
        rw [← ids]
        exact distinct
      nodes := nodes
      status := status }

/-- A node list after a change that keeps the identity of every node. -/
theorem projectWorkflowExecution_succeeds {current : WorkflowExecutionState}
    {nodes : List WorkflowExecutionNodeState} {now : JsString}
    (same : current.nodes.map nodeIdentity = nodes.map nodeIdentity) :
    Succeeds now current (projectWorkflowExecution current nodes now) where
  schemaVersion := rfl
  tenantId := rfl
  runId := rfl
  workflowId := rfl
  workflowVersionId := rfl
  contentDigest := rfl
  revision := rfl
  updatedAt := rfl
  cancelRequested := id
  nodes := same

/-- The state of a node is found in changed nodes where it was. -/
theorem nodeState_map {change : WorkflowExecutionNodeState → WorkflowExecutionNodeState}
    (keeps : ∀ node, (change node).nodeId = node.nodeId) (nodes : List WorkflowExecutionNodeState)
    (nodeId : JsString) : nodeState (nodes.map change) nodeId = (nodeState nodes nodeId).map change := by
  induction nodes with
  | nil => rfl
  | cons head rest hypothesis =>
    by_cases found : head.nodeId = nodeId
    · simp [nodeState, keeps, found]
    · simpa [nodeState, keeps, found] using hypothesis

/-- A state that is found is that of a node with the id. -/
theorem nodeState_eq_some {nodes : List WorkflowExecutionNodeState} {nodeId : JsString}
    {node : WorkflowExecutionNodeState} (found : nodeState nodes nodeId = some node) :
    node ∈ nodes ∧ node.nodeId = nodeId := by
  refine ⟨List.mem_of_find?_eq_some found, ?_⟩
  simpa using List.find?_some found

/-- The state of a node is found under its id, unless another one has the same. -/
theorem nodeState_of_mem {nodes : List WorkflowExecutionNodeState}
    {node : WorkflowExecutionNodeState} (distinct : (nodes.map (·.nodeId)).Nodup)
    (member : node ∈ nodes) : nodeState nodes node.nodeId = some node := by
  induction nodes with
  | nil => simp at member
  | cons head rest hypothesis =>
    simp only [List.map_cons, List.nodup_cons, List.mem_map, not_exists, not_and] at distinct
    cases List.mem_cons.mp member with
    | inl same => simp [nodeState, same]
    | inr later =>
      have other : head.nodeId ≠ node.nodeId := fun same => distinct.1 node later same.symm
      rw [nodeState, List.find?_cons_of_neg (by simpa using other)]
      exact hypothesis distinct.2 later

/-- Recovery keeps the identity of a node. -/
@[simp] theorem nodeIdentity_recoverNode (now : JsString) (lost delegated : List JsString)
    (node : WorkflowExecutionNodeState) :
    nodeIdentity (recoverNode now lost delegated node) = nodeIdentity node := by
  unfold recoverNode
  split <;> rfl

/-- Recovery turns running nodes into unknown ones and changes no other node. -/
theorem recoverNode_cases (now : JsString) (lost delegated : List JsString)
    (node : WorkflowExecutionNodeState) :
    recoverNode now lost delegated node = node ∨ node.status = .running ∧
      recoverNode now lost delegated node =
        { node with status := .unknown, leaseExpiresAt := none } := by
  unfold recoverNode
  split
  case isTrue expired => exact .inr ⟨expired.1, rfl⟩
  case isFalse => exact .inl rfl

/-- A status other than running and unknown is kept by recovery, and not brought about by it. -/
theorem recoverNode_status_iff {status : WorkflowNodeStatus} (running : status ≠ .running)
    (unknown : status ≠ .unknown) (now : JsString) (lost delegated : List JsString)
    (node : WorkflowExecutionNodeState) :
    (recoverNode now lost delegated node).status = status ↔ node.status = status := by
  obtain same | ⟨ran, same⟩ := recoverNode_cases now lost delegated node
  · rw [same]
  · rw [same, ran]
    constructor
    · intro became
      exact absurd became.symm unknown
    · intro was
      exact absurd was.symm running

/-- The node of an id is pending, and every node it depends on is completed. -/
structure Claimable (workflow : CompiledWorkflowVersion) (nodes : List WorkflowExecutionNodeState)
    (node : WorkflowExecutionNodeState) (definition : WorkflowNodeDefinition) : Prop where
  member : node ∈ nodes
  defined : findNode workflow.nodes node.nodeId = some definition
  pending : node.status = .pending
  dependencies : ∀ dependency ∈ definition.dependsOn,
    ∃ needed ∈ nodes, needed.nodeId = dependency ∧ needed.status = .completed

/-- A claimable node is ready. -/
theorem Claimable.isReady {workflow : CompiledWorkflowVersion}
    {nodes : List WorkflowExecutionNodeState} {node : WorkflowExecutionNodeState}
    {definition : WorkflowNodeDefinition} (claimable : Claimable workflow nodes node definition)
    (distinct : (nodes.map (·.nodeId)).Nodup) : isReady workflow nodes node.nodeId = true := by
  simp only [Application.isReady, nodeState_of_mem distinct claimable.member, claimable.defined,
    claimable.pending, decide_true, Bool.true_and, List.all_eq_true, Option.any_eq_true,
    decide_eq_true_eq]
  intro dependency needed
  obtain ⟨done, listed, rfl, completed⟩ := claimable.dependencies dependency needed
  exact ⟨done, nodeState_of_mem distinct listed, completed⟩

/-- The ids that are ready after recovery are those of claimable nodes. -/
theorem claimable_of_isReady {workflow : CompiledWorkflowVersion}
    {nodes : List WorkflowExecutionNodeState} {nodeId now : JsString}
    {lost delegated : List JsString}
    (ready : isReady workflow (nodes.map (recoverNode now lost delegated)) nodeId = true) :
    ∃ node definition, nodeState nodes nodeId = some node ∧ Claimable workflow nodes node definition := by
  have keeps (node : WorkflowExecutionNodeState) :
      (recoverNode now lost delegated node).nodeId = node.nodeId :=
    congrArg Prod.fst (nodeIdentity_recoverNode now lost delegated node)
  simp only [isReady, nodeState_map keeps] at ready
  cases found : nodeState nodes nodeId with
  | none => simp [found] at ready
  | some node =>
    obtain ⟨member, same⟩ := nodeState_eq_some found
    cases defined : findNode workflow.nodes nodeId with
    | none => simp [found, defined] at ready
    | some definition =>
      simp only [found, defined, Option.map_some, Bool.and_eq_true, decide_eq_true_eq,
        List.all_eq_true, Option.any_eq_true] at ready
      refine ⟨node, definition, rfl, member, by rw [same, defined], ?_, ?_⟩
      · exact (recoverNode_status_iff (by decide) (by decide) now lost delegated node).mp ready.1
      · intro dependency needs
        obtain ⟨recovered, looked, completed⟩ := ready.2 dependency needs
        obtain ⟨needed, stored, rfl⟩ := Option.map_eq_some_iff.mp looked
        obtain ⟨listed, named⟩ := nodeState_eq_some stored
        exact ⟨needed, listed, named,
          (recoverNode_status_iff (by decide) (by decide) now lost delegated needed).mp completed⟩

/-- Every item of a list that came about item by item came from one. -/
theorem exists_before {α β : Type} {related : α → β → Prop} {before : List α} {after : List β}
    (changes : List.Forall₂ related before after) {item : β} (member : item ∈ after) :
    ∃ origin ∈ before, related origin item := by
  induction changes with
  | nil => simp at member
  | @cons first second _ _ change _ hypothesis =>
    cases List.mem_cons.mp member with
    | inl same => exact ⟨first, List.mem_cons_self, same ▸ change⟩
    | inr later =>
      obtain ⟨origin, listed, became⟩ := hypothesis later
      exact ⟨origin, List.mem_cons_of_mem _ listed, became⟩

/-- Every item of a list became one of the list that came about item by item. -/
theorem exists_after {α β : Type} {related : α → β → Prop} {before : List α} {after : List β}
    (changes : List.Forall₂ related before after) {item : α} (member : item ∈ before) :
    ∃ successor ∈ after, related item successor := by
  have backwards : List.Forall₂ (flip related) after before := List.Forall₂.flip changes
  exact exists_before backwards member

/-- How a claim changes one node. -/
inductive ClaimChange (workflow : CompiledWorkflowVersion) (input : ClaimInput)
    (recovered : List WorkflowExecutionNodeState) (ready : List JsString) :
    WorkflowExecutionNodeState → WorkflowExecutionNodeState → Prop where
  | kept (node : WorkflowExecutionNodeState) : ClaimChange workflow input recovered ready node node
  | claimed (node : WorkflowExecutionNodeState) (definition : WorkflowNodeDefinition) (drawn : Nat)
      (listed : node.nodeId ∈ ready) (defined : findNode workflow.nodes node.nodeId = some definition) :
      ClaimChange workflow input recovered ready node
        (claimedNode input node (claimOf input recovered drawn node definition))

/-- Claims change every node on its own. -/
theorem claimNodes_changes (workflow : CompiledWorkflowVersion) (input : ClaimInput)
    (recovered : List WorkflowExecutionNodeState) (ready : List JsString) (drawn : Nat)
    (nodes : List WorkflowExecutionNodeState) :
    List.Forall₂ (ClaimChange workflow input recovered ready) nodes
      (claimNodes workflow input recovered ready drawn nodes).1 := by
  induction nodes generalizing drawn with
  | nil => exact List.Forall₂.nil
  | cons node rest hypothesis =>
    rw [claimNodes]
    split
    case h_1 => exact List.Forall₂.cons (.kept node) (hypothesis drawn)
    case h_2 definition chosen =>
      split at chosen
      case isTrue listed =>
        exact List.Forall₂.cons (.claimed node definition drawn listed chosen) (hypothesis _)
      case isFalse => simp at chosen

/-- The run is in a state whose nodes are those of its workflow. -/
def Fits (workflow : CompiledWorkflowVersion) (state : WorkflowExecutionState) : Prop :=
  state.nodes.map nodeIdentity =
    ((workflow.executionOrder.filterMap (findNode workflow.nodes)).map initialNode).map nodeIdentity

/-- Every node of such a state is of the kind that its definition has. -/
theorem Fits.kind {workflow : CompiledWorkflowVersion} {state : WorkflowExecutionState}
    (fits : Fits workflow state) (compiled : Compiled workflow) {node : WorkflowExecutionNodeState}
    (member : node ∈ state.nodes) {definition : WorkflowNodeDefinition}
    (defined : findNode workflow.nodes node.nodeId = some definition) :
    node.kind = nodeKind definition.work := by
  have listed : nodeIdentity node ∈ state.nodes.map nodeIdentity := List.mem_map_of_mem member
  rw [fits] at listed
  simp only [List.mem_map, List.mem_filterMap] at listed
  obtain ⟨_, ⟨other, ⟨nodeId, _, found⟩, rfl⟩, same⟩ := listed
  obtain ⟨known, _⟩ := findNode_eq_some found
  have ids : other.nodeId = node.nodeId := congrArg Prod.fst same
  have kinds : nodeKind other.work = node.kind := congrArg (fun identity => identity.2.1) same
  rw [← ids, findNode_of_mem compiled.distinct known] at defined
  obtain rfl := Option.some.inj defined
  exact kinds.symm

/-- The nodes of a valid state are in the order of execution. -/
theorem Fits.order {workflow : CompiledWorkflowVersion} {state : WorkflowExecutionState}
    (fits : Fits workflow state) (compiled : Compiled workflow) :
    state.nodes.map (·.nodeId) = workflow.executionOrder := by
  have named : ∀ order : List JsString, (∀ nodeId ∈ order, nodeId ∈ workflow.executionOrder) →
      (order.filterMap (findNode workflow.nodes)).map (·.nodeId) = order := by
    intro order
    induction order with
    | nil => exact fun _ => rfl
    | cons nodeId rest hypothesis =>
      intro listed
      obtain ⟨node, found⟩ := compiled.mem_order.mp (listed nodeId List.mem_cons_self)
      have others := hypothesis fun other member => listed other (List.mem_cons_of_mem _ member)
      rw [List.filterMap_cons_some found, List.map_cons, others, (findNode_eq_some found).2]
  have ids := congrArg (List.map Prod.fst) fits
  rw [List.map_map, List.map_map, List.map_map] at ids
  exact ids.trans (named workflow.executionOrder fun _ member => member)

/-- Every node of a valid state has a definition. -/
theorem Fits.definition {workflow : CompiledWorkflowVersion} {state : WorkflowExecutionState}
    (fits : Fits workflow state) (compiled : Compiled workflow) {node : WorkflowExecutionNodeState}
    (member : node ∈ state.nodes) :
    ∃ definition, findNode workflow.nodes node.nodeId = some definition := by
  have listed : node.nodeId ∈ state.nodes.map (·.nodeId) := List.mem_map_of_mem member
  rw [fits.order compiled] at listed
  exact compiled.mem_order.mp listed

/-- How a call changes one node of a state. -/
inductive NodeChange (run : WorkflowRun) (environment : CallEnvironment) (call : WorkflowCall)
    (current : WorkflowExecutionState) :
    WorkflowExecutionNodeState → WorkflowExecutionNodeState → Prop where
  | kept (node : WorkflowExecutionNodeState) : NodeChange run environment call current node node
  | lost (node : WorkflowExecutionNodeState) (duration : Int)
      (claims : call.operation = .claimReady duration) (going : current.cancelRequested = false)
      (running : node.status = .running) :
      NodeChange run environment call current node
        { node with status := .unknown, leaseExpiresAt := none }
  | claimed (node : WorkflowExecutionNodeState) (duration : Int) (expiresAt : JsString)
      (recovered : List WorkflowExecutionNodeState) (drawn : Nat)
      (definition : WorkflowNodeDefinition)
      (claims : call.operation = .claimReady duration) (going : current.cancelRequested = false)
      (expires : leaseExpiryText environment.now duration = .ok expiresAt)
      (claimable : Claimable run.workflow current.nodes node definition) :
      NodeChange run environment call current node
        (claimedNode (claimInput run environment call.operationId expiresAt) node
          (claimOf (claimInput run environment call.operationId expiresAt) recovered drawn node
            definition))
  | settled (node : WorkflowExecutionNodeState) (claimId : JsString) (outcome : WorkflowNodeOutcome)
      (settles : call.operation = .settleNode node.nodeId claimId outcome)
      (claimed : node.claimId = some claimId) (active : node.isActive = true) :
      NodeChange run environment call current node (settledNode outcome node)
  | canceled (node : WorkflowExecutionNodeState) (cancels : call.operation = .requestCancel)
      (idle : node.status = .pending ∨ node.status = .waitingHuman) :
      NodeChange run environment call current node
        { node with status := .canceled, leaseExpiresAt := none }

/-- A change of a node keeps its identity. -/
theorem NodeChange.identity {run : WorkflowRun} {environment : CallEnvironment}
    {call : WorkflowCall} {current : WorkflowExecutionState}
    {before after : WorkflowExecutionNodeState}
    (change : NodeChange run environment call current before after) :
    nodeIdentity before = nodeIdentity after := by
  cases change <;> rfl

/-- A node that ended is left as it is. -/
theorem NodeChange.terminal {run : WorkflowRun} {environment : CallEnvironment}
    {call : WorkflowCall} {current : WorkflowExecutionState}
    {before after : WorkflowExecutionNodeState}
    (change : NodeChange run environment call current before after)
    (ended : isTerminalNode before.status = true) : after = before := by
  cases change with
  | kept => rfl
  | lost _ _ _ running => simp [running, isTerminalNode] at ended
  | claimed _ _ _ _ _ _ _ _ claimable => simp [claimable.pending, isTerminalNode] at ended
  | settled _ _ _ _ active =>
    simp only [WorkflowExecutionNodeState.isActive, Bool.or_eq_true, decide_eq_true_eq] at active
    rcases active with (active | active) | active <;> simp [active, isTerminalNode] at ended
  | canceled _ idle => rcases idle with idle | idle <;> simp [idle, isTerminalNode] at ended

/-- Nodes that change one by one keep their identities. -/
theorem changes_identities {run : WorkflowRun} {environment : CallEnvironment}
    {call : WorkflowCall} {current : WorkflowExecutionState}
    {before after : List WorkflowExecutionNodeState}
    (changes : List.Forall₂ (NodeChange run environment call current) before after) :
    before.map nodeIdentity = after.map nodeIdentity := by
  induction changes with
  | nil => rfl
  | cons first _ hypothesis => rw [List.map_cons, List.map_cons, first.identity, hypothesis]

/-- What a call proposes. -/
structure Proposes (run : WorkflowRun) (environment : CallEnvironment) (call : WorkflowCall)
    (current next : WorkflowExecutionState) : Prop where
  changes : List.Forall₂ (NodeChange run environment call current) current.nodes next.nodes
  succeeds : Succeeds environment.now current next
  cancelRequested : next.cancelRequested =
    (current.cancelRequested || decide (call.operation = .requestCancel))
  status : next.status =
    if call.operation = .requestCancel then
      if next.nodes.any fun node => node.status = .running || node.status = .unknown then .running
      else .canceled
    else projectedStatus next.cancelRequested next.nodes

/-- A call other than a cancellation that projects changed nodes proposes what they stand for. -/
theorem proposes_projection {run : WorkflowRun} {environment : CallEnvironment}
    {call : WorkflowCall} {current : WorkflowExecutionState}
    {nodes : List WorkflowExecutionNodeState} (other : call.operation ≠ .requestCancel)
    (changes : List.Forall₂ (NodeChange run environment call current) current.nodes nodes) :
    Proposes run environment call current
      (projectWorkflowExecution current nodes environment.now) where
  changes := changes
  succeeds := projectWorkflowExecution_succeeds (changes_identities changes)
  cancelRequested := by simp [projectWorkflowExecution, other]
  status := by
    rw [if_neg other]
    rfl

/-- The nodes that are ready are claimable in the state before recovery. -/
theorem claimable_of_mem_readyIds {workflow : CompiledWorkflowVersion}
    {nodes : List WorkflowExecutionNodeState} {now : JsString} {lost delegated : List JsString}
    {maximumClaims : Nat} {node : WorkflowExecutionNodeState}
    (distinct : (nodes.map (·.nodeId)).Nodup) (member : node ∈ nodes)
    (listed : node.nodeId ∈
      readyIds workflow (nodes.map (recoverNode now lost delegated)) maximumClaims) :
    ∃ definition, Claimable workflow nodes node definition := by
  have filtered := List.mem_filter.mp (List.mem_of_mem_take listed)
  obtain ⟨other, definition, found, claimable⟩ := claimable_of_isReady filtered.2
  rw [nodeState_of_mem distinct member] at found
  obtain rfl := Option.some.inj found
  exact ⟨definition, claimable⟩

/-- The nodes that claims are planned on. -/
def recoveredNodes (input : ClaimInput) (current : WorkflowExecutionState) :
    List WorkflowExecutionNodeState :=
  current.nodes.map (recoverNode input.now input.lostClaimIds input.delegatedClaimIds)

/-- Recovery keeps the ids of the nodes. -/
theorem recoveredNodes_ids (input : ClaimInput) (current : WorkflowExecutionState) :
    (recoveredNodes input current).map (·.nodeId) = current.nodes.map (·.nodeId) := by
  rw [recoveredNodes, List.map_map]
  exact List.map_congr_left fun node _ => congrArg Prod.fst
    (nodeIdentity_recoverNode input.now input.lostClaimIds input.delegatedClaimIds node)

/-- The claims of the nodes that are ready, and the nodes with them. -/
def readyClaims (workflow : CompiledWorkflowVersion) (input : ClaimInput)
    (current : WorkflowExecutionState) :
    List WorkflowExecutionNodeState × List WorkflowNodeClaim :=
  claimNodes workflow input (recoveredNodes input current)
    (readyIds workflow (recoveredNodes input current) input.maximumClaims) 0
    (recoveredNodes input current)

/-- What a plan with a next state says. -/
theorem planWorkflowNodeClaims_eq_some {current next : WorkflowExecutionState}
    {workflow : CompiledWorkflowVersion} {input : ClaimInput} {claims : List WorkflowNodeClaim}
    (planned : planWorkflowNodeClaims current workflow input = (some next, claims)) :
    next = projectWorkflowExecution current (readyClaims workflow input current).1 input.now ∧
      claims = (readyClaims workflow input current).2 := by
  unfold planWorkflowNodeClaims at planned
  split at planned
  case isTrue => simp at planned
  case isFalse =>
    simp only at planned
    split at planned
    case isTrue => simp at planned
    case isFalse =>
      obtain ⟨same, listed⟩ := Prod.mk.inj planned
      exact ⟨(Option.some.inj same).symm, listed.symm⟩

/-- A plan without a next state claims nothing. -/
theorem planWorkflowNodeClaims_eq_none {current : WorkflowExecutionState}
    {workflow : CompiledWorkflowVersion} {input : ClaimInput} {claims : List WorkflowNodeClaim}
    (planned : planWorkflowNodeClaims current workflow input = (none, claims)) : claims = [] := by
  unfold planWorkflowNodeClaims at planned
  split at planned
  case isTrue => exact (Prod.mk.inj planned).2.symm
  case isFalse =>
    simp only at planned
    split at planned
    case isTrue => exact (Prod.mk.inj planned).2.symm
    case isFalse => simp at planned

/-- What a claim operation with a next state says. -/
theorem planClaimReady_eq_swap {run : WorkflowRun} {environment : CallEnvironment}
    {operationId : JsString} {duration : Int} {current next : WorkflowExecutionState}
    {claims : List WorkflowNodeClaim}
    (planned : planClaimReady run environment operationId duration current =
      .ok (.swap next claims)) :
    current.cancelRequested = false ∧ current.status = .running ∧
      ∃ expiresAt, leaseExpiryText environment.now duration = .ok expiresAt ∧
        planWorkflowNodeClaims current run.workflow
          (claimInput run environment operationId expiresAt) = (some next, claims) := by
  unfold planClaimReady at planned
  split at planned
  case isTrue => simp at planned
  case isFalse going =>
    rw [not_or, Bool.not_eq_true, not_not] at going
    obtain ⟨expiresAt, expires, planned⟩ := bind_eq_ok.mp planned
    refine ⟨going.1, going.2, expiresAt, expires, ?_⟩
    generalize planWorkflowNodeClaims current run.workflow
      (claimInput run environment operationId expiresAt) = plan at planned
    obtain ⟨proposed, claimed⟩ := plan
    cases proposed with
    | none => simp at planned
    | some proposed =>
      simp only [pure_eq_ok, WorkflowPlan.swap.injEq] at planned
      obtain ⟨rfl, rfl⟩ := planned
      rfl

/-- The claims of a call change the nodes one by one. -/
theorem planClaimReady_proposes {run : WorkflowRun} {environment : CallEnvironment}
    {call : WorkflowCall} {duration : Int} {current next : WorkflowExecutionState}
    {claims : List WorkflowNodeClaim} (distinct : (current.nodes.map (·.nodeId)).Nodup)
    (claimed : call.operation = .claimReady duration)
    (planned : planClaimReady run environment call.operationId duration current =
      .ok (.swap next claims)) :
    Proposes run environment call current next := by
  obtain ⟨going, _, expiresAt, expires, planned⟩ := planClaimReady_eq_swap planned
  set input := claimInput run environment call.operationId expiresAt with chosen
  obtain ⟨rfl, _⟩ := planWorkflowNodeClaims_eq_some planned
  apply proposes_projection (by simp [claimed])
  have each := claimNodes_changes run.workflow input (recoveredNodes input current)
    (readyIds run.workflow (recoveredNodes input current) input.maximumClaims) 0
    (recoveredNodes input current)
  nth_rewrite 3 [recoveredNodes] at each
  rw [List.forall₂_map_left_iff] at each
  refine ((List.forall₂_and_left _ _).mpr ⟨fun node member => member, each⟩).imp ?_
  rintro node after ⟨member, change⟩
  have same := congrArg Prod.fst
    (nodeIdentity_recoverNode input.now input.lostClaimIds input.delegatedClaimIds node)
  generalize became : recoverNode input.now input.lostClaimIds input.delegatedClaimIds node =
    middle at change same
  obtain kept | ⟨running, lost⟩ :=
    recoverNode_cases input.now input.lostClaimIds input.delegatedClaimIds node
  · obtain rfl := kept.symm.trans became
    cases change with
    | kept => exact .kept node
    | claimed definition drawn listed defined =>
      obtain ⟨known, claimable⟩ := claimable_of_mem_readyIds distinct member listed
      obtain rfl := Option.some.inj (defined.symm.trans claimable.defined)
      exact .claimed node duration expiresAt _ drawn definition claimed going expires claimable
  · cases change with
    | kept =>
      obtain rfl := lost.symm.trans became
      exact .lost node duration claimed going running
    | claimed definition drawn listed defined =>
      -- a node that runs is not ready
      have named : middle.nodeId = node.nodeId := same
      rw [named] at listed
      obtain ⟨_, claimable⟩ := claimable_of_mem_readyIds distinct member listed
      exact absurd (running.symm.trans claimable.pending) (by decide)

/-- The node that a settlement names is one of the nodes, and has the claim. -/
theorem settlementTarget_eq_ok {nodeId claimId : JsString} {current : WorkflowExecutionState}
    {target : WorkflowExecutionNodeState}
    (found : settlementTarget nodeId claimId current = .ok target) :
    target ∈ current.nodes ∧ target.nodeId = nodeId ∧ target.claimId = some claimId := by
  unfold settlementTarget at found
  split at found
  case h_1 => simp at found
  case h_2 node looked =>
    split at found
    case isFalse => simp at found
    case isTrue claimed =>
      obtain rfl := Except.ok.inj found
      obtain ⟨member, named⟩ := nodeState_eq_some looked
      exact ⟨member, named, claimed⟩

/-- What a settlement with a next state says. -/
theorem planSettleNode_eq_swap {environment : CallEnvironment} {nodeId claimId : JsString}
    {outcome : WorkflowNodeOutcome} {current next : WorkflowExecutionState}
    {claims : List WorkflowNodeClaim}
    (planned : planSettleNode environment nodeId claimId outcome current =
      .ok (.swap next claims)) :
    ∃ target ∈ current.nodes, target.nodeId = nodeId ∧ target.claimId = some claimId ∧
      target.isActive = true ∧
      next = projectWorkflowExecution current (current.nodes.map fun node =>
        if node.nodeId = nodeId then settledNode outcome node else node) environment.now := by
  simp only [planSettleNode, bind_eq_ok, exists_unit, rejectIf_eq_ok, pure_eq_ok,
    WorkflowPlan.swap.injEq] at planned
  obtain ⟨target, found, _, settleable, rfl, _⟩ := planned
  obtain ⟨member, named, claimed⟩ := settlementTarget_eq_ok found
  refine ⟨target, member, named, claimed, ?_, rfl⟩
  simp only [WorkflowExecutionNodeState.isActive, Bool.or_eq_true, decide_eq_true_eq]
  tauto

/-- A settlement changes the one node it names. -/
theorem planSettleNode_proposes {run : WorkflowRun} {environment : CallEnvironment}
    {call : WorkflowCall} {nodeId claimId : JsString} {outcome : WorkflowNodeOutcome}
    {current next : WorkflowExecutionState} {claims : List WorkflowNodeClaim}
    (distinct : (current.nodes.map (·.nodeId)).Nodup)
    (settles : call.operation = .settleNode nodeId claimId outcome)
    (planned : planSettleNode environment nodeId claimId outcome current =
      .ok (.swap next claims)) :
    Proposes run environment call current next := by
  obtain ⟨target, listed, rfl, claimed, active, rfl⟩ := planSettleNode_eq_swap planned
  apply proposes_projection (by simp [settles])
  rw [List.forall₂_map_right_iff, List.forall₂_same]
  intro node member
  split
  case isFalse => exact .kept node
  case isTrue named =>
    have same := (nodeState_of_mem distinct member).symm.trans
      (named ▸ nodeState_of_mem distinct listed)
    obtain rfl := Option.some.inj same
    exact .settled node claimId outcome settles claimed active

/-- A cancellation changes the nodes that do not run. -/
theorem planRequestCancel_proposes {run : WorkflowRun} {environment : CallEnvironment}
    {call : WorkflowCall} {current next : WorkflowExecutionState}
    {claims : List WorkflowNodeClaim} (cancels : call.operation = .requestCancel)
    (planned : planRequestCancel environment current = .swap next claims) :
    Proposes run environment call current next := by
  unfold planRequestCancel at planned
  split at planned
  case isTrue => simp at planned
  case isFalse =>
    obtain ⟨rfl, _⟩ := WorkflowPlan.swap.inj planned
    have changes : List.Forall₂ (NodeChange run environment call current) current.nodes
        (current.nodes.map canceledNode) := by
      rw [List.forall₂_map_right_iff, List.forall₂_same]
      intro node _
      unfold canceledNode
      split
      case isTrue idle => exact .canceled node cancels idle
      case isFalse => exact .kept node
    have projected : Succeeds environment.now current
        (projectWorkflowExecution current (current.nodes.map canceledNode) environment.now) :=
      projectWorkflowExecution_succeeds (changes_identities changes)
    exact {
      changes := changes
      succeeds := { projected with cancelRequested := fun _ => rfl }
      cancelRequested := by
        show true = _
        simp [cancels]
      status := by
        rw [if_pos cancels]
        rfl }

/-- Every next state that a call computes is one it proposes. -/
theorem planCall_proposes {run : WorkflowRun} {environment : CallEnvironment} {call : WorkflowCall}
    {current next : WorkflowExecutionState} {claims : List WorkflowNodeClaim}
    (distinct : (current.nodes.map (·.nodeId)).Nodup)
    (planned : planCall run environment call current = .ok (.swap next claims)) :
    Proposes run environment call current next := by
  unfold planCall at planned
  split at planned
  case h_1 duration claimed => exact planClaimReady_proposes distinct claimed planned
  case h_2 nodeId claimId outcome settles => exact planSettleNode_proposes distinct settles planned
  case h_3 cancels => exact planRequestCancel_proposes cancels (Except.ok.inj planned)

end Crewon.Verif.WorkflowExecution
