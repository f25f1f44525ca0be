import Crewon.Domain.WorkflowVersion
import Crewon.Js.StableJson
import Crewon.Store.WorkflowExecution

/-!
# Planning the execution of a workflow

The state of a workflow run is planned from the compiled workflow and the current state: the first
state, the claims of the nodes that are ready, and the status that the nodes stand for.
-/

namespace Crewon.Application

open Crewon.Js Crewon.Checked Crewon.Domain Crewon.Store

/-- A claim of a node. -/
structure WorkflowNodeClaim where
  node : WorkflowNodeDefinition
  claimId : JsString
  claimEpoch : Int
  gateRequestId : Option JsString
  inputDigest : JsString
deriving DecidableEq

/-- The kind of the state of a node. -/
def nodeKind : WorkflowNodeWork → WorkflowExecutionNodeKind
  | .agent _ => .agent
  | .humanGate _ => .humanGate
  | .verification _ => .verification

/-- The agent version that works on a node. -/
def nodeAgentVersionId : WorkflowNodeWork → Option JsString
  | .agent agentVersionId => some agentVersionId
  | .humanGate _ => none
  | .verification verifierAgentVersionId => some verifierAgentVersionId

/-- The first state of a node. -/
def initialNode (node : WorkflowNodeDefinition) : WorkflowExecutionNodeState where
  nodeId := node.nodeId
  kind := nodeKind node.work
  agentVersionId := nodeAgentVersionId node.work
  status := .pending
  claimId := none
  claimOperationId := none
  claimEpoch := 0
  leaseExpiresAt := none
  gateRequestId := none
  inputDigest := none
  resultDigest := none
  failureCode := none

/-- The first state of a run. Every id of the order is that of a node. -/
def initialWorkflowExecution (tenantId runId : JsString) (workflow : CompiledWorkflowVersion)
    (now : JsString) : WorkflowExecutionState where
  schemaVersion := workflowExecutionSchema
  tenantId := tenantId
  runId := runId
  workflowId := workflow.workflowId
  workflowVersionId := workflow.workflowVersionId
  contentDigest := workflow.contentDigest
  revision := 1
  status := .running
  cancelRequested := false
  nodes := (workflow.executionOrder.filterMap (findNode workflow.nodes)).map initialNode
  updatedAt := now

/-- The state of the node with an id. -/
def nodeState (nodes : List WorkflowExecutionNodeState) (nodeId : JsString) :
    Option WorkflowExecutionNodeState :=
  nodes.find? fun node => node.nodeId = nodeId

/-- The state after the nodes changed, with the status they stand for. -/
def projectWorkflowExecution (current : WorkflowExecutionState)
    (nodes : List WorkflowExecutionNodeState) (updatedAt : JsString) : WorkflowExecutionState :=
  let active := nodes.any fun node => node.status = .running || node.status = .unknown
  { current with
    revision := current.revision + 1
    status :=
      if current.cancelRequested && !active then .canceled
      else if nodes.any fun node => node.status = .failed then .failed
      else if nodes.all fun node => node.status = .completed then .completed
      else if (nodes.any fun node => node.status = .waitingHuman) && !active then .waitingHuman
      else .running
    nodes := nodes
    updatedAt := updatedAt }

/-- The lease of a node ran out. -/
def leaseExpired (node : WorkflowExecutionNodeState) (now : JsString) : Bool :=
  match node.leaseExpiresAt.bind isoParse, isoParse now with
  | some expiry, some instant => expiry ≤ instant
  | _, _ => false

/-- A running node whose worker is lost, or whose lease ran out, is in an unknown state. -/
def recoverNode (now : JsString) (lostClaimIds delegatedClaimIds : List JsString)
    (node : WorkflowExecutionNodeState) : WorkflowExecutionNodeState :=
  if node.status = .running ∧ (¬ ∃ claimId ∈ delegatedClaimIds, node.claimId = some claimId) ∧
      ((∃ claimId ∈ lostClaimIds, node.claimId = some claimId) ∨ leaseExpired node now = true)
  then { node with status := .unknown, leaseExpiresAt := none }
  else node

/-- The node of an id is pending, and all the nodes it depends on are completed. -/
def isReady (workflow : CompiledWorkflowVersion) (recovered : List WorkflowExecutionNodeState)
    (nodeId : JsString) : Bool :=
  match nodeState recovered nodeId, findNode workflow.nodes nodeId with
  | some state, some definition =>
    state.status = .pending && definition.dependsOn.all fun dependency =>
      (nodeState recovered dependency).any fun node => node.status = .completed
  | _, _ => false

/-- The ids of the nodes to be claimed, in execution order. -/
def readyIds (workflow : CompiledWorkflowVersion) (recovered : List WorkflowExecutionNodeState)
    (maximumClaims : Nat) : List JsString :=
  (workflow.executionOrder.filter (isReady workflow recovered)).take maximumClaims

/-- What a claim is planned from besides the current state. -/
structure ClaimInput where
  now : JsString
  expiresAt : JsString
  operationId : JsString
  maximumClaims : Nat
  lostClaimIds : List JsString
  /-- A child run owns the execution of these claims. -/
  delegatedClaimIds : List JsString
  /-- The ids that are drawn, one after the other. -/
  nextId : Nat → JsString
  inputDigest : WorkflowNodeDefinition → List WorkflowExecutionNodeState → JsString

/-- The claim of a node, with the ids drawn from a position on. -/
def claimOf (input : ClaimInput) (recovered : List WorkflowExecutionNodeState) (drawn : Nat)
    (state : WorkflowExecutionNodeState) (node : WorkflowNodeDefinition) : WorkflowNodeClaim where
  node := node
  claimId := input.nextId drawn
  claimEpoch := state.claimEpoch + 1
  gateRequestId := if nodeKind node.work = .humanGate then some (input.nextId (drawn + 1)) else none
  inputDigest := input.inputDigest node recovered

/-- The state of a claimed node. -/
def claimedNode (input : ClaimInput) (state : WorkflowExecutionNodeState)
    (claim : WorkflowNodeClaim) : WorkflowExecutionNodeState :=
  { state with
    status := if nodeKind claim.node.work = .humanGate then .waitingHuman else .running
    claimId := some claim.claimId
    claimOperationId := some input.operationId
    claimEpoch := claim.claimEpoch
    gateRequestId := claim.gateRequestId
    inputDigest := some claim.inputDigest
    leaseExpiresAt :=
      if nodeKind claim.node.work = .humanGate then none else some input.expiresAt }

/-- Claim the nodes that are ready, in turn. -/
def claimNodes (workflow : CompiledWorkflowVersion) (input : ClaimInput)
    (recovered : List WorkflowExecutionNodeState) (ready : List JsString) :
    Nat → List WorkflowExecutionNodeState →
      List WorkflowExecutionNodeState × List WorkflowNodeClaim
  | _, [] => ([], [])
  | drawn, state :: rest =>
    -- a ready id is always that of a node
    match if state.nodeId ∈ ready then findNode workflow.nodes state.nodeId else none with
    | none =>
      let others := claimNodes workflow input recovered ready drawn rest
      (state :: others.1, others.2)
    | some node =>
      let claim := claimOf input recovered drawn state node
      let used := if nodeKind node.work = .humanGate then drawn + 2 else drawn + 1
      let others := claimNodes workflow input recovered ready used rest
      (claimedNode input state claim :: others.1, claim :: others.2)

/-- The next state and the claims of the nodes that are ready. Without a change there is no next
state. -/
def planWorkflowNodeClaims (current : WorkflowExecutionState) (workflow : CompiledWorkflowVersion)
    (input : ClaimInput) : Option WorkflowExecutionState × List WorkflowNodeClaim :=
  if current.cancelRequested = true ∨
      (current.status ≠ .running ∧ current.status ≠ .waitingHuman) then (none, [])
  else
    let recovered :=
      current.nodes.map (recoverNode input.now input.lostClaimIds input.delegatedClaimIds)
    let ready := readyIds workflow recovered input.maximumClaims
    if ready.length = 0 ∧ recovered = current.nodes then (none, [])
    else
      let claimed := claimNodes workflow input recovered ready 0 recovered
      (some (projectWorkflowExecution current claimed.1 input.now), claimed.2)

end Crewon.Application
