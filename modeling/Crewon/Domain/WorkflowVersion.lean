import Crewon.Domain.RunRecords
import Crewon.Lib.TopologicalOrder
import Mathlib.Data.List.Sort

/-!
# Workflow versions

A workflow version is a graph of agent nodes, human gates and verifications. Compiling one
normalises its nodes, bounds their number and their edges, and orders them so that every node comes
after the nodes it depends on. The checks of texts and of value schemas reject more sources and
change nothing in the graph; they are left out here.
-/

namespace Crewon.Domain

open Crewon.Js Crewon.Checked Crewon.Lib

/-- What a node does. -/
inductive WorkflowNodeWork where
  | agent (agentVersionId : JsString)
  | humanGate (approvalPolicyId : JsString)
  | verification (verifierAgentVersionId : JsString)
deriving DecidableEq

/-- One node of a workflow. -/
structure WorkflowNodeDefinition where
  nodeId : JsString
  dependsOn : List JsString
  work : WorkflowNodeWork
deriving DecidableEq

/-- The source of a workflow version. -/
structure WorkflowVersionSource where
  workflowId : JsString
  workflowVersionId : JsString
  entryNodeIds : List JsString
  outputNodeIds : List JsString
  nodes : List WorkflowNodeDefinition
deriving DecidableEq

/-- A compiled workflow version. -/
structure CompiledWorkflowVersion where
  contentDigest : JsString
  workflowId : JsString
  workflowVersionId : JsString
  entryNodeIds : List JsString
  outputNodeIds : List JsString
  nodes : List WorkflowNodeDefinition
  executionOrder : List JsString
deriving DecidableEq

/-- The most nodes of a workflow. -/
def maxWorkflowNodes : Nat := 64

/-- The most edges of a workflow. -/
def maxWorkflowEdges : Nat := 256

/-- A rejection of a workflow version. -/
def workflowVersionError (code : String) : Failure := ⟨.workflowVersion, code⟩

/-- The pattern `^[A-Za-z0-9][A-Za-z0-9_-]*$`. -/
def isNodeId (text : JsString) : Bool :=
  match text.units with
  | [] => false
  | first :: rest => isAlphanumeric first && rest.all fun point =>
      isAlphanumeric point || point == unit '_' || point == unit '-'

/-- The id of a node, of at most 128 bytes. -/
def requireNodeId (value : JsString) (code : String) : Checked Unit :=
  rejectIf (value.fitsBytes 128 = false ∨ isNodeId value = false) (workflowVersionError code)

/-- Texts in the order of their units. -/
def sortTexts (texts : List JsString) : List JsString :=
  texts.insertionSort fun left right => right.before left = false

/-- A set of node ids, in order. -/
def normalizeNodeIdSet (input : List JsString) (code : String) (allowEmpty : Bool) :
    Checked (List JsString) := do
  rejectIf ((allowEmpty = false ∧ input = []) ∨ maxWorkflowNodes < input.length)
    (workflowVersionError code)
  forEach input fun value => requireNodeId value code
  if input.Nodup then .ok (sortTexts input) else .error (workflowVersionError code)

/-- The checks of the id that a node names its work by. -/
def normalizeWork : WorkflowNodeWork → Checked WorkflowNodeWork
  | .agent agentVersionId => do
    let id ← parseWorkflowVersionIdentityId agentVersionId "workflow_agent_version_id_invalid"
    return .agent id
  | .humanGate approvalPolicyId => do
    let id ← parseWorkflowVersionIdentityId approvalPolicyId "workflow_approval_policy_id_invalid"
    return .humanGate id
  | .verification verifierAgentVersionId => do
    let id ← parseWorkflowVersionIdentityId verifierAgentVersionId
      "workflow_verifier_agent_version_id_invalid"
    return .verification id

/-- A node with its dependencies in order. -/
def normalizeNode (node : WorkflowNodeDefinition) : Checked WorkflowNodeDefinition := do
  requireNodeId node.nodeId "workflow_node_id_invalid"
  let dependsOn ← normalizeNodeIdSet node.dependsOn "workflow_dependencies_invalid" true
  rejectIf (node.nodeId ∈ dependsOn) (workflowVersionError "workflow_self_dependency")
  let work ← normalizeWork node.work
  return ⟨node.nodeId, dependsOn, work⟩

/-- Normalise every node in turn. -/
def normalizeNodes : List WorkflowNodeDefinition → Checked (List WorkflowNodeDefinition)
  | [] => .ok []
  | node :: rest => do
    let normal ← normalizeNode node
    let others ← normalizeNodes rest
    return normal :: others

/-- Nodes in the order of their ids. -/
def sortNodes (nodes : List WorkflowNodeDefinition) : List WorkflowNodeDefinition :=
  nodes.insertionSort fun left right => right.nodeId.before left.nodeId = false

/-- Insert a text in front of the first one after it. -/
def insertSorted (value : JsString) : List JsString → List JsString
  | [] => [value]
  | candidate :: rest =>
    if value.before candidate then value :: candidate :: rest
    else candidate :: insertSorted value rest

/-- The node with an id. -/
def findNode (nodes : List WorkflowNodeDefinition) (nodeId : JsString) :
    Option WorkflowNodeDefinition :=
  nodes.find? fun node => node.nodeId = nodeId

/-- The dependencies of the node with an id. -/
def dependenciesOf (nodes : List WorkflowNodeDefinition) (nodeId : JsString) : List JsString :=
  ((findNode nodes nodeId).map (·.dependsOn)).getD []

/-- The ids of the nodes that depend on an id, in order. -/
def dependentsOf (nodes : List WorkflowNodeDefinition) (nodeId : JsString) : List JsString :=
  sortTexts ((nodes.filter fun node => nodeId ∈ node.dependsOn).map (·.nodeId))

/-- The checks of the dependencies of one node. -/
def validateDependencies (nodes : List WorkflowNodeDefinition) (node : WorkflowNodeDefinition) :
    Checked Unit := do
  rejectIf (¬ node.dependsOn.Nodup) (workflowVersionError "workflow_dependencies_invalid")
  rejectIf (∃ dependency ∈ node.dependsOn, dependency ∉ nodes.map (·.nodeId))
    (workflowVersionError "workflow_dependency_not_found")
  match node.work with
  | .verification _ =>
    rejectIf (node.dependsOn = []) (workflowVersionError "workflow_verification_dependency_invalid")
  | _ => .ok ()

/-- The agent versions among the ancestors of each node, in execution order: none verifies its own
work. -/
def validateIndependentVerifiers (ancestorAgents : JsString → List JsString) :
    List WorkflowNodeDefinition → Checked Unit
  | [] => .ok ()
  | node :: rest => do
    let agents := node.dependsOn.flatMap ancestorAgents
    match node.work with
    | .agent agentVersionId =>
      validateIndependentVerifiers
        (Function.update ancestorAgents node.nodeId (agentVersionId :: agents)) rest
    | .humanGate _ =>
      validateIndependentVerifiers (Function.update ancestorAgents node.nodeId agents) rest
    | .verification verifierAgentVersionId => do
      rejectIf (verifierAgentVersionId ∈ agents)
        (workflowVersionError "workflow_verifier_not_independent")
      validateIndependentVerifiers
        (Function.update ancestorAgents node.nodeId (verifierAgentVersionId :: agents)) rest

/-- The ids of the nodes without dependencies, in order. -/
def rootIds (nodes : List WorkflowNodeDefinition) : List JsString :=
  sortTexts ((nodes.filter fun node => node.dependsOn.length = 0).map (·.nodeId))

/-- The ids of the nodes without dependents, in order. -/
def terminalIds (nodes : List WorkflowNodeDefinition) : List JsString :=
  sortTexts ((nodes.filter fun node => (dependentsOf nodes node.nodeId).length = 0).map
    (·.nodeId))

/-- The ids of nodes that are emitted one by one, each once its dependencies are. -/
def executionOrderOf (nodes : List WorkflowNodeDefinition) : List JsString :=
  (TopologicalOrder.drain insertSorted (dependentsOf nodes) nodes.length
    { order := []
      ready := rootIds nodes
      indegree := fun nodeId => (dependenciesOf nodes nodeId).length }).order

/-- The node with an id verifies. -/
def isVerification (nodes : List WorkflowNodeDefinition) (nodeId : JsString) : Bool :=
  match findNode nodes nodeId with
  | some ⟨_, _, .verification _⟩ => true
  | _ => false

/-- The checks of the graph, and its execution order. -/
def validateWorkflowGraph (nodes : List WorkflowNodeDefinition)
    (entryNodeIds outputNodeIds : List JsString) : Checked (List JsString) := do
  rejectIf (¬ (nodes.map (·.nodeId)).Nodup) (workflowVersionError "workflow_node_id_conflict")
  rejectIf ((∃ nodeId ∈ entryNodeIds, nodeId ∉ nodes.map (·.nodeId)) ∨
      ∃ nodeId ∈ outputNodeIds, nodeId ∉ nodes.map (·.nodeId))
    (workflowVersionError "workflow_boundary_node_not_found")
  forEach nodes (validateDependencies nodes)
  let order := executionOrderOf nodes
  rejectIf (order.length ≠ nodes.length) (workflowVersionError "workflow_graph_cycle")
  validateIndependentVerifiers (fun _ => []) (order.filterMap (findNode nodes))
  rejectIf (rootIds nodes ≠ entryNodeIds) (workflowVersionError "workflow_entry_nodes_invalid")
  rejectIf (terminalIds nodes ≠ outputNodeIds) (workflowVersionError "workflow_output_nodes_invalid")
  if outputNodeIds.all (isVerification nodes) then .ok order
  else .error (workflowVersionError "workflow_output_verification_required")

/-- Compile a workflow version. The digest is that of the whole normalised source. -/
def compileWorkflowVersion (digest : WorkflowVersionSource → JsString)
    (source : WorkflowVersionSource) (expectedDigest : Option JsString) :
    Checked CompiledWorkflowVersion := do
  let workflowId ← parseWorkflowVersionIdentityId source.workflowId "workflow_id_invalid"
  let workflowVersionId ←
    parseWorkflowVersionIdentityId source.workflowVersionId "workflow_version_id_invalid"
  rejectIf (source.nodes.length = 0 ∨ maxWorkflowNodes < source.nodes.length)
    (workflowVersionError "workflow_nodes_invalid")
  let normal ← normalizeNodes source.nodes
  let nodes := sortNodes normal
  rejectIf (¬ (nodes.map (·.nodeId)).Nodup) (workflowVersionError "workflow_node_id_conflict")
  rejectIf (maxWorkflowEdges < (nodes.map (·.dependsOn.length)).sum)
    (workflowVersionError "workflow_edges_limit_exceeded")
  let entryNodeIds ← normalizeNodeIdSet source.entryNodeIds "workflow_entry_nodes_invalid" false
  let outputNodeIds ← normalizeNodeIdSet source.outputNodeIds "workflow_output_nodes_invalid" false
  let executionOrder ← validateWorkflowGraph nodes entryNodeIds outputNodeIds
  let contentDigest := digest ⟨workflowId, workflowVersionId, entryNodeIds, outputNodeIds, nodes⟩
  rejectIf (isDigest contentDigest = false) (workflowVersionError "workflow_digest_invalid")
  whenPresent expectedDigest fun expected => do
    rejectIf (isDigest expected = false) (workflowVersionError "workflow_expected_digest_invalid")
    rejectIf (expected ≠ contentDigest) (workflowVersionError "workflow_digest_mismatch")
  return {
    contentDigest := contentDigest
    workflowId := workflowId
    workflowVersionId := workflowVersionId
    entryNodeIds := entryNodeIds
    outputNodeIds := outputNodeIds
    nodes := nodes
    executionOrder := executionOrder }

end Crewon.Domain
