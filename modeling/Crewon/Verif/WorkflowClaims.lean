import Crewon.Application.WorkflowExecutionCalls
import Crewon.Verif.WorkflowProgress

/-!
# Claims across workers

However the turns of any number of calls are interleaved, the store takes the changes in one order,
each computed from the state it replaces. A node is claimed once at most, after everything it depends
on is completed, and never after a cancellation. A claim that is repeated reports what it claimed.
-/

namespace Crewon.Verif.WorkflowClaims

open Crewon.Js Crewon.Checked Crewon.Lib Crewon.Domain Crewon.Store Crewon.Application
open Crewon.Verif.WorkflowGraph Crewon.Verif.WorkflowExecution Crewon.Verif.WorkflowAcceptance
open Crewon.Verif.WorkflowProgress

/-- The claims are those of the nodes that are ready, in turn. -/
theorem claimNodes_ids (workflow : CompiledWorkflowVersion) (input : ClaimInput)
    (recovered : List WorkflowExecutionNodeState) (ready : List JsString) (drawn : Nat)
    (nodes : List WorkflowExecutionNodeState) :
    (claimNodes workflow input recovered ready drawn nodes).2.map (·.node.nodeId) =
      (nodes.map (·.nodeId)).filter fun nodeId =>
        nodeId ∈ ready ∧ (findNode workflow.nodes nodeId).isSome = true := by
  induction nodes generalizing drawn with
  | nil => rfl
  | cons node rest hypothesis =>
    rw [claimNodes]
    split
    case h_1 skipped =>
      have out : ¬ (node.nodeId ∈ ready ∧ (findNode workflow.nodes node.nodeId).isSome = true) := by
        rintro ⟨listed, found⟩
        rw [if_pos listed] at skipped
        simp [skipped] at found
      rw [List.map_cons, List.filter_cons_of_neg (by simpa using out)]
      exact hypothesis drawn
    case h_2 definition chosen =>
      split at chosen
      case isFalse => simp at chosen
      case isTrue listed =>
        rw [List.map_cons, List.map_cons, List.filter_cons_of_pos (by simp [listed, chosen]),
          hypothesis]
        congr 1
        exact (findNode_eq_some chosen).2

/-- No more nodes are claimed than are ready. -/
theorem claimNodes_length {workflow : CompiledWorkflowVersion} {input : ClaimInput}
    {recovered nodes : List WorkflowExecutionNodeState} {ready : List JsString} {drawn : Nat}
    (distinct : (nodes.map (·.nodeId)).Nodup) :
    (claimNodes workflow input recovered ready drawn nodes).2.length ≤ ready.length := by
  have ids := claimNodes_ids workflow input recovered ready drawn nodes
  have nodup : ((claimNodes workflow input recovered ready drawn nodes).2.map
      (·.node.nodeId)).Nodup := ids ▸ distinct.filter _
  have subset : (claimNodes workflow input recovered ready drawn nodes).2.map (·.node.nodeId) ⊆
      ready := by
    intro nodeId member
    rw [ids] at member
    have kept := (List.mem_filter.mp member).2
    exact (of_decide_eq_true kept).1
  have bound := (nodup.subperm subset).length_le
  rwa [List.length_map] at bound

/-- The state that the claims leave records them, unless a node already named the operation. -/
theorem claimsFromNodes_claimNodes {workflow : CompiledWorkflowVersion} {input : ClaimInput}
    {recovered nodes : List WorkflowExecutionNodeState} {ready : List JsString} (drawn : Nat)
    (fresh : ∀ node ∈ nodes, heldByOperation input.operationId node = false) :
    claimsFromNodes workflow ((claimNodes workflow input recovered ready drawn nodes).1.filter
        (heldByOperation input.operationId)) =
      .ok (claimNodes workflow input recovered ready drawn nodes).2 := by
  induction nodes generalizing drawn with
  | nil => rfl
  | cons node rest hypothesis =>
    have others (drawn : Nat) := hypothesis drawn fun other member => fresh other (List.mem_cons_of_mem _ member)
    have first := fresh node List.mem_cons_self
    rw [claimNodes]
    split
    case h_1 =>
      rw [List.filter_cons_of_neg (by simp [first])]
      exact others drawn
    case h_2 definition chosen =>
      split at chosen
      case isFalse => simp at chosen
      case isTrue listed =>
        have held : heldByOperation input.operationId
            (claimedNode input node (claimOf input recovered drawn node definition)) = true := by
          by_cases gate : nodeKind definition.work = .humanGate <;>
            simp [heldByOperation, claimedNode, claimOf, gate]
        have recorded : claimFromState workflow
            (claimedNode input node (claimOf input recovered drawn node definition)) =
              .ok (claimOf input recovered drawn node definition) := by
          simp [claimFromState, claimedNode, claimOf, chosen]
        rw [List.filter_cons_of_pos held, claimsFromNodes, recorded, ok_bind, others, ok_bind]
        rfl

/-- The ids of the nodes that were claimed between two states. -/
def claimedIds (before after : List WorkflowExecutionNodeState) : List JsString :=
  ((before.zip after).filter fun pair => pair.1.status = .pending && pair.2.isActive).map
    (·.1.nodeId)

/-- The claims are those of the nodes that the state shows as claimed. -/
theorem claimNodes_claimedIds {workflow : CompiledWorkflowVersion} {input : ClaimInput}
    {recovered nodes : List WorkflowExecutionNodeState} {ready : List JsString} (drawn : Nat)
    (recover : WorkflowExecutionNodeState → WorkflowExecutionNodeState)
    (keeps : ∀ node, (recover node).nodeId = node.nodeId)
    (idle : ∀ node ∈ nodes, node.status = .pending → recover node = node)
    (pending : ∀ node ∈ nodes, node.nodeId ∈ ready → node.status = .pending) :
    claimedIds nodes (claimNodes workflow input recovered ready drawn (nodes.map recover)).1 =
      (claimNodes workflow input recovered ready drawn (nodes.map recover)).2.map
        (·.node.nodeId) := by
  induction nodes generalizing drawn with
  | nil => rfl
  | cons node rest hypothesis =>
    have others (drawn : Nat) := hypothesis drawn (fun other member => idle other (List.mem_cons_of_mem _ member))
      (fun other member => pending other (List.mem_cons_of_mem _ member))
    rw [List.map_cons, claimNodes]
    split
    case h_1 =>
      have out : (decide (node.status = .pending) && (recover node).isActive) = false := by
        by_cases waits : node.status = .pending
        · simp [idle node List.mem_cons_self waits, waits, WorkflowExecutionNodeState.isActive]
        · simp [waits]
      show claimedIds (node :: rest) (recover node :: _) = _
      rw [claimedIds, List.zip_cons_cons, List.filter_cons_of_neg (by simp [out])]
      exact others drawn
    case h_2 definition chosen =>
      split at chosen
      case isFalse => simp at chosen
      case isTrue listed =>
        have waits := pending node List.mem_cons_self (keeps node ▸ listed)
        have same := idle node List.mem_cons_self waits
        have active : (claimedNode input (recover node)
            (claimOf input recovered drawn (recover node) definition)).isActive = true := by
          by_cases gate : nodeKind definition.work = .humanGate <;>
            simp [WorkflowExecutionNodeState.isActive, claimedNode, claimOf, gate]
        show claimedIds (node :: rest) (claimedNode input (recover node)
          (claimOf input recovered drawn (recover node) definition) :: _) = _
        rw [claimedIds, List.zip_cons_cons, List.filter_cons_of_pos (by simp [waits, active]),
          List.map_cons, List.map_cons]
        congr 1
        · rw [← keeps node]
          exact (findNode_eq_some chosen).2.symm
        · exact others _

/-- Every claim names the definition of its node. -/
theorem claimNodes_defined {workflow : CompiledWorkflowVersion} {input : ClaimInput}
    {recovered nodes : List WorkflowExecutionNodeState} {ready : List JsString} (drawn : Nat)
    {claim : WorkflowNodeClaim}
    (member : claim ∈ (claimNodes workflow input recovered ready drawn nodes).2) :
    findNode workflow.nodes claim.node.nodeId = some claim.node := by
  induction nodes generalizing drawn with
  | nil => simp [claimNodes] at member
  | cons node rest hypothesis =>
    rw [claimNodes] at member
    split at member
    case h_1 => exact hypothesis drawn member
    case h_2 definition chosen =>
      split at chosen
      case isFalse => simp at chosen
      case isTrue listed =>
        cases List.mem_cons.mp member with
        | inl same =>
          have named : claim.node = definition := congrArg WorkflowNodeClaim.node same
          rw [named, (findNode_eq_some chosen).2]
          exact chosen
        | inr later => exact hypothesis _ later

/-- A plan claims at most as many nodes as it may. -/
theorem planWorkflowNodeClaims_length {current : WorkflowExecutionState}
    {workflow : CompiledWorkflowVersion} (input : ClaimInput)
    (distinct : (current.nodes.map (·.nodeId)).Nodup) :
    (planWorkflowNodeClaims current workflow input).2.length ≤ input.maximumClaims := by
  cases plan : planWorkflowNodeClaims current workflow input with
  | mk proposed claims =>
    cases proposed with
    | none => simp [planWorkflowNodeClaims_eq_none plan]
    | some next =>
      rw [(planWorkflowNodeClaims_eq_some plan).2]
      have recovered : ((recoveredNodes input current).map (·.nodeId)).Nodup :=
        recoveredNodes_ids input current ▸ distinct
      exact (claimNodes_length recovered).trans (List.length_take_le _ _)

/-- What the claims of an operation are. -/
structure ClaimsOf (run : WorkflowRun) (operationId : JsString)
    (current next : WorkflowExecutionState) (claims : List WorkflowNodeClaim) : Prop where
  /-- Every claimed node was claimable. -/
  claimable : ∀ claim ∈ claims, ∃ node, Claimable run.workflow current.nodes node claim.node
  /-- They are no more than the workflow has nodes. -/
  length : claims.length ≤ run.workflow.nodes.length
  /-- They are what the state shows as claimed. -/
  shown : claimedIds current.nodes next.nodes = claims.map (·.node.nodeId)
  /-- The state records them. -/
  recorded : claimsFromReceipt run.workflow next operationId = .ok claims

/-- The claims that are planned are recorded, unless a node already named the operation. -/
theorem planClaimReady_claims {run : WorkflowRun} {environment : CallEnvironment}
    {operationId : JsString} {duration : Int} {current next : WorkflowExecutionState}
    {claims : List WorkflowNodeClaim} (distinct : (current.nodes.map (·.nodeId)).Nodup)
    (fresh : ∀ node ∈ current.nodes, node.claimOperationId ≠ some operationId)
    (planned : planClaimReady run environment operationId duration current =
      .ok (.swap next claims)) : ClaimsOf run operationId current next claims := by
  obtain ⟨_, _, expiresAt, _, planned⟩ := planClaimReady_eq_swap planned
  have length : (planWorkflowNodeClaims current run.workflow
      (claimInput run environment operationId expiresAt)).2.length ≤
        (claimInput run environment operationId expiresAt).maximumClaims :=
    planWorkflowNodeClaims_length (claimInput run environment operationId expiresAt) distinct
  rw [planned] at length
  set input := claimInput run environment operationId expiresAt
  obtain ⟨rfl, rfl⟩ := planWorkflowNodeClaims_eq_some planned
  have ready (node : WorkflowExecutionNodeState) (member : node ∈ current.nodes)
      (listed : node.nodeId ∈ readyIds run.workflow (recoveredNodes input current)
        input.maximumClaims) :
      ∃ definition, Claimable run.workflow current.nodes node definition :=
    claimable_of_mem_readyIds distinct member listed
  have named : ∀ node, (recoverNode input.now input.lostClaimIds input.delegatedClaimIds node).nodeId
      = node.nodeId := fun node =>
    congrArg Prod.fst (nodeIdentity_recoverNode input.now input.lostClaimIds
      input.delegatedClaimIds node)
  refine ⟨?_, length, ?_, ?_⟩
  · intro claim member
    have id : claim.node.nodeId ∈ (readyClaims run.workflow input current).2.map (·.node.nodeId) :=
      List.mem_map_of_mem member
    rw [readyClaims, claimNodes_ids, recoveredNodes_ids, List.mem_filter] at id
    obtain ⟨node, listed, same⟩ := List.mem_map.mp id.1
    have chosen := (of_decide_eq_true id.2).1
    rw [← same] at chosen
    obtain ⟨definition, claimable⟩ := ready node listed chosen
    have defined := claimNodes_defined 0 member
    rw [← same, claimable.defined] at defined
    exact ⟨node, Option.some.inj defined ▸ claimable⟩
  · refine claimNodes_claimedIds 0 _ named (fun node _ waits => ?_) fun node member listed => ?_
    · obtain kept | ⟨running, _⟩ :=
        recoverNode_cases input.now input.lostClaimIds input.delegatedClaimIds node
      · exact kept
      · exact absurd (running.symm.trans waits) (by decide)
    · obtain ⟨_, claimable⟩ := ready node member listed
      exact claimable.pending
  · show claimsFromNodes run.workflow ((readyClaims run.workflow input current).1.filter
      (heldByOperation input.operationId)) = _
    refine claimsFromNodes_claimNodes 0 fun node member => ?_
    obtain ⟨origin, listed, rfl⟩ := List.mem_map.mp member
    have unnamed := fresh origin listed
    have kept : (recoverNode input.now input.lostClaimIds input.delegatedClaimIds
        origin).claimOperationId = origin.claimOperationId := by
      unfold recoverNode
      split <;> rfl
    rw [heldByOperation, kept]
    show (_ && decide (origin.claimOperationId = some operationId)) = false
    rw [decide_eq_false unnamed, Bool.and_false]

/-- A node that is pending after a change was pending before. -/
theorem nodeChange_pending {run : WorkflowRun} {environment : CallEnvironment}
    {call : WorkflowCall} {current : WorkflowExecutionState}
    {before after : WorkflowExecutionNodeState}
    (change : NodeChange run environment call current before after)
    (pending : after.status = .pending) : before.status = .pending := by
  cases change with
  | kept => exact pending
  | lost => simp at pending
  | claimed =>
    simp only [claimedNode] at pending
    split at pending <;> simp at pending
  | settled _ outcome => cases outcome <;> simp [settledNode, WorkflowNodeOutcome.status] at pending
  | canceled => simp at pending

/-- A node names the operation of the call that changed it, or the one it named before. -/
theorem nodeChange_claimOperationId {run : WorkflowRun} {environment : CallEnvironment}
    {call : WorkflowCall} {current : WorkflowExecutionState}
    {before after : WorkflowExecutionNodeState}
    (change : NodeChange run environment call current before after) :
    after.claimOperationId = some call.operationId ∨
      after.claimOperationId = before.claimOperationId := by
  cases change with
  | claimed => exact .inl rfl
  | _ => exact .inr rfl

/-- Only a claim operation claims nodes. -/
theorem nodeChange_unclaimed {run : WorkflowRun} {environment : CallEnvironment}
    {call : WorkflowCall} {current : WorkflowExecutionState}
    {before after : WorkflowExecutionNodeState}
    (change : NodeChange run environment call current before after)
    (other : ∀ duration, call.operation ≠ .claimReady duration) (pending : before.status = .pending) :
    after.isActive = false := by
  cases change with
  | kept => simp [WorkflowExecutionNodeState.isActive, pending]
  | lost duration claims => exact absurd claims (other duration)
  | claimed duration _ _ _ _ claims => exact absurd claims (other duration)
  | settled _ _ _ _ active => simp [WorkflowExecutionNodeState.isActive, pending] at active
  | canceled => simp [WorkflowExecutionNodeState.isActive]

/-- Settlements and cancellations plan no claims. -/
theorem planCall_claims {run : WorkflowRun} {environment : CallEnvironment} {call : WorkflowCall}
    {current next : WorkflowExecutionState} {claims : List WorkflowNodeClaim}
    (other : ∀ duration, call.operation ≠ .claimReady duration)
    (planned : planCall run environment call current = .ok (.swap next claims)) : claims = [] := by
  cases asked : call.operation with
  | claimReady duration => exact absurd asked (other duration)
  | settleNode nodeId claimId outcome =>
    simp only [planCall, asked, planSettleNode, bind_eq_ok, exists_unit, pure_eq_ok,
      WorkflowPlan.swap.injEq] at planned
    obtain ⟨_, _, _, _, _, none⟩ := planned
    exact none.symm
  | requestCancel =>
    simp only [planCall, asked, planRequestCancel, Except.ok.injEq] at planned
    split at planned
    case isTrue => simp at planned
    case isFalse => exact (WorkflowPlan.swap.inj planned).2.symm

/-- What the claims of a change are, whatever the call. -/
structure ClaimsKept (run : WorkflowRun) (call : WorkflowCall)
    (current next : WorkflowExecutionState) (claims : List WorkflowNodeClaim) : Prop where
  claimable : ∀ claim ∈ claims, ∃ node, Claimable run.workflow current.nodes node claim.node
  length : claims.length ≤ run.workflow.nodes.length
  shown : claimedIds current.nodes next.nodes = claims.map (·.node.nodeId)
  going : current.cancelRequested = true → claims = []

/-- The claims of a planned change are safe, unless a node already named the operation. -/
theorem planCall_claimsKept {run : WorkflowRun} {environment : CallEnvironment}
    {call : WorkflowCall} {current next : WorkflowExecutionState} {claims : List WorkflowNodeClaim}
    (distinct : (current.nodes.map (·.nodeId)).Nodup)
    (fresh : ∀ node ∈ current.nodes, node.claimOperationId ≠ some call.operationId)
    (planned : planCall run environment call current = .ok (.swap next claims)) :
    ClaimsKept run call current next claims := by
  by_cases claiming : ∃ duration, call.operation = .claimReady duration
  · obtain ⟨duration, asked⟩ := claiming
    simp only [planCall, asked] at planned
    have made := planClaimReady_claims distinct fresh planned
    have going := (planClaimReady_eq_swap planned).1
    refine ⟨made.claimable, made.length, made.shown, fun requested => ?_⟩
    exact absurd (requested.symm.trans going) (by decide)
  · have other : ∀ duration, call.operation ≠ .claimReady duration := not_exists.mp claiming
    obtain rfl := planCall_claims other planned
    refine ⟨by simp, by simp, ?_, fun _ => rfl⟩
    have changes := (planCall_proposes distinct planned).changes
    simp only [claimedIds, List.map_nil, List.map_eq_nil_iff, List.filter_eq_nil_iff]
    intro pair member claimed
    simp only [Bool.and_eq_true, decide_eq_true_eq] at claimed
    have idle := nodeChange_unclaimed (List.forall₂_zip changes member) other claimed.1
    exact absurd (claimed.2.symm.trans idle) (by decide)

/-- A stored state that is read is the one that is stored. -/
theorem decodeState_eq_ok {state decoded : WorkflowExecutionState}
    (read : decodeState state = .ok decoded) : decoded = state ∧ validateState state = .ok () := by
  simp only [decodeState, bind_eq_ok, exists_unit, pure_eq_ok] at read
  exact ⟨read.2.symm, read.1⟩

/-- A change that the store took was computed from the state it replaced, under an operation without
a receipt. -/
theorem compareAndSwap_committed {input : WorkflowExecutionSwap} {row after : WorkflowExecutionRow}
    {state : WorkflowExecutionState}
    (ran : (compareAndSwapWorkflowExecution input).run row = (.ok (.committed, state), after)) :
    (∃ current, row.state = some current ∧ current.revision = input.expectedRevision ∧
        Accepted current input.next) ∧
      row.receipts.find input.operationId = none ∧ state = input.next ∧
      after = swappedRow input row := by
  simp only [compareAndSwapWorkflowExecution, Program.run_check_bind_eq_ok,
    Program.run_read_bind] at ran
  obtain ⟨_, validated, ran⟩ := ran
  simp only [validateCas, bind_eq_ok, exists_unit] at validated
  split at ran
  case h_1 receipt replayed => simp at ran
  case h_2 unknown =>
    simp only [Program.run_read_bind] at ran
    split at ran
    case h_1 => simp at ran
    case h_2 stored found =>
      rw [Program.run_check_bind_eq_ok] at ran
      obtain ⟨current, decoded, ran⟩ := ran
      obtain ⟨rfl, _⟩ := decodeState_eq_ok decoded
      split at ran
      case isTrue => simp at ran
      case isFalse same =>
        simp only [Program.run_check_bind_eq_ok, Program.run_update_bind, Program.run_pure] at ran
        obtain ⟨_, moved, done⟩ := ran
        simp only [Prod.mk.injEq, Except.ok.injEq, true_and] at done
        exact ⟨⟨current, found, not_not.mp same, validated.2.1, moved⟩, unknown, done.1.symm,
          done.2.symm⟩

/-- A change that the store did not take left everything as it was. -/
theorem compareAndSwap_row (input : WorkflowExecutionSwap) (row : WorkflowExecutionRow) :
    ((compareAndSwapWorkflowExecution input).run row).2 = row ∨
      ∃ state after,
        (compareAndSwapWorkflowExecution input).run row = (.ok (.committed, state), after) := by
  unfold compareAndSwapWorkflowExecution
  cases validateCas input with
  | error => exact .inl rfl
  | ok =>
    simp only [Program.run_check_ok_bind, Program.run_read_bind]
    split
    case h_1 receipt replayed =>
      left
      refine (Program.readOnly_check _).bind (fun _ => ?_) row
      exact (Program.readOnly_check _).bind fun _ => Program.readOnly_pure _
    case h_2 =>
      simp only [Program.run_read_bind]
      split
      case h_1 => exact .inl rfl
      case h_2 stored _ =>
        cases decodeState stored with
        | error => exact .inl rfl
        | ok current =>
          rw [Program.run_check_ok_bind]
          split
          case isTrue => exact .inl rfl
          case isFalse =>
            cases assertTransition current input.next with
            | error => exact .inl rfl
            | ok => exact .inr ⟨_, _, rfl⟩

/-- A change that the store took. -/
structure Commit where
  /-- The call that made it. -/
  caller : Nat
  call : WorkflowCall
  /-- The state it replaced. -/
  before : WorkflowExecutionState
  next : WorkflowExecutionState
  claims : List WorkflowNodeClaim
deriving DecidableEq

/-- The change that the store takes in an event. -/
def commitOf (run : WorkflowRun) (system : WorkflowSystem) : WorkflowEvent → Option Commit
  | .begin _ => none
  | .advance index _ =>
    match system.calls[index]?, system.row.state with
    | some (call, .planned _ current next claims fingerprint), some before =>
      match ((compareAndSwapWorkflowExecution
        (swapOf run call current next fingerprint)).run system.row).1 with
      | .ok (.committed, _) => some ⟨index, call, before, next, claims⟩
      | _ => none
    | _, _ => none

/-- The events of a run of the system, with the changes that the store took. -/
inductive Execution (run : WorkflowRun) (start : WorkflowExecutionState) :
    List Commit → WorkflowSystem → Prop where
  | start : Execution run start [] ⟨⟨some start, OrderedMap.empty⟩, []⟩
  | step (commits : List Commit) (system : WorkflowSystem) (event : WorkflowEvent)
      (earlier : Execution run start commits system) :
      Execution run start (commits ++ (commitOf run system event).toList) (system.step run event)

/-- The call passes the checks that come before the store. -/
def Looked (run : WorkflowRun) (call : WorkflowCall) : Prop :=
  checkCall run call = .ok () ∧
    validateReceiptLocator run.tenantId run.runId call.operationId = .ok ()

/-- What a call that looked for its receipt holds, and one that is about to swap. -/
def PhaseHeld (run : WorkflowRun) (row : WorkflowExecutionRow) (call : WorkflowCall) :
    CallPhase → Prop
  | .searching _ => Looked run call
  | .planned _ current next claims fingerprint =>
    Looked run call ∧
    -- no two states of a run have one revision
    (∃ stored, row.state = some stored ∧ current.revision ≤ stored.revision ∧
      (current.revision = stored.revision → current = stored)) ∧
    assertBinding run call.binding current = .ok () ∧
    operationFingerprint run call current.revision = .ok fingerprint ∧
    ∃ environment, planCall run environment call current = .ok (.swap next claims)
  | _ => True

/-- What a change leaves for good. -/
structure CommitHeld (run : WorkflowRun) (row : WorkflowExecutionRow) (commit : Commit) : Prop where
  kept : ClaimsKept run commit.call commit.before commit.next commit.claims
  looked : Looked run commit.call
  receipt : ∃ fingerprint,
    row.receipts.find commit.call.operationId = some ⟨fingerprint, commit.next⟩ ∧
      operationFingerprint run commit.call (commit.next.revision - 1) = .ok fingerprint
  validated : validateState commit.next = .ok ()
  bound : assertBinding run commit.call.binding commit.next = .ok ()
  recorded : ∀ duration, commit.call.operation = .claimReady duration →
    claimsFromReceipt run.workflow commit.next commit.call.operationId = .ok commit.claims

/-- What holds of every state of the system. -/
structure Sound (run : WorkflowRun) (start : WorkflowExecutionState) (commits : List Commit)
    (system : WorkflowSystem) : Prop where
  /-- The stored state is one of a run of accepted calls. -/
  stored : ∃ current trace, system.row.state = some current ∧ Steps run start trace current
  phases : ∀ entry ∈ system.calls, PhaseHeld run system.row entry.1 entry.2
  /-- Every operation that a node names has a receipt. -/
  named : ∀ current, system.row.state = some current → ∀ node ∈ current.nodes, ∀ operationId,
    node.claimOperationId = some operationId →
      ∃ receipt, system.row.receipts.find operationId = some receipt
  kept : ∀ commit ∈ commits, CommitHeld run system.row commit
  /-- No node was claimed twice. -/
  once : ((commits.flatMap (·.claims)).map (·.node.nodeId)).Nodup
  /-- No claimed node is pending again. -/
  taken : ∀ current, system.row.state = some current → ∀ claim ∈ commits.flatMap (·.claims),
    ∀ node ∈ current.nodes, node.nodeId = claim.node.nodeId → node.status ≠ .pending
  /-- Every change was returned by the call that made it. -/
  returned : ∀ commit ∈ commits, ∃ state, system.calls[commit.caller]? =
    some (commit.call, .finished (.ok (swapOutcome commit.call commit.claims state)))

/-- A turn that leaves the store alone keeps everything. -/
theorem Sound.turn {run : WorkflowRun} {start : WorkflowExecutionState} {commits : List Commit}
    {system : WorkflowSystem} {index : Nat} {call : WorkflowCall} {phase next : CallPhase}
    (sound : Sound run start commits system) (here : system.calls[index]? = some (call, phase))
    (held : PhaseHeld run system.row call next)
    (final : ∀ result, phase = .finished result → next = .finished result) :
    Sound run start commits { system with calls := system.calls.set index (call, next) } where
  stored := sound.stored
  phases := by
    intro entry member
    cases List.mem_or_eq_of_mem_set member with
    | inl old => exact sound.phases entry old
    | inr new =>
      obtain rfl := new
      exact held
  named := sound.named
  kept := sound.kept
  once := sound.once
  taken := sound.taken
  returned := by
    intro commit member
    obtain ⟨state, finished⟩ := sound.returned commit member
    refine ⟨state, ?_⟩
    show (system.calls.set index (call, next))[commit.caller]? = _
    by_cases same : index = commit.caller
    · rw [same, finished] at here
      obtain ⟨rfl, rfl⟩ := Prod.mk.inj (Option.some.inj here)
      rw [final _ rfl, same, List.getElem?_set_self', finished]
      rfl
    · rw [List.getElem?_set_ne same]
      exact finished

/-- A call that begins keeps everything. -/
theorem Sound.begin {run : WorkflowRun} {start : WorkflowExecutionState} {commits : List Commit}
    {system : WorkflowSystem} (sound : Sound run start commits system) (call : WorkflowCall) :
    Sound run start commits { system with calls := system.calls ++ [(call, .begun)] } where
  stored := sound.stored
  phases := by
    intro entry member
    cases List.mem_append.mp member with
    | inl old => exact sound.phases entry old
    | inr new =>
      obtain rfl := List.mem_singleton.mp new
      trivial
  named := sound.named
  kept := sound.kept
  once := sound.once
  taken := sound.taken
  returned := by
    intro commit member
    obtain ⟨state, finished⟩ := sound.returned commit member
    obtain ⟨inside, _⟩ := List.getElem?_eq_some_iff.mp finished
    exact ⟨state, by rw [List.getElem?_append_left inside, finished]⟩

/-- A state is loaded as it is stored, and only with the binding of the call. -/
theorem loadState_eq_ok {run : WorkflowRun} {binding : FrozenWorkflowVersionBinding}
    {row : WorkflowExecutionRow} {state : WorkflowExecutionState}
    (loaded : loadState run binding row = .ok state) :
    row.state = some state ∧ assertBinding run binding state = .ok () := by
  simp only [loadState, bind_eq_ok, mapError_eq_ok] at loaded
  obtain ⟨stored, read, loaded⟩ := loaded
  cases stored with
  | none => simp at loaded
  | some found =>
    simp only [bind_eq_ok, exists_unit, pure_eq_ok] at loaded
    obtain ⟨bound, rfl⟩ := loaded
    refine ⟨?_, bound⟩
    cases ran : (loadWorkflowExecution run.tenantId run.runId).run row with
    | mk value after =>
      rw [ran] at read
      obtain rfl : value = .ok (some found) := read
      simp only [loadWorkflowExecution, Program.run_check_bind_eq_ok, Program.run_read_bind,
        Program.run_check, Prod.mk.injEq] at ran
      obtain ⟨_, _, decoded, _⟩ := ran
      cases kept : row.state with
      | none => simp [kept, mapPresent] at decoded
      | some stored =>
        rw [kept, mapPresent] at decoded
        cases read : decodeState stored with
        | error => simp [read, Except.map] at decoded
        | ok value =>
          obtain ⟨rfl, _⟩ := decodeState_eq_ok read
          simpa [read, Except.map] using decoded

/-- A call that plans holds what it planned and from what. -/
theorem phaseHeld_search {run : WorkflowRun} {environment : CallEnvironment} {call : WorkflowCall}
    {retry : Nat} {row : WorkflowExecutionRow} (looked : Looked run call) :
    PhaseHeld run row call (searchCall run environment call retry row) := by
  unfold searchCall
  cases turn : planTurn run environment call retry row with
  | error => trivial
  | ok phase =>
    simp only [planTurn, bind_eq_ok] at turn
    obtain ⟨current, loaded, plan, planned, turn⟩ := turn
    obtain ⟨found, bound⟩ := loadState_eq_ok loaded
    cases plan with
    | done outcome =>
      obtain rfl := pure_eq_ok.mp turn
      trivial
    | swap next claims =>
      simp only [bind_eq_ok, pure_eq_ok] at turn
      obtain ⟨fingerprint, printed, rfl⟩ := turn
      exact ⟨looked, ⟨current, found, le_refl _, fun _ => rfl⟩, bound, printed, environment, planned⟩

/-- The binding of a state is that of its successor. -/
theorem assertBinding_succeeds {run : WorkflowRun} {binding : FrozenWorkflowVersionBinding}
    {now : JsString} {current next : WorkflowExecutionState} (succeeds : Succeeds now current next) :
    assertBinding run binding next = assertBinding run binding current := by
  have ids : next.nodes.map (·.nodeId) = current.nodes.map (·.nodeId) := by
    have firsts := congrArg (List.map Prod.fst) succeeds.nodes
    rw [List.map_map, List.map_map] at firsts
    exact firsts.symm
  have lengths : next.nodes.length = current.nodes.length := by
    have counted := congrArg List.length ids
    rwa [List.length_map, List.length_map] at counted
  have order (state : WorkflowExecutionState) :
      (state.nodes.zipIdx.all fun pair =>
        run.workflow.executionOrder[pair.2]? = some pair.1.nodeId) =
      ((state.nodes.map (·.nodeId)).zipIdx.all fun pair =>
        run.workflow.executionOrder[pair.2]? = some pair.1) := by
    rw [List.zipIdx_map, List.all_map]
    rfl
  simp only [assertBinding, succeeds.workflowId, succeeds.workflowVersionId,
    succeeds.contentDigest, lengths, order, ids]

/-- The ids that were claimed are those of distinct nodes. -/
theorem claimedIds_nodup {before after : List WorkflowExecutionNodeState}
    (lengths : before.length = after.length) (distinct : (before.map (·.nodeId)).Nodup) :
    (claimedIds before after).Nodup := by
  have names : (before.zip after).map (·.1.nodeId) = before.map (·.nodeId) := by
    have split : (before.zip after).map (·.1.nodeId) =
        ((before.zip after).map Prod.fst).map (·.nodeId) := (List.map_map).symm
    rw [split, List.map_fst_zip lengths.le]
  rw [← names] at distinct
  exact distinct.sublist ((List.filter_sublist).map _)

/-- A change that the store takes keeps everything. -/
theorem Sound.commit {run : WorkflowRun} {start : WorkflowExecutionState} {commits : List Commit}
    {system : WorkflowSystem} {index retry : Nat} {call : WorkflowCall}
    {current next state : WorkflowExecutionState} {claims : List WorkflowNodeClaim}
    {fingerprint : JsString} {after : WorkflowExecutionRow} (created : Created run start)
    (sound : Sound run start commits system)
    (here : system.calls[index]? = some (call, .planned retry current next claims fingerprint))
    (ran : (compareAndSwapWorkflowExecution (swapOf run call current next fingerprint)).run
      system.row = (.ok (.committed, state), after)) :
    system.row.state = some current ∧ Sound run start
      (commits ++ [⟨index, call, current, next, claims⟩])
      { row := after
        calls := system.calls.set index
          (call, .finished (.ok (swapOutcome call claims state))) } := by
  obtain ⟨⟨before, found, same, accepted⟩, unknown, swapped, rfl⟩ := compareAndSwap_committed ran
  obtain rfl : next = state := swapped.symm
  have member : (call, CallPhase.planned retry current next claims fingerprint) ∈ system.calls :=
    List.mem_of_getElem? here
  obtain ⟨looked, ⟨stored, kept, _, unique⟩, bound, printed, environment, planned⟩ :=
    sound.phases _ member
  obtain rfl := Option.some.inj (found.symm.trans kept)
  obtain rfl := unique same.symm
  obtain ⟨_, trace, reached, steps⟩ := sound.stored
  obtain rfl := Option.some.inj (found.symm.trans reached)
  have valid := steps.valid created
  have distinct := valid.held.distinct
  have fresh : ∀ node ∈ current.nodes, node.claimOperationId ≠ some call.operationId := by
    intro node listed names
    obtain ⟨receipt, kept⟩ := sound.named current found node listed _ names
    exact absurd (unknown.symm.trans kept) (by simp)
  have proposes := planCall_proposes distinct planned
  have claimsKept := planCall_claimsKept distinct fresh planned
  have later : current.revision < next.revision := by
    rw [proposes.succeeds.revision]
    omega
  refine ⟨found, ?_⟩
  exact {
    stored := ⟨next, _, rfl, .step _ _ _ _ steps (.swapped environment next claims planned accepted)⟩
    phases := by
      intro entry listed
      cases List.mem_or_eq_of_mem_set listed with
      | inr new =>
        obtain rfl := new
        trivial
      | inl old =>
        have held := sound.phases entry old
        obtain ⟨other, phase⟩ := entry
        cases phase with
        | planned _ base _ _ _ =>
          obtain ⟨other, ⟨stored, kept, bounded, _⟩, rest⟩ := held
          obtain rfl := Option.some.inj (found.symm.trans kept)
          exact ⟨other, ⟨next, rfl, by omega, fun same => by omega⟩, rest⟩
        | searching => exact held
        | _ => trivial
    named := by
      rintro _ ⟨rfl⟩ node listed operationId names
      show ∃ receipt, (system.row.receipts.set call.operationId _).find operationId = some receipt
      by_cases own : operationId = call.operationId
      · exact ⟨_, by rw [own, OrderedMap.find_set_self]⟩
      · rw [OrderedMap.find_set_of_ne own]
        obtain ⟨origin, before, change⟩ := exists_before proposes.changes listed
        rcases nodeChange_claimOperationId change with made | inherited
        · exact absurd (Option.some.inj (names.symm.trans made)) own
        · exact sound.named current found origin before operationId (inherited ▸ names)
    kept := by
      intro commit listed
      cases List.mem_append.mp listed with
      | inl old =>
        have held := sound.kept commit old
        obtain ⟨printing, kept, printed⟩ := held.receipt
        have other : commit.call.operationId ≠ call.operationId := by
          intro same
          rw [same] at kept
          exact absurd (unknown.symm.trans kept) (by simp)
        exact { held with
          receipt := ⟨printing, (OrderedMap.find_set_of_ne other).trans kept, printed⟩ }
      | inr new =>
        obtain rfl := List.mem_singleton.mp new
        have revision : next.revision - 1 = current.revision := by
          rw [proposes.succeeds.revision]
          omega
        refine ⟨claimsKept, looked, ⟨fingerprint, OrderedMap.find_set_self, ?_⟩, accepted.1, ?_, ?_⟩
        · show operationFingerprint run call (next.revision - 1) = .ok fingerprint
          rw [revision]
          exact printed
        · exact (assertBinding_succeeds proposes.succeeds).trans bound
        · intro duration asked
          have asked : call.operation = .claimReady duration := asked
          have claiming := planned
          simp only [planCall, asked] at claiming
          exact (planClaimReady_claims distinct fresh claiming).recorded
    once := by
      rw [List.flatMap_append, List.map_append, List.flatMap_singleton, ← claimsKept.shown]
      refine List.nodup_append.mpr ⟨sound.once,
        claimedIds_nodup proposes.changes.length_eq distinct, ?_⟩
      rintro nodeId earlier _ again rfl
      obtain ⟨old, taken, rfl⟩ := List.mem_map.mp earlier
      obtain ⟨pair, chosen, named⟩ := List.mem_map.mp again
      obtain ⟨zipped, pending⟩ := List.mem_filter.mp chosen
      have listed : pair.1 ∈ current.nodes := (List.of_mem_zip zipped).1
      simp only [Bool.and_eq_true, decide_eq_true_eq] at pending
      exact sound.taken current found old taken pair.1 listed named pending.1
    taken := by
      rintro _ ⟨rfl⟩ claim listed node member named pending
      obtain ⟨origin, before, change⟩ := exists_before proposes.changes member
      have same : origin.nodeId = node.nodeId := congrArg Prod.fst change.identity
      rw [List.flatMap_append, List.flatMap_singleton] at listed
      cases List.mem_append.mp listed with
      | inl old =>
        exact sound.taken current found claim old origin before (same.trans named)
          (nodeChange_pending change pending)
      | inr new =>
        have shown : claim.node.nodeId ∈ claimedIds current.nodes next.nodes := by
          rw [claimsKept.shown]
          exact List.mem_map_of_mem new
        obtain ⟨pair, chosen, claimed⟩ := List.mem_map.mp shown
        obtain ⟨zipped, active⟩ := List.mem_filter.mp chosen
        have ids : pair.1.nodeId = pair.2.nodeId :=
          congrArg Prod.fst (List.forall₂_zip proposes.changes zipped).identity
        have twin : pair.2 = node := by
          have first := nodeState_of_mem (valid_step valid
            (.swapped environment next claims planned accepted)).held.distinct member
          have second := nodeState_of_mem (valid_step valid
            (.swapped environment next claims planned accepted)).held.distinct
            (List.of_mem_zip zipped).2
          rw [← ids, claimed, ← named] at second
          exact Option.some.inj (second.symm.trans first)
        simp [twin, pending, WorkflowExecutionNodeState.isActive] at active
    returned := by
      intro commit listed
      obtain ⟨inside, _⟩ := List.getElem?_eq_some_iff.mp here
      cases List.mem_append.mp listed with
      | inl old =>
        obtain ⟨state, finished⟩ := sound.returned commit old
        refine ⟨state, ?_⟩
        have other : index ≠ commit.caller := by
          intro same
          rw [same, finished] at here
          simp at here
        rw [List.getElem?_set_ne other]
        exact finished
      | inr new =>
        obtain rfl := List.mem_singleton.mp new
        exact ⟨next, List.getElem?_set_self inside⟩ }

/-- A call that looked for its receipt has not planned anything. -/
theorem phaseHeld_lookUp {run : WorkflowRun} {call : WorkflowCall} {row : WorkflowExecutionRow} :
    PhaseHeld run row call (lookUpCall run call row) := by
  unfold lookUpCall
  split
  case h_1 => trivial
  case h_3 => trivial
  case h_2 found =>
    simp only [findReceipt, bind_eq_ok, exists_unit, mapError_eq_ok] at found
    refine ⟨found.1, ?_⟩
    cases checked : validateReceiptLocator run.tenantId run.runId call.operationId with
    | ok => rfl
    | error failure =>
      have failed := found.2
      rw [loadWorkflowExecutionReceipt, checked, Program.run_check_error_bind] at failed
      simp at failed

/-- A call whose change was not taken has not planned anything. -/
theorem phaseHeld_swap {run : WorkflowRun} {call : WorkflowCall} {retry : Nat}
    {current next : WorkflowExecutionState} {claims : List WorkflowNodeClaim}
    {fingerprint : JsString} {row : WorkflowExecutionRow} (looked : Looked run call) :
    PhaseHeld run row call (swapCall run call retry current next claims fingerprint row).1 := by
  unfold swapCall
  split
  case h_1 => trivial
  case h_3 => trivial
  case h_2 =>
    split
    case isTrue => exact looked
    case isFalse => trivial

/-- A swap keeps everything, whether the store takes the change or not. -/
theorem Sound.swap {run : WorkflowRun} {start : WorkflowExecutionState} {commits : List Commit}
    {system : WorkflowSystem} {index retry : Nat} {call : WorkflowCall}
    {current next : WorkflowExecutionState} {claims : List WorkflowNodeClaim}
    {fingerprint : JsString} (environment : CallEnvironment) (created : Created run start)
    (sound : Sound run start commits system)
    (here : system.calls[index]? = some (call, .planned retry current next claims fingerprint)) :
    Sound run start (commits ++ (commitOf run system (.advance index environment)).toList)
      { row := (swapCall run call retry current next claims fingerprint system.row).2
        calls := system.calls.set index
          (call, (swapCall run call retry current next claims fingerprint system.row).1) } := by
  cases ran : (compareAndSwapWorkflowExecution (swapOf run call current next fingerprint)).run
      system.row with
  | mk outcome after =>
    by_cases taken : ∃ state, outcome = .ok (.committed, state)
    · obtain ⟨state, rfl⟩ := taken
      obtain ⟨found, committed⟩ := sound.commit created here ran
      have recorded : commitOf run system (.advance index environment) =
          some ⟨index, call, current, next, claims⟩ := by
        simp [commitOf, here, found, ran]
      have turned : swapCall run call retry current next claims fingerprint system.row =
          (.finished (.ok (swapOutcome call claims state)), after) := by
        simp [swapCall, ran]
      rw [recorded, turned]
      exact committed
    · have unchanged : after = system.row := by
        obtain same | ⟨state, later, committed⟩ :=
          compareAndSwap_row (swapOf run call current next fingerprint) system.row
        · rw [ran] at same
          exact same
        · rw [ran] at committed
          exact absurd ⟨state, (Prod.mk.inj committed).1⟩ taken
      have nothing : commitOf run system (.advance index environment) = none := by
        simp only [commitOf, here]
        cases system.row.state with
        | none => rfl
        | some before =>
          simp only
          split
          case h_2 => rfl
          case h_1 state committed =>
            rw [ran] at committed
            exact absurd ⟨state, committed⟩ taken
      have row : (swapCall run call retry current next claims fingerprint system.row).2 =
          system.row := by
        rw [swapCall, ran]
        cases outcome with
        | error => exact unchanged
        | ok result =>
          obtain ⟨disposition, state⟩ := result
          cases disposition with
          | conflict =>
            simp only
            split <;> exact unchanged
          | _ => exact unchanged
      have looked : Looked run call := (sound.phases _ (List.mem_of_getElem? here)).1
      rw [nothing, row, Option.toList_none, List.append_nil]
      exact sound.turn here (phaseHeld_swap looked) (by simp)

/-- A call whose operation changed the state before finds the receipt. -/
theorem findReceipt_of_commit {run : WorkflowRun} {row : WorkflowExecutionRow} {commit : Commit}
    (held : CommitHeld run row commit) : ∃ fingerprint,
      findReceipt run commit.call row = .ok (some ⟨fingerprint, commit.next⟩) ∧
        operationFingerprint run commit.call (commit.next.revision - 1) = .ok fingerprint := by
  obtain ⟨fingerprint, found, printed⟩ := held.receipt
  refine ⟨fingerprint, ?_, printed⟩
  have decoded : decodeState commit.next = .ok commit.next := by
    rw [decodeState, held.validated]
    rfl
  rw [findReceipt, held.looked.1, ok_bind, loadWorkflowExecutionReceipt, held.looked.2,
    Program.run_check_ok_bind, Program.run_read_bind, found, Program.run_check, mapPresent, decoded]
  rfl

/-- A claim operation that is called again returns the claims it made, and changes nothing. -/
theorem lookUpCall_of_commit {run : WorkflowRun} {row : WorkflowExecutionRow} {commit : Commit}
    {duration : Int} (held : CommitHeld run row commit)
    (asked : commit.call.operation = .claimReady duration) :
    lookUpCall run commit.call row = .finished (.ok (.claims commit.claims)) := by
  obtain ⟨fingerprint, found, printed⟩ := findReceipt_of_commit held
  have recorded := held.recorded duration asked
  have replayed : replayOutcome run commit.call ⟨fingerprint, commit.next⟩ =
      .ok (.claims commit.claims) := by
    simp only [replayOutcome, printed, ok_bind, held.bound, asked, recorded]
    simp [rejectIf, Except.map]
  simp only [lookUpCall, found, replayed]

/-- Every event keeps everything. -/
theorem Sound.step {run : WorkflowRun} {start : WorkflowExecutionState} {commits : List Commit}
    {system : WorkflowSystem} (event : WorkflowEvent) (created : Created run start)
    (sound : Sound run start commits system) :
    Sound run start (commits ++ (commitOf run system event).toList) (system.step run event) := by
  cases event with
  | begin call =>
    rw [commitOf, Option.toList_none, List.append_nil]
    exact sound.begin call
  | advance index environment =>
    cases here : system.calls[index]? with
    | none =>
      have nothing : commitOf run system (.advance index environment) = none := by
        simp [commitOf, here]
      rw [nothing, Option.toList_none, List.append_nil, WorkflowSystem.step, here]
      exact sound
    | some entry =>
      obtain ⟨call, phase⟩ := entry
      have stepped : system.step run (.advance index environment) =
          { row := (advanceCall run environment call phase system.row).2
            calls := system.calls.set index
              (call, (advanceCall run environment call phase system.row).1) } := by
        rw [WorkflowSystem.step, here]
      rw [stepped]
      cases phase with
      | planned retry current next claims fingerprint => exact sound.swap environment created here
      | begun =>
        have nothing : commitOf run system (.advance index environment) = none := by
          simp [commitOf, here]
        rw [nothing, Option.toList_none, List.append_nil]
        exact sound.turn here phaseHeld_lookUp (by simp)
      | searching retry =>
        have nothing : commitOf run system (.advance index environment) = none := by
          simp [commitOf, here]
        rw [nothing, Option.toList_none, List.append_nil]
        have looked : Looked run call := sound.phases _ (List.mem_of_getElem? here)
        exact sound.turn here (phaseHeld_search looked) (by simp)
      | finished result =>
        have nothing : commitOf run system (.advance index environment) = none := by
          simp [commitOf, here]
        rw [nothing, Option.toList_none, List.append_nil]
        exact sound.turn here trivial fun _ same => same

/-- Every state of the system is sound. -/
theorem Execution.sound {run : WorkflowRun} {start : WorkflowExecutionState} {commits : List Commit}
    {system : WorkflowSystem} (created : Created run start)
    (execution : Execution run start commits system) : Sound run start commits system := by
  induction execution with
  | start =>
    refine ⟨⟨start, [], rfl, .start⟩, by simp, ?_, by simp, by simp, by simp, by simp⟩
    rintro _ ⟨rfl⟩ node member operationId names
    obtain ⟨now, rfl, _⟩ := created
    obtain ⟨definition, _, rfl⟩ := List.mem_map.mp member
    simp [initialNode] at names
  | step commits system event _ hypothesis => exact hypothesis.step event created

/-- In every interleaving of calls: a node is claimed only when all its dependencies are completed,
no node is claimed twice, one operation claims at most as many nodes as it may, none is claimed after
a cancellation was requested, and a claim operation that is called again after it changed the state
returns what it returned before and changes nothing. -/
theorem claims_safe {run : WorkflowRun} {start : WorkflowExecutionState} {commits : List Commit}
    {system : WorkflowSystem} (created : Created run start)
    (execution : Execution run start commits system) :
    (∀ commit ∈ commits,
      (∀ claim ∈ commit.claims, ∃ node,
        Claimable run.workflow commit.before.nodes node claim.node) ∧
      claimedIds commit.before.nodes commit.next.nodes = commit.claims.map (·.node.nodeId) ∧
      commit.claims.length ≤ run.workflow.nodes.length ∧
      (commit.before.cancelRequested = true → commit.claims = [])) ∧
    ((commits.flatMap (·.claims)).map (·.node.nodeId)).Nodup ∧
    (∀ current input, system.row.state = some current →
      (planWorkflowNodeClaims current run.workflow input).2.length ≤ input.maximumClaims) ∧
    ∀ commit ∈ commits, ∀ duration index environment,
      commit.call.operation = .claimReady duration →
      system.calls[index]? = some (commit.call, .begun) →
        system.calls[commit.caller]? =
          some (commit.call, .finished (.ok (.claims commit.claims))) ∧
        system.step run (.advance index environment) = { system with
          calls := system.calls.set index
            (commit.call, .finished (.ok (.claims commit.claims))) } := by
  have sound := execution.sound created
  refine ⟨fun commit member => ?_, sound.once, fun current input found => ?_, ?_⟩
  · have kept := (sound.kept commit member).kept
    exact ⟨kept.claimable, kept.shown, kept.length, kept.going⟩
  · obtain ⟨stored, trace, reached, steps⟩ := sound.stored
    obtain rfl := Option.some.inj (found.symm.trans reached)
    exact planWorkflowNodeClaims_length input (steps.valid created).held.distinct
  · intro commit member duration index environment asked here
    obtain ⟨state, finished⟩ := sound.returned commit member
    refine ⟨?_, ?_⟩
    · rw [finished, swapOutcome, asked]
    · rw [WorkflowSystem.step, here]
      simp only [advanceCall, lookUpCall_of_commit (sound.kept commit member) asked]

/-- The changes and the system after some events. -/
def runEvents (run : WorkflowRun) : List Commit × WorkflowSystem → List WorkflowEvent →
    List Commit × WorkflowSystem
  | done, [] => done
  | (commits, system), event :: later =>
    runEvents run (commits ++ (commitOf run system event).toList, system.step run event) later

/-- Events one after the other are an execution. -/
theorem execution_runEvents {run : WorkflowRun} {start : WorkflowExecutionState}
    (events : List WorkflowEvent) {commits : List Commit} {system : WorkflowSystem}
    (execution : Execution run start commits system) :
    Execution run start (runEvents run (commits, system) events).1
      (runEvents run (commits, system) events).2 := by
  induction events generalizing commits system with
  | nil => exact execution
  | cons event later hypothesis => exact hypothesis (.step commits system event execution)

/-- A claim operation that finds nothing to claim, and is called again later. -/
def claimAgain : WorkflowCall := sampleCall "claim-again" (.claimReady 60000)

/-- Another instant of the run, with another id to be drawn. -/
def laterEnvironment : CallEnvironment where
  now := js "2026-07-01T00:00:30.000Z"
  nextId := fun _ => js "claim-3"

/-- A call is made and takes its turns. -/
def madeCall (index : Nat) (environment : CallEnvironment) (call : WorkflowCall) :
    List WorkflowEvent :=
  [.begin call, .advance index environment, .advance index environment, .advance index environment]

/-- Both agents are claimed, another claim finds nothing, both agents complete, and the other claim
is called again. -/
def sampleExecuted : List Commit × WorkflowSystem :=
  runEvents sampleRun ([], ⟨⟨some sampleCreated, OrderedMap.empty⟩, []⟩)
    (madeCall 0 sampleEnvironment claimAgents ++ madeCall 1 laterEnvironment claimAgain ++
      madeCall 2 laterEnvironment (settleDraft surveyed) ++
      madeCall 3 laterEnvironment (settleSurvey surveyed) ++
      madeCall 4 laterEnvironment claimAgain ++ [.begin claimAgents])

/-- These events are an execution. -/
theorem sampleExecuted_execution :
    Execution sampleRun sampleCreated sampleExecuted.1 sampleExecuted.2 :=
  execution_runEvents _ .start

/-- What the samples of the execution rest on: the first claim changed the state and is called again,
the other one returned no claims and then the verification. -/
theorem sampleExecuted_evaluated :
    (⟨0, claimAgents, sampleCreated, sampleClaimed.1, sampleClaimed.2⟩ : Commit) ∈
        sampleExecuted.1 ∧
      sampleExecuted.2.calls[5]? = some (claimAgents, .begun) ∧
      sampleExecuted.2.calls[1]? = some (claimAgain, .finished (.ok (.claims []))) ∧
      sampleExecuted.2.calls[4]? = some (claimAgain, .finished (.ok (.claims [
        ⟨⟨js "verify", [js "draft", js "survey"], .verification (js "verifier")⟩, js "claim-3", 1,
          none, uniformDigest 'd'⟩]))) := by
  decide +kernel

/-- The first claim operation of the execution is called once more. -/
theorem claims_safe_sample :
    ((sampleExecuted.1.flatMap (·.claims)).map (·.node.nodeId)).Nodup ∧
      sampleExecuted.2.step sampleRun (.advance 5 laterEnvironment) = { sampleExecuted.2 with
        calls := sampleExecuted.2.calls.set 5
          (claimAgents, .finished (.ok (.claims sampleClaimed.2))) } := by
  have safe := claims_safe sampleCreated_created sampleExecuted_execution
  obtain ⟨first, begun, _⟩ := sampleExecuted_evaluated
  exact ⟨safe.2.1, (safe.2.2.2 _ first 60000 5 laterEnvironment rfl begun).2⟩

/-- The other claim returned no claims, and claims the verification when it is called again. -/
theorem repeated_claim_differs :
    Created sampleRun sampleCreated ∧
      Execution sampleRun sampleCreated sampleExecuted.1 sampleExecuted.2 ∧
      sampleExecuted.2.calls[1]? = some (claimAgain, .finished (.ok (.claims []))) ∧
      sampleExecuted.2.calls[4]? = some (claimAgain, .finished (.ok (.claims [
        ⟨⟨js "verify", [js "draft", js "survey"], .verification (js "verifier")⟩, js "claim-3", 1,
          none, uniformDigest 'd'⟩]))) :=
  ⟨sampleCreated_created, sampleExecuted_execution, sampleExecuted_evaluated.2.2⟩

end Crewon.Verif.WorkflowClaims
