import Crewon.Gateway.WorkspaceDispatchStore
import Crewon.Js.JsonInjective
import Crewon.Js.JsonSize
import Mathlib

/-!
# The law of the listings

The record of a listing is accepted at any time, says the same for good once it says something, and
answers a call that is repeated as it answered it before. What has been stored decides that alone.
The current connection and the clock matter for a first acceptance only.
-/

namespace Crewon.Verif.WorkspaceDispatch

open Crewon.Js Crewon.Checked Crewon.Domain Crewon.Contracts Crewon.Lib
open Crewon.Gateway (gatewayError requireExecutionId DeviceExecutionKinds)
open Crewon.Gateway.WorkspaceDispatch

variable {sha256 : JsString → JsString} {parseDate : JsString → Option Int}

section Commands

/-- Limits with the same stable JSON are the same. -/
theorem limits_of_stabilize {left right : DeviceWorkspaceListLimits}
    (same : left.json.stabilize = right.json.stabilize) : left = right := by
  have values := values_of_stabilize same rfl (by simp)
  obtain ⟨_, _, _, _, _, _⟩ := left
  obtain ⟨_, _, _, _, _, _⟩ := right
  simpa [JsonValue.stabilize] using values

/-- Optional texts with the same stable JSON are the same. -/
theorem text_of_stabilize {left right : Option JsString}
    (same : (JsonValue.ofOption .string left).stabilize =
      (JsonValue.ofOption .string right).stabilize) : left = right := by
  cases left <;> cases right <;> simp_all [JsonValue.ofOption, JsonValue.stabilize]

/-- Traces with the same stable JSON are the same. -/
theorem trace_of_stabilize {left right : DeviceTraceContext}
    (same : left.json.stabilize = right.json.stabilize) : left = right := by
  have values := values_of_stabilize same rfl (by simp)
  simp only [List.forall₂_cons, List.Forall₂.nil, and_true] at values
  obtain ⟨parent, state⟩ := values
  exact (DeviceTraceContext.mk.injEq _ _ _ _).mpr
    ⟨text_of_stabilize parent, text_of_stabilize state⟩

/-- Approvals with the same stable JSON are the same. -/
theorem proof_of_stabilize {left right : DeviceCommandApprovalProof}
    (same : left.json.stabilize = right.json.stabilize) : left = right := by
  have values := values_of_stabilize same rfl (by simp)
  obtain ⟨_, _, _, _, _⟩ := left
  obtain ⟨_, _, _, _, _⟩ := right
  simpa [JsonValue.stabilize] using values

/-- Optional approvals with the same stable JSON are the same. -/
theorem approval_of_stabilize {left right : Option DeviceCommandApprovalProof}
    (same : (JsonValue.ofOption DeviceCommandApprovalProof.json left).stabilize =
      (JsonValue.ofOption DeviceCommandApprovalProof.json right).stabilize) : left = right := by
  cases left with
  | none =>
    cases right with
    | none => rfl
    | some proof => cases same
  | some proof =>
    cases right with
    | none => cases same
    | some other => exact congrArg some (proof_of_stabilize same)

/-- Authorizations with the same stable JSON are the same. -/
theorem authorization_of_stabilize {left right : DeviceCommandAuthorization}
    (same : left.json.stabilize = right.json.stabilize) : left = right := by
  have values := values_of_stabilize same rfl
    (by simp [DeviceCommandAuthorization.unsignedFields])
  simp only [DeviceCommandAuthorization.unsignedFields, List.cons_append, List.nil_append,
    List.forall₂_cons, List.Forall₂.nil, JsonValue.stabilize, JsonValue.string.injEq, and_true,
    true_and] at values
  obtain ⟨key, issued, expires, approval, signature⟩ := values
  exact (DeviceCommandAuthorization.mk.injEq ..).mpr
    ⟨key, issued, expires, approval_of_stabilize approval, signature⟩

/-- Commands with the same stable JSON are the same. -/
theorem command_of_stabilize {left right : DeviceWorkspaceListCommand}
    (same : left.json.stabilize = right.json.stabilize) : left = right := by
  have values := values_of_stabilize same rfl (by simp)
  simp only [List.forall₂_cons, List.Forall₂.nil, JsonValue.stabilize, JsonValue.string.injEq,
    JsonValue.number.injEq, and_true, true_and] at values
  obtain ⟨device, execution, lease, epoch, expires, workspace, incarnation, binding, runtime,
    policy, limits, action, digest, key, trace, authorization⟩ := values
  exact (DeviceWorkspaceListCommand.mk.injEq ..).mpr
    ⟨device, execution, lease, epoch, expires, workspace, incarnation, binding, runtime, policy,
      limits_of_stabilize limits, action, digest, key, trace_of_stabilize trace,
      authorization_of_stabilize authorization⟩

/-- The fingerprint of a command is the digest of its JSON. -/
theorem fingerprint_eq_ok {command : DeviceWorkspaceListCommand} {fingerprint : JsString} :
    workspaceDispatchFingerprint sha256 command = .ok fingerprint ↔
      parseDeviceWorkspaceListCommand command = .ok () ∧
        sha256 (stableJson command.json) = fingerprint := by
  simp only [workspaceDispatchFingerprint, bind_eq_ok, exists_unit, pure_eq_ok]

/-- Commands with the same fingerprint are the same. -/
theorem command_of_fingerprint (separates : SeparatesJson sha256)
    {left right : DeviceWorkspaceListCommand} {fingerprint : JsString}
    (first : workspaceDispatchFingerprint sha256 left = .ok fingerprint)
    (second : workspaceDispatchFingerprint sha256 right = .ok fingerprint) : left = right := by
  have digests : sha256 (stableJson left.json) = sha256 (stableJson right.json) :=
    (fingerprint_eq_ok.mp first).2.trans (fingerprint_eq_ok.mp second).2.symm
  exact command_of_stabilize (separates.inj digests)

/-- A command has an id of the wire grammar. -/
theorem wire_of_command {command : DeviceWorkspaceListCommand}
    (valid : parseDeviceWorkspaceListCommand command = .ok ()) :
    isWireId command.executionId = true := by
  simp only [parseDeviceWorkspaceListCommand, requireOpaqueId, bind_eq_ok, exists_unit,
    rejectIf_eq_ok, Bool.not_eq_false] at valid
  exact valid.2.1

end Commands

section Records

variable {record prior next : WorkspaceDispatchAuthorityRecord}

/-- What the checks of a record ask for, but for how its last event fits. -/
structure Readable (sha256 : JsString → JsString) (parseDate : JsString → Option Int)
    (record : WorkspaceDispatchAuthorityRecord) : Prop where
  command : parseDeviceWorkspaceListCommand record.command = .ok ()
  identity : record.executionId = record.command.executionId
  fingerprint : workspaceDispatchFingerprint sha256 record.command = .ok record.fingerprint
  route : ∀ route, record.route = some route → parseWorkspaceDispatchRoute parseDate route = .ok ()
  accepted : ∀ event, record.acceptedEvent = some event →
    requireAcceptedEvent parseDate event record.command record.route = .ok ()
  terminal : ∀ event, record.terminalEvent = some event →
    requireTerminalEvent parseDate event record.command record.route = .ok ()
  resolution : ∀ resolution, record.resolution = some resolution →
    parseWorkspaceResolution parseDate resolution record.command = .ok ()
  sent : record.route.isNone = record.acceptedEvent.isNone
  ended : record.terminalEvent.isNone = record.resolution.isNone
  created : isWrittenDate parseDate record.createdAt = true
  updated : isWrittenDate parseDate record.updatedAt = true
  inOrder : parsesEarlier parseDate record.updatedAt record.createdAt = false

/-- The last event of a record fits. -/
def TerminalFits (parseDate : JsString → Option Int) (record : WorkspaceDispatchAuthorityRecord) :
    Prop :=
  ∀ terminal, record.terminalEvent = some terminal → terminalFits parseDate record terminal = true

/-- What the checks of a record ask for. -/
structure Stored (sha256 : JsString → JsString) (parseDate : JsString → Option Int)
    (record : WorkspaceDispatchAuthorityRecord) : Prop extends
    Readable sha256 parseDate record where
  fits : TerminalFits parseDate record

/-- The last event of a record fits exactly when it is not found to be unfit. -/
theorem unfit_eq_false :
    (record.terminalEvent.any fun terminal => !terminalFits parseDate record terminal) = false ↔
      TerminalFits parseDate record := by
  unfold TerminalFits
  cases record.terminalEvent with
  | none => simp
  | some terminal => simp

/-- A readable record whose last event does not fit is corrupt. -/
theorem Readable.parse_unfit (readable : Readable sha256 parseDate record)
    (unfit : ¬ TerminalFits parseDate record) :
    parseWorkspaceDispatchAuthorityRecord sha256 parseDate record =
      .error (gatewayError "workspace_dispatch_authority_corrupt") := by
  have wire : requireRouteId record.executionId "device_execution_id_invalid" = .ok () := by
    rw [requireRouteId, rejectIf_eq_ok, readable.identity, wire_of_command readable.command]
    exact Bool.true_eq_false.mp
  have route : whenPresent record.route (parseWorkspaceDispatchRoute parseDate) = .ok () :=
    whenPresent_eq_ok.mpr readable.route
  have accepted : whenPresent record.acceptedEvent (fun event =>
      requireAcceptedEvent parseDate event record.command record.route) = .ok () :=
    whenPresent_eq_ok.mpr readable.accepted
  have terminal : whenPresent record.terminalEvent (fun event =>
      requireTerminalEvent parseDate event record.command record.route) = .ok () :=
    whenPresent_eq_ok.mpr readable.terminal
  have resolution : whenPresent record.resolution (fun resolution =>
      parseWorkspaceResolution parseDate resolution record.command) = .ok () :=
    whenPresent_eq_ok.mpr readable.resolution
  have found : (record.terminalEvent.any fun terminal =>
      !terminalFits parseDate record terminal) = true := by
    rw [← Bool.not_eq_false]
    exact fun fits => unfit (unfit_eq_false.mp fits)
  rw [parseWorkspaceDispatchAuthorityRecord, readable.command, ok_bind, wire, ok_bind]
  simp only [rejectIf, readable.identity, readable.fingerprint, route, accepted, terminal,
    resolution, found, ok_bind, error_bind, ne_eq, not_true_eq_false, ↓reduceIte, or_true]

/-- A record is accepted exactly when the checks are met. -/
theorem parse_eq_ok : parseWorkspaceDispatchAuthorityRecord sha256 parseDate record = .ok () ↔
    Stored sha256 parseDate record := by
  simp only [parseWorkspaceDispatchAuthorityRecord, requireRouteId, bind_eq_ok, exists_unit,
    rejectIf_eq_ok, whenPresent_eq_ok, requireWorkspaceDispatchTimestamp,
    requireWorkspaceDispatchNotBefore, not_or, ne_eq, not_not, Bool.not_eq_false,
    Bool.not_eq_true, unfit_eq_false]
  constructor
  · rintro ⟨command, _, identity, _, digested, rfl, route, accepted, terminal, resolution,
      ⟨sent, ended, fits⟩, created, updated, inOrder⟩
    exact ⟨⟨command, identity, digested, route, accepted, terminal, resolution, sent, ended,
      created, updated, inOrder⟩, fits⟩
  · intro stored
    have wire : isWireId record.executionId = true := by
      rw [stored.identity]
      exact wire_of_command stored.command
    exact ⟨stored.command, wire, stored.identity, _, stored.fingerprint, rfl, stored.route,
      stored.accepted, stored.terminal, stored.resolution, ⟨stored.sent, stored.ended, stored.fits⟩,
      stored.created, stored.updated, stored.inOrder⟩

end Records


section Writing

variable {prior : WorkspaceDispatchAuthorityRecord} {command : DeviceWorkspaceListCommand}
  {route current : DeviceWorkspaceListPeerRoute} {event : DeviceWorkspaceListEvent}
  {answer : Checked (Option DeviceWorkspaceListPeerRoute)} {now : Option Int}

/-- Connections that are found the same have the same device and the same epoch. -/
theorem fence_eq_true {left right : DeviceWorkspaceListPeerRoute} :
    sameWorkspaceDispatchRouteFence left right = true ↔
      left.deviceId = right.deviceId ∧ left.gatewayId = right.gatewayId ∧
        left.connectionId = right.connectionId ∧ left.connectionEpoch = right.connectionEpoch := by
  simp [sameWorkspaceDispatchRouteFence, and_assoc]

/-- An event is checked against what the same connections have in common. -/
theorem requireEvent_of_fence {left right : DeviceWorkspaceListPeerRoute} {acceptance : Bool}
    (same : sameWorkspaceDispatchRouteFence left right = true) :
    requireEvent parseDate acceptance event command (some left) =
      requireEvent parseDate acceptance event command (some right) := by
  obtain ⟨device, _, _, epoch⟩ := fence_eq_true.mp same
  simp only [requireEvent, device, epoch]

/-- The clock shows an instant as the text that the host writes for it. -/
theorem nowTimestamp_eq_ok {text : JsString} : nowTimestamp now = .ok text ↔
    ∃ millis, now = some millis ∧ toIsoString millis = some text := by
  unfold nowTimestamp
  cases now with
  | none => simp
  | some millis =>
    simp only [Option.bind_some, Option.some.injEq, exists_eq_left']
    cases toIsoString millis with
    | none => simp
    | some written => simp

/-- What the clock shows is a timestamp. -/
theorem written_of_clock (reads : ReadsDates parseDate) {text : JsString}
    (shown : nowTimestamp now = .ok text) : isWrittenDate parseDate text = true := by
  obtain ⟨millis, _, written⟩ := nowTimestamp_eq_ok.mp shown
  exact isWrittenDate_written reads written

/-- A timestamp names an instant. -/
theorem named_of_written {text : JsString} (written : isWrittenDate parseDate text = true) :
    (parseDate text).isSome = true := by
  unfold isWrittenDate at written
  cases named : parseDate text with
  | none => simp [named] at written
  | some millis => rfl

/-- What a first acceptance finds out. -/
theorem acceptanceAuthority_eq_ok {committedAt : JsString} :
    acceptanceAuthority parseDate route prior answer now = .ok (committedAt, current) ↔
      answer = .ok (some current) ∧ parseWorkspaceDispatchRoute parseDate current = .ok () ∧
        sameWorkspaceDispatchRouteFence current route = true ∧
        nowTimestamp now = .ok committedAt ∧
        parsesAtOrAfter parseDate committedAt current.leaseExpiresAt = false ∧
        parsesEarlier parseDate committedAt prior.updatedAt = false := by
  unfold acceptanceAuthority
  cases answer with
  | error failure => simp
  | ok found =>
    cases found with
    | none => simp
    | some authoritative =>
      simp only [requireWorkspaceDispatchRouteCurrent, requireWorkspaceDispatchNotBefore, ok_bind,
        bind_eq_ok, exists_unit, rejectIf_eq_ok, pure_eq_ok, Prod.mk.injEq, Bool.not_eq_true,
        Bool.not_eq_false, Except.ok.injEq, Option.some.injEq]
      constructor
      · rintro ⟨valid, same, shown, told, fresh, late, rfl, rfl⟩
        exact ⟨rfl, valid, same, told, fresh, late⟩
      · rintro ⟨rfl, valid, same, told, fresh, late⟩
        exact ⟨valid, same, committedAt, told, fresh, late, rfl, rfl⟩

/-- The record with the event that accepts its command. -/
def withAccepted (prior : WorkspaceDispatchAuthorityRecord) (event : DeviceWorkspaceListEvent)
    (current : DeviceWorkspaceListPeerRoute) (committedAt : JsString) :
    WorkspaceDispatchAuthorityRecord :=
  { prior with
    route := some current
    acceptedEvent := some event
    updatedAt := committedAt }

/-- The record with the event that ends the listing. -/
def withTerminal (prior : WorkspaceDispatchAuthorityRecord) (event : DeviceWorkspaceListEvent)
    (resolution : DeviceWorkspaceListDispatchResolution) (committedAt : JsString) :
    WorkspaceDispatchAuthorityRecord :=
  { prior with
    terminalEvent := some event
    resolution := some resolution
    updatedAt := committedAt }

/-- A record without a first event has no connection, no last event and no end. -/
theorem Stored.blank (stored : Stored sha256 parseDate prior)
    (absent : prior.acceptedEvent = none) :
    prior.route = none ∧ prior.terminalEvent = none ∧ prior.resolution = none := by
  have route : prior.route = none := by
    rw [← Option.isNone_iff_eq_none, stored.sent, absent]
    rfl
  have terminal : prior.terminalEvent = none := by
    cases present : prior.terminalEvent with
    | none => rfl
    | some event =>
      have checked := stored.terminal event present
      rw [route] at checked
      cases checked
  refine ⟨route, terminal, ?_⟩
  rw [← Option.isNone_iff_eq_none, ← stored.ended, terminal]
  rfl

/-- A record with an accepted event is accepted. -/
theorem Stored.accepting (reads : ReadsDates parseDate) (stored : Stored sha256 parseDate prior)
    (absent : prior.acceptedEvent = none)
    (accepts : requireAcceptedEvent parseDate event prior.command (some route) = .ok ())
    {committedAt : JsString}
    (authority : acceptanceAuthority parseDate route prior answer now =
      .ok (committedAt, current)) :
    Stored sha256 parseDate (withAccepted prior event current committedAt) := by
  obtain ⟨_, valid, same, shown, _, late⟩ := acceptanceAuthority_eq_ok.mp authority
  obtain ⟨_, terminal, resolution⟩ := stored.blank absent
  refine ⟨⟨stored.command, stored.identity, stored.fingerprint, ?_, ?_, ?_, ?_, rfl, stored.ended,
    stored.created, written_of_clock reads shown,
    parsesEarlier_trans (named_of_written stored.updated) stored.inOrder late⟩, ?_⟩
  · rintro found ⟨⟩
    exact valid
  · rintro found ⟨⟩
    exact (requireEvent_of_fence same).trans accepts
  · intro found present
    exact absurd (terminal.symm.trans present) nofun
  · intro found present
    exact absurd (resolution.symm.trans present) nofun
  · intro found present
    exact absurd (terminal.symm.trans present) nofun

variable {accepted : DeviceWorkspaceListEvent} {stored : DeviceWorkspaceListPeerRoute}
  {resolution : DeviceWorkspaceListDispatchResolution}

/-- A record with a last event is readable. -/
theorem Stored.ending (reads : ReadsDates parseDate) (held : Stored sha256 parseDate prior)
    (sent : prior.route = some stored) (fence : sameWorkspaceDispatchRouteFence stored route = true)
    (valid : validateSettleWorkspaceDispatchEventInput parseDate prior.command route event
      resolution = .ok ())
    {committedAt : JsString} (shown : nowTimestamp now = .ok committedAt)
    (late : parsesEarlier parseDate committedAt prior.updatedAt = false) :
    Readable sha256 parseDate (withTerminal prior event resolution committedAt) := by
  simp only [validateSettleWorkspaceDispatchEventInput, bind_eq_ok, exists_unit] at valid
  obtain ⟨_, _, ends, resolved, _⟩ := valid
  refine ⟨held.command, held.identity, held.fingerprint, held.route, held.accepted, ?_, ?_,
    held.sent, rfl, held.created, written_of_clock reads shown,
    parsesEarlier_trans (named_of_written held.updated) held.inOrder late⟩
  · rintro found ⟨⟩
    have here : (withTerminal prior event resolution committedAt).route = some stored := sent
    rw [here]
    exact (requireEvent_of_fence fence).trans ends
  · rintro found ⟨⟩
    exact resolved

/-- The last event of a record fits unless it is earlier than the first one. -/
theorem fits_withTerminal (held : prior.acceptedEvent = some accepted)
    (receipt : accepted.receiptId = event.receiptId)
    (valid : validateSettleWorkspaceDispatchEventInput parseDate command route event
      resolution = .ok ()) (committedAt : JsString) :
    TerminalFits parseDate (withTerminal prior event resolution committedAt) ↔
      parsesEarlier parseDate event.observedAt accepted.observedAt = false := by
  simp only [validateSettleWorkspaceDispatchEventInput, bind_eq_ok, exists_unit, rejectIf_eq_ok,
    Bool.not_eq_false] at valid
  have ends := valid.2.2.2.2
  simp [TerminalFits, withTerminal, terminalFits, held, receipt, ends]

end Writing

/-- Every record is accepted and stands under its own id, and exactly the ids of the records are
taken for listings. -/
structure Sound (sha256 : JsString → JsString) (parseDate : JsString → Option Int)
    (store : WorkspaceDispatchStore) : Prop where
  records : ∀ executionId record, store.records.find executionId = some record →
    record.executionId = executionId ∧ Stored sha256 parseDate record
  kinds : ∀ executionId, store.kinds.find executionId = some .workspaceList ↔
    (store.records.find executionId).isSome = true
  opened : store.closed = false

/-- The codes of the refusals that are about what is stored, the connection or the clock, none of
which finds the stored state to be bad. -/
def conflictCodes : List String :=
  ["device_dispatch_kind_conflict", "workspace_dispatch_authority_missing",
    "workspace_dispatch_identity_conflict", "workspace_dispatch_event_conflict",
    "workspace_dispatch_route_unavailable", "workspace_dispatch_route_stale",
    "workspace_dispatch_route_expired", "workspace_dispatch_timestamp_invalid",
    "workspace_dispatch_clock_invalid", "workspace_dispatch_accepted_missing",
    "workspace_dispatch_terminal_conflict"]

/-- A refusal with one of these codes. -/
def Conflict (failure : Failure) : Prop := ∃ code ∈ conflictCodes, failure = gatewayError code

section Lookup

variable {store : WorkspaceDispatchStore} {command : DeviceWorkspaceListCommand}
  {prior : WorkspaceDispatchAuthorityRecord}

/-- The id of a record is one of the wire grammar and taken for a listing. -/
theorem Sound.kind_of_find (sound : Sound sha256 parseDate store) {executionId : JsString}
    (found : store.records.find executionId = some prior) : isWireId executionId = true ∧
      store.kinds.find executionId = some .workspaceList := by
  obtain ⟨identity, stored⟩ := sound.records executionId prior found
  rw [← identity]
  refine ⟨stored.identity ▸ wire_of_command stored.command, (sound.kinds _).mpr ?_⟩
  rw [identity, found]
  rfl

/-- The fingerprint of a record is the one of its command alone. -/
theorem Sound.ofCommand (separates : SeparatesJson sha256)
    (sound : Sound sha256 parseDate store)
    (valid : parseDeviceWorkspaceListCommand command = .ok ())
    (found : store.records.find command.executionId = some prior) :
    requireFingerprint prior (sha256 (stableJson command.json)) =
      rejectIf (prior.command ≠ command) (gatewayError "workspace_dispatch_identity_conflict") := by
  have stored := (sound.records _ _ found).2
  have digested : workspaceDispatchFingerprint sha256 command =
      .ok (sha256 (stableJson command.json)) := fingerprint_eq_ok.mpr ⟨valid, rfl⟩
  have same : prior.fingerprint = sha256 (stableJson command.json) ↔ prior.command = command := by
    constructor
    · intro equal
      exact command_of_fingerprint separates stored.fingerprint (equal ▸ digested)
    · intro equal
      have first := stored.fingerprint
      rw [equal, digested] at first
      exact (Except.ok.inj first).symm
  simp only [requireFingerprint, ne_eq, same]

/-- The record under the id of a command is found, and refused when it is of another command. -/
theorem requiredRecord_found (separates : SeparatesJson sha256)
    (sound : Sound sha256 parseDate store)
    (valid : parseDeviceWorkspaceListCommand command = .ok ())
    (found : store.records.find command.executionId = some prior) :
    (requiredRecord sha256 parseDate command).run store =
      (if prior.command = command then .ok prior
        else .error (gatewayError "workspace_dispatch_identity_conflict"), store) := by
  obtain ⟨wire, taken⟩ := sound.kind_of_find found
  have kind : store.kinds.kind command.executionId = .ok (some .workspaceList) :=
    DeviceExecutionKinds.kind_eq_ok.mpr ⟨wire, taken⟩
  have claimed : store.kinds.claim command.executionId .workspaceList = .ok store.kinds := by
    refine DeviceExecutionKinds.claim_eq_ok.mpr ⟨wire, ?_, OrderedMap.set_of_find taken⟩
    intro current present
    exact Option.some.inj (present.symm.trans taken)
  have parsed := parse_eq_ok.mpr (sound.records _ _ found).2
  have digested : workspaceDispatchFingerprint sha256 command =
      .ok (sha256 (stableJson command.json)) := fingerprint_eq_ok.mpr ⟨valid, rfl⟩
  have told := sound.ofCommand separates valid found
  unfold requiredRecord
  rw [Program.run_read_bind]
  simp only [id_eq, kind, ok_bind, rejectIf, reduceCtorEq, Option.some.injEq, ↓reduceIte, found,
    claimed, Program.run_check_ok_bind, Program.run_update_bind, parsed, digested, told]
  by_cases same : prior.command = command
  · simp [same]
  · simp [same]

variable (sha256 parseDate) in
/-- A command without a record is refused. -/
theorem requiredRecord_absent (valid : parseDeviceWorkspaceListCommand command = .ok ())
    (absent : store.records.find command.executionId = none) :
    ∃ failure, Conflict failure ∧
      (requiredRecord sha256 parseDate command).run store = (.error failure, store) := by
  have kind : store.kinds.kind command.executionId =
      .ok (store.kinds.find command.executionId) :=
    DeviceExecutionKinds.kind_eq_ok.mpr ⟨wire_of_command valid, rfl⟩
  by_cases tool : store.kinds.find command.executionId = some .tool
  · refine ⟨gatewayError "device_dispatch_kind_conflict", ⟨_, by simp [conflictCodes], rfl⟩, ?_⟩
    simp [requiredRecord, kind, tool, rejectIf]
  · refine ⟨gatewayError "workspace_dispatch_authority_missing",
      ⟨_, by simp [conflictCodes], rfl⟩, ?_⟩
    simp [requiredRecord, kind, tool, rejectIf, absent]

end Lookup

/-- The input of a call, or the answer about the current connection, is rejected for itself. -/
def InputRejected (parseDate : JsString → Option Int) :
    WorkspaceDispatchOperation → Failure → Prop
  | .prepare command preparedAt, failure =>
    parseDeviceWorkspaceListCommand command = .error failure ∨
      requireWorkspaceDispatchTimestamp parseDate preparedAt = .error failure
  | .acceptEvent command route event answer _, failure =>
    validateAcceptWorkspaceDispatchEventInput parseDate command route event = .error failure ∨
      answer = .error failure ∨ ∃ current, answer = .ok (some current) ∧
        parseWorkspaceDispatchRoute parseDate current = .error failure
  | .settleEvent command route event resolution _, failure =>
    validateSettleWorkspaceDispatchEventInput parseDate command route event resolution =
      .error failure
  | .load executionId, failure => requireExecutionId executionId = .error failure
  | .claimElsewhere executionId _, failure => requireExecutionId executionId = .error failure

/-- The call settles an event that was observed earlier than the accepted one. -/
def EndsEarly (parseDate : JsString → Option Int) (before : WorkspaceDispatchStore)
    (operation : WorkspaceDispatchOperation) : Prop :=
  ∃ command route event resolution now prior accepted,
    operation = .settleEvent command route event resolution now ∧
      before.records.find command.executionId = some prior ∧
      prior.acceptedEvent = some accepted ∧
      parsesEarlier parseDate event.observedAt accepted.observedAt = true

/-- Why a call fails. -/
inductive Refusal (parseDate : JsString → Option Int) (before : WorkspaceDispatchStore)
    (operation : WorkspaceDispatchOperation) : Failure → Prop where
  | input {failure : Failure} (rejected : InputRejected parseDate operation failure) :
      Refusal parseDate before operation failure
  | conflict {failure : Failure} (conflict : Conflict failure) :
      Refusal parseDate before operation failure
  | early (ends : EndsEarly parseDate before operation) :
      Refusal parseDate before operation (gatewayError "workspace_dispatch_authority_corrupt")

/-- The store with a record. -/
def withRecord (store : WorkspaceDispatchStore) (record : WorkspaceDispatchAuthorityRecord) :
    WorkspaceDispatchStore :=
  { store with records := store.records.set record.executionId record }

/-- The record of a prepared listing. -/
def preparedRecord (command : DeviceWorkspaceListCommand) (preparedAt fingerprint : JsString) :
    WorkspaceDispatchAuthorityRecord :=
  ⟨command.executionId, fingerprint, command, none, none, none, none, preparedAt, preparedAt⟩

/-- The record of a command that has accepted an event like this one. -/
structure Accepted (store : WorkspaceDispatchStore) (command : DeviceWorkspaceListCommand)
    (route : DeviceWorkspaceListPeerRoute) (event accepted : DeviceWorkspaceListEvent)
    (prior : WorkspaceDispatchAuthorityRecord) : Prop where
  found : store.records.find command.executionId = some prior
  command : prior.command = command
  fence : ∃ stored, prior.route = some stored ∧
    sameWorkspaceDispatchRouteFence stored route = true
  held : prior.acceptedEvent = some accepted
  same : sameWorkspaceDispatchJson accepted.json event.json = true

/-- The record of a command that has settled an event and an end like these. -/
structure Settled (store : WorkspaceDispatchStore) (command : DeviceWorkspaceListCommand)
    (route : DeviceWorkspaceListPeerRoute) (event : DeviceWorkspaceListEvent)
    (resolution : DeviceWorkspaceListDispatchResolution) (terminal : DeviceWorkspaceListEvent)
    (prior : WorkspaceDispatchAuthorityRecord) : Prop where
  found : store.records.find command.executionId = some prior
  command : prior.command = command
  fence : ∃ stored, prior.route = some stored ∧
    sameWorkspaceDispatchRouteFence stored route = true
  held : ∃ accepted, prior.acceptedEvent = some accepted ∧ accepted.receiptId = event.receiptId
  ended : prior.terminalEvent = some terminal
  resolved : ∃ resolved, prior.resolution = some resolved ∧
    sameWorkspaceDispatchJson resolved.json resolution.json = true
  same : sameWorkspaceDispatchJson terminal.json event.json = true

/-- What a call does to the store. -/
inductive Effect (sha256 : JsString → JsString) (parseDate : JsString → Option Int)
    (before : WorkspaceDispatchStore) :
    WorkspaceDispatchOperation → Checked WorkspaceDispatchReply → WorkspaceDispatchStore →
      Prop where
  | refused {operation : WorkspaceDispatchOperation} {failure : Failure}
      (reason : Refusal parseDate before operation failure) :
      Effect sha256 parseDate before operation (.error failure) before
  | existing (command : DeviceWorkspaceListCommand) (preparedAt : JsString)
      (prior : WorkspaceDispatchAuthorityRecord) :
      Effect sha256 parseDate before (.prepare command preparedAt) (.ok (.existing prior)) before
  | created (command : DeviceWorkspaceListCommand) (preparedAt fingerprint : JsString)
      (kinds : DeviceExecutionKinds)
      (fresh : before.records.find command.executionId = none)
      (claimed : before.kinds.claim command.executionId .workspaceList = .ok kinds)
      (stored : Stored sha256 parseDate (preparedRecord command preparedAt fingerprint)) :
      Effect sha256 parseDate before (.prepare command preparedAt)
        (.ok (.created (preparedRecord command preparedAt fingerprint)))
        { withRecord before (preparedRecord command preparedAt fingerprint) with kinds := kinds }
  | acceptedBefore (command : DeviceWorkspaceListCommand) (route : DeviceWorkspaceListPeerRoute)
      (event accepted : DeviceWorkspaceListEvent)
      (answer : Checked (Option DeviceWorkspaceListPeerRoute)) (now : Option Int)
      (prior : WorkspaceDispatchAuthorityRecord)
      (held : Accepted before command route event accepted prior) :
      Effect sha256 parseDate before (.acceptEvent command route event answer now)
        (.ok (.commits ⟨.replayed, prior, acknowledgement accepted⟩)) before
  | accepted (command : DeviceWorkspaceListCommand) (route current : DeviceWorkspaceListPeerRoute)
      (event : DeviceWorkspaceListEvent)
      (answer : Checked (Option DeviceWorkspaceListPeerRoute)) (now : Option Int)
      (prior : WorkspaceDispatchAuthorityRecord) (committedAt : JsString)
      (found : before.records.find command.executionId = some prior)
      (same : prior.command = command) (absent : prior.acceptedEvent = none)
      (accepts : requireAcceptedEvent parseDate event command (some route) = .ok ())
      (authority : acceptanceAuthority parseDate route prior answer now =
        .ok (committedAt, current))
      (stored : Stored sha256 parseDate (withAccepted prior event current committedAt)) :
      Effect sha256 parseDate before (.acceptEvent command route event answer now)
        (.ok (.commits ⟨.committed, withAccepted prior event current committedAt,
          acknowledgement event⟩))
        (withRecord before (withAccepted prior event current committedAt))
  | settledBefore (command : DeviceWorkspaceListCommand) (route : DeviceWorkspaceListPeerRoute)
      (event terminal : DeviceWorkspaceListEvent)
      (resolution : DeviceWorkspaceListDispatchResolution) (now : Option Int)
      (prior : WorkspaceDispatchAuthorityRecord)
      (held : Settled before command route event resolution terminal prior) :
      Effect sha256 parseDate before (.settleEvent command route event resolution now)
        (.ok (.commits ⟨.replayed, prior, acknowledgement terminal⟩)) before
  | settled (command : DeviceWorkspaceListCommand) (route sent : DeviceWorkspaceListPeerRoute)
      (event accepted : DeviceWorkspaceListEvent)
      (resolution : DeviceWorkspaceListDispatchResolution) (now : Option Int)
      (prior : WorkspaceDispatchAuthorityRecord) (committedAt : JsString)
      (found : before.records.find command.executionId = some prior)
      (same : prior.command = command) (held : prior.acceptedEvent = some accepted)
      (route_held : prior.route = some sent)
      (fence : sameWorkspaceDispatchRouteFence sent route = true)
      (receipt : accepted.receiptId = event.receiptId) (unended : prior.terminalEvent = none)
      (stored : Stored sha256 parseDate (withTerminal prior event resolution committedAt)) :
      Effect sha256 parseDate before (.settleEvent command route event resolution now)
        (.ok (.commits ⟨.committed, withTerminal prior event resolution committedAt,
          acknowledgement event⟩))
        (withRecord before (withTerminal prior event resolution committedAt))
  | loaded (executionId : JsString) (record : Option WorkspaceDispatchAuthorityRecord) :
      Effect sha256 parseDate before (.load executionId) (.ok (.loaded record)) before
  | claimed (executionId : JsString) (kind : OtherCommandKind) (kinds : DeviceExecutionKinds)
      (claimed : before.kinds.claim executionId kind.kind = .ok kinds) :
      Effect sha256 parseDate before (.claimElsewhere executionId kind) (.ok .claimed)
        { before with kinds := kinds }

section Performing

variable {before : WorkspaceDispatchStore} {prior : WorkspaceDispatchAuthorityRecord}
  {command : DeviceWorkspaceListCommand}
  {route : DeviceWorkspaceListPeerRoute} {event accepted : DeviceWorkspaceListEvent}
  {answer : Checked (Option DeviceWorkspaceListPeerRoute)} {now : Option Int}

/-- A code of the list is a conflict. -/
theorem conflict_of_mem {code : String} (member : code ∈ conflictCodes) :
    Conflict (gatewayError code) := ⟨code, member, rfl⟩

/-- An id is not taken when it is none, or belongs to another kind. -/
theorem claim_eq_error {kinds : DeviceExecutionKinds} {executionId : JsString}
    {kind : Crewon.Gateway.DeviceExecutionCommandKind} {failure : Failure}
    (rejected : kinds.claim executionId kind = .error failure) :
    requireExecutionId executionId = .error failure ∨ Conflict failure := by
  unfold DeviceExecutionKinds.claim at rejected
  rcases bind_eq_error.mp rejected with invalid | ⟨_, _, rejected⟩
  · exact .inl invalid
  · rcases bind_eq_error.mp rejected with taken | ⟨_, _, done⟩
    · cases found : kinds.find executionId with
      | none =>
        rw [found] at taken
        cases taken
      | some current =>
        rw [found, whenPresent, rejectIf_eq_error] at taken
        obtain ⟨_, rfl⟩ := taken
        exact .inr (conflict_of_mem (by simp [conflictCodes]))
    · cases done

/-- An id of the wire grammar is an execution id. -/
theorem requireExecutionId_of_wire {executionId : JsString} (wire : isWireId executionId = true) :
    requireExecutionId executionId = .ok () := by
  rw [requireExecutionId, rejectIf_eq_ok, wire]
  exact Bool.true_eq_false.mp

/-- A preparation finds the record of its command, writes one, or is refused. -/
theorem prepare_effect (separates : SeparatesJson sha256) (sound : Sound sha256 parseDate before)
    {preparedAt : JsString} :
    Effect sha256 parseDate before (.prepare command preparedAt)
      ((prepare sha256 parseDate command preparedAt).run before).1
      ((prepare sha256 parseDate command preparedAt).run before).2 := by
  unfold prepare
  simp only [Program.run_read_bind, id_eq, assertOpen, sound.opened, rejectIf, Bool.false_eq_true,
    ↓reduceIte, ok_bind]
  cases valid : parseDeviceWorkspaceListCommand command with
  | error failure => exact .refused (.input (.inl valid))
  | ok _ =>
    cases timed : requireWorkspaceDispatchTimestamp parseDate preparedAt with
    | error failure => exact .refused (.input (.inr timed))
    | ok _ =>
      have digested : workspaceDispatchFingerprint sha256 command =
          .ok (sha256 (stableJson command.json)) := fingerprint_eq_ok.mpr ⟨valid, rfl⟩
      have wire := wire_of_command valid
      have kind : before.kinds.kind command.executionId =
          .ok (before.kinds.find command.executionId) :=
        DeviceExecutionKinds.kind_eq_ok.mpr ⟨wire, rfl⟩
      simp only [digested, ok_bind, Program.run_check_ok_bind]
      cases found : before.records.find command.executionId with
      | some prior =>
        have taken := (sound.kind_of_find found).2
        have told := sound.ofCommand separates valid found
        have parsed := parse_eq_ok.mpr (sound.records _ _ found).2
        simp only [kind, taken, ok_bind, ne_eq, not_true_eq_false, ↓reduceIte, told, parsed]
        by_cases same : prior.command = command
        · simp only [rejectIf, same, not_true_eq_false, ↓reduceIte, ok_bind,
            Program.run_check_ok_bind, Program.run_pure]
          exact .existing command preparedAt prior
        · simp only [rejectIf, same, not_false_eq_true, ↓reduceIte, error_bind,
            Program.run_check_error_bind]
          exact .refused (.conflict (conflict_of_mem (by simp [conflictCodes])))
      | none =>
        have free : before.kinds.find command.executionId ≠ some .workspaceList := by
          rw [ne_eq, sound.kinds, found]
          exact Bool.false_ne_true
        have stored : Stored sha256 parseDate
            (preparedRecord command preparedAt (sha256 (stableJson command.json))) := by
          rw [requireWorkspaceDispatchTimestamp, rejectIf_eq_ok, Bool.not_eq_false] at timed
          refine ⟨⟨valid, rfl, digested, ?_, ?_, ?_, ?_, rfl, rfl, timed, timed,
            parsesEarlier_self preparedAt⟩, ?_⟩
          all_goals
            intro _ held
            cases held
        have parsed := parse_eq_ok.mpr stored
        simp only [preparedRecord] at parsed
        simp only [kind, ok_bind, parsed, if_neg free]
        by_cases tool : before.kinds.find command.executionId = some .tool
        · simp only [tool, ↓reduceIte, error_bind, Program.run_check_error_bind]
          exact .refused (.conflict (conflict_of_mem (by simp [conflictCodes])))
        · simp only [tool, ↓reduceIte, ok_bind]
          cases claimed : before.kinds.claim command.executionId .workspaceList with
          | error failure =>
            simp only [Program.run_check_error_bind]
            rcases claim_eq_error claimed with invalid | conflict
            · rw [requireExecutionId_of_wire wire] at invalid
              cases invalid
            · exact .refused (.conflict conflict)
          | ok kinds =>
            simp only [Program.run_check_ok_bind, Program.run_update_bind, Program.run_pure]
            exact .created command preparedAt _ kinds found claimed stored

variable (command event) in
/-- What is not found out for a first acceptance is a conflict, or the answer about the current
connection is rejected. -/
theorem acceptanceAuthority_eq_error {failure : Failure}
    (rejected : acceptanceAuthority parseDate route prior answer now = .error failure) :
    InputRejected parseDate (.acceptEvent command route event answer now) failure ∨
      Conflict failure := by
  unfold acceptanceAuthority at rejected
  rcases bind_eq_error.mp rejected with answered | ⟨found, answered, rejected⟩
  · exact .inl (.inr (.inl answered))
  · cases found with
    | none =>
      obtain rfl := Except.error.inj rejected
      exact .inr (conflict_of_mem (by simp [conflictCodes]))
    | some current =>
      rcases bind_eq_error.mp rejected with invalid | ⟨_, _, rejected⟩
      · exact .inl (.inr (.inr ⟨current, answered, invalid⟩))
      · right
        rcases bind_eq_error.mp rejected with stale | ⟨_, _, rejected⟩
        · obtain ⟨_, rfl⟩ := rejectIf_eq_error.mp stale
          exact conflict_of_mem (by simp [conflictCodes])
        · rcases bind_eq_error.mp rejected with stopped | ⟨committedAt, _, rejected⟩
          · unfold nowTimestamp at stopped
            split at stopped
            · obtain rfl := Except.error.inj stopped
              exact conflict_of_mem (by simp [conflictCodes])
            · cases stopped
          · rcases bind_eq_error.mp rejected with expired | ⟨_, _, rejected⟩
            · obtain ⟨_, rfl⟩ := rejectIf_eq_error.mp expired
              exact conflict_of_mem (by simp [conflictCodes])
            · rcases bind_eq_error.mp rejected with early | ⟨_, _, done⟩
              · obtain ⟨_, rfl⟩ := rejectIf_eq_error.mp early
                exact conflict_of_mem (by simp [conflictCodes])
              · cases done

/-- A commit that is answered returns the record and the acknowledgement of the event. -/
theorem commitResult_run {outcome : WorkspaceDispatchOutcome}
    (stored : Stored sha256 parseDate prior) :
    (workspaceDispatchCommitResult sha256 parseDate outcome prior event).run before =
      (.ok (.commits ⟨outcome, prior, acknowledgement event⟩), before) := by
  rw [workspaceDispatchCommitResult, parse_eq_ok.mpr stored, Program.run_check_ok_bind,
    Program.run_pure]

variable (before event) in
/-- A record that is accepted is written. -/
theorem writeRecord_run (stored : Stored sha256 parseDate prior) :
    (writeRecord sha256 parseDate prior event).run before =
      (.ok (.commits ⟨.committed, prior, acknowledgement event⟩), withRecord before prior) := by
  rw [writeRecord, parse_eq_ok.mpr stored, Program.run_check_ok_bind, Program.run_update_bind,
    commitResult_run stored]
  rfl

/-- A record with a first event has a connection. -/
theorem Stored.sent_of_accepted (stored : Stored sha256 parseDate prior)
    (held : prior.acceptedEvent = some accepted) : ∃ sent, prior.route = some sent := by
  have sent := stored.sent
  rw [held, Option.isNone_some, Option.isNone_eq_false_iff] at sent
  exact Option.isSome_iff_exists.mp sent

/-- A record with a last event has an end. -/
theorem Stored.resolved_of_ended (stored : Stored sha256 parseDate prior)
    {terminal : DeviceWorkspaceListEvent} (ended : prior.terminalEvent = some terminal) :
    ∃ resolution, prior.resolution = some resolution := by
  have resolved := stored.ended
  rw [ended, Option.isNone_some, eq_comm, Option.isNone_eq_false_iff] at resolved
  exact Option.isSome_iff_exists.mp resolved

/-- A call to accept an event accepts it, finds it accepted, or is refused. -/
theorem acceptEvent_effect (separates : SeparatesJson sha256) (reads : ReadsDates parseDate)
    (sound : Sound sha256 parseDate before) :
    Effect sha256 parseDate before (.acceptEvent command route event answer now)
      ((acceptEvent sha256 parseDate command route event answer now).run before).1
      ((acceptEvent sha256 parseDate command route event answer now).run before).2 := by
  unfold acceptEvent
  simp only [Program.run_read_bind, id_eq, assertOpen, sound.opened, rejectIf, Bool.false_eq_true,
    ↓reduceIte, ok_bind]
  cases checked : validateAcceptWorkspaceDispatchEventInput parseDate command route event with
  | error failure => exact .refused (.input (.inl checked))
  | ok _ =>
    rw [Program.run_check_ok_bind, Program.run_bind]
    simp only [validateAcceptWorkspaceDispatchEventInput, bind_eq_ok, exists_unit] at checked
    obtain ⟨valid, _, accepts⟩ := checked
    cases found : before.records.find command.executionId with
    | none =>
      obtain ⟨failure, conflict, ran⟩ := requiredRecord_absent sha256 parseDate valid found
      rw [ran]
      exact .refused (.conflict conflict)
    | some prior =>
      have stored := (sound.records _ _ found).2
      rw [requiredRecord_found separates sound valid found]
      by_cases same : prior.command = command
      case neg =>
        rw [if_neg same]
        exact .refused (.conflict (conflict_of_mem (by simp [conflictCodes])))
      rw [if_pos same]
      simp only
      cases held : prior.acceptedEvent with
      | some accepted =>
        obtain ⟨sent, present⟩ := stored.sent_of_accepted held
        simp only [present, Option.any_some]
        by_cases alike : sameWorkspaceDispatchRouteFence sent route = true ∧
            sameWorkspaceDispatchJson accepted.json event.json = true
        · rw [if_neg (by simp [alike]), Program.run_check_ok_bind, commitResult_run stored]
          exact .acceptedBefore command route event accepted answer now prior
            ⟨found, same, ⟨sent, present, alike.1⟩, held, alike.2⟩
        · rw [if_pos (by simpa [-not_and, not_and_or] using alike), Program.run_check_error_bind]
          exact .refused (.conflict (conflict_of_mem (by simp [conflictCodes])))
      | none =>
        simp only
        cases authority : acceptanceAuthority parseDate route prior answer now with
        | error failure =>
          rw [Program.run_check_error_bind]
          rcases acceptanceAuthority_eq_error command event authority with rejected | conflict
          · exact .refused (.input rejected)
          · exact .refused (.conflict conflict)
        | ok known =>
          obtain ⟨committedAt, current⟩ := known
          have next := stored.accepting reads held (same ▸ accepts) authority
          rw [Program.run_check_ok_bind]
          have ran := writeRecord_run before event next
          simp only [withAccepted] at ran ⊢
          rw [ran]
          exact .accepted command route current event answer now prior committedAt found same held
            accepts authority next

variable {resolution : DeviceWorkspaceListDispatchResolution} {sent : DeviceWorkspaceListPeerRoute}

/-- A last event is written, or is refused as being too early. -/
theorem settle_write (reads : ReadsDates parseDate) (stored : Stored sha256 parseDate prior)
    (valid : validateSettleWorkspaceDispatchEventInput parseDate command route event resolution =
      .ok ()) (found : before.records.find command.executionId = some prior)
    (same : prior.command = command) (held : prior.acceptedEvent = some accepted)
    (present : prior.route = some sent) (fence : sameWorkspaceDispatchRouteFence sent route = true)
    (receipt : accepted.receiptId = event.receiptId) (unended : prior.terminalEvent = none)
    {committedAt : JsString} (shown : nowTimestamp now = .ok committedAt)
    (late : parsesEarlier parseDate committedAt prior.updatedAt = false) :
    Effect sha256 parseDate before (.settleEvent command route event resolution now)
      ((writeRecord sha256 parseDate (withTerminal prior event resolution committedAt) event).run
        before).1
      ((writeRecord sha256 parseDate (withTerminal prior event resolution committedAt) event).run
        before).2 := by
  have readable := stored.ending reads present fence (same ▸ valid) shown late
  have fits := fits_withTerminal held receipt valid committedAt
  cases early : parsesEarlier parseDate event.observedAt accepted.observedAt with
  | false =>
    have next : Stored sha256 parseDate (withTerminal prior event resolution committedAt) :=
      ⟨readable, fits.mpr early⟩
    rw [writeRecord_run before event next]
    exact .settled command route sent event accepted resolution now prior committedAt found same
      held present fence receipt unended next
  | true =>
    have unfit : ¬ TerminalFits parseDate (withTerminal prior event resolution committedAt) := by
      rw [fits, early]
      exact Bool.true_eq_false.mp
    rw [writeRecord, readable.parse_unfit unfit, Program.run_check_error_bind]
    exact .refused (.early ⟨command, route, event, resolution, now, prior, accepted, rfl, found,
      held, early⟩)

/-- A call to settle an event settles it, finds it settled, or is refused. -/
theorem settleEvent_effect (separates : SeparatesJson sha256) (reads : ReadsDates parseDate)
    (sound : Sound sha256 parseDate before) :
    Effect sha256 parseDate before (.settleEvent command route event resolution now)
      ((settleEvent sha256 parseDate command route event resolution now).run before).1
      ((settleEvent sha256 parseDate command route event resolution now).run before).2 := by
  unfold settleEvent
  simp only [Program.run_read_bind, id_eq, assertOpen, sound.opened, rejectIf, Bool.false_eq_true,
    ↓reduceIte, ok_bind]
  cases checked : validateSettleWorkspaceDispatchEventInput parseDate command route event
      resolution with
  | error failure => exact .refused (.input checked)
  | ok _ =>
    rw [Program.run_check_ok_bind, Program.run_bind]
    have valid : parseDeviceWorkspaceListCommand command = .ok () := by
      simp only [validateSettleWorkspaceDispatchEventInput, bind_eq_ok, exists_unit] at checked
      exact checked.1
    cases found : before.records.find command.executionId with
    | none =>
      obtain ⟨failure, conflict, ran⟩ := requiredRecord_absent sha256 parseDate valid found
      rw [ran]
      exact .refused (.conflict conflict)
    | some prior =>
      have stored := (sound.records _ _ found).2
      rw [requiredRecord_found separates sound valid found]
      by_cases same : prior.command = command
      case neg =>
        rw [if_neg same]
        exact .refused (.conflict (conflict_of_mem (by simp [conflictCodes])))
      rw [if_pos same]
      simp only
      cases held : prior.acceptedEvent with
      | none => exact .refused (.conflict (conflict_of_mem (by simp [conflictCodes])))
      | some accepted =>
        obtain ⟨sent, present⟩ := stored.sent_of_accepted held
        simp only [present]
        by_cases alike : sameWorkspaceDispatchRouteFence sent route = true ∧
            accepted.receiptId = event.receiptId
        case neg =>
          rw [if_pos (by simpa [-not_and, not_and_or] using alike), Program.run_check_error_bind]
          exact .refused (.conflict (conflict_of_mem (by simp [conflictCodes])))
        rw [if_neg (by simp [alike]), Program.run_check_ok_bind]
        cases ended : prior.terminalEvent with
        | none =>
          have open_ : prior.resolution = none := by
            rw [← Option.isNone_iff_eq_none, ← stored.ended, ended]
            rfl
          simp only [open_]
          cases shown : nowTimestamp now with
          | error failure =>
            simp only [error_bind, Program.run_check_error_bind]
            refine .refused (.conflict ?_)
            unfold nowTimestamp at shown
            split at shown
            · obtain rfl := Except.error.inj shown
              exact conflict_of_mem (by simp [conflictCodes])
            · cases shown
          | ok committedAt =>
            rw [ok_bind, requireWorkspaceDispatchNotBefore, rejectIf]
            cases late : parsesEarlier parseDate committedAt prior.updatedAt with
            | true =>
              simp only [↓reduceIte, error_bind, Program.run_check_error_bind]
              exact .refused (.conflict (conflict_of_mem (by simp [conflictCodes])))
            | false =>
              have instant : (pure committedAt : Checked JsString) = .ok committedAt := rfl
              simp only [Bool.false_eq_true, ↓reduceIte, ok_bind, instant,
                Program.run_check_ok_bind]
              have written := settle_write reads stored checked found same held present alike.1
                alike.2 ended shown late
              simp only [withTerminal, held, present] at written
              exact written
        | some terminal =>
          obtain ⟨resolved, told⟩ := stored.resolved_of_ended ended
          simp only [told]
          by_cases again : sameWorkspaceDispatchJson terminal.json event.json = true ∧
              sameWorkspaceDispatchJson resolved.json resolution.json = true
          · rw [if_neg (by simp [again]), Program.run_check_ok_bind, commitResult_run stored]
            exact .settledBefore command route event terminal resolution now prior
              ⟨found, same, ⟨sent, present, alike.1⟩, ⟨accepted, held, alike.2⟩, ended,
                ⟨resolved, told, again.2⟩, again.1⟩
          · rw [if_pos (by simpa [-not_and, not_and_or] using again), Program.run_check_error_bind]
            exact .refused (.conflict (conflict_of_mem (by simp [conflictCodes])))

/-- Loading a record changes nothing. -/
theorem load_effect (sound : Sound sha256 parseDate before) {executionId : JsString} :
    Effect sha256 parseDate before (.load executionId)
      ((load sha256 parseDate executionId).run before).1
      ((load sha256 parseDate executionId).run before).2 := by
  unfold load
  simp only [Program.run_read_bind, id_eq, assertOpen, sound.opened, rejectIf, Bool.false_eq_true,
    ↓reduceIte, ok_bind]
  cases read : before.kinds.kind executionId with
  | error failure =>
    refine .refused (.input ?_)
    unfold DeviceExecutionKinds.kind at read
    rcases bind_eq_error.mp read with invalid | ⟨_, _, done⟩
    · exact invalid
    · cases done
  | ok kind =>
    rw [Program.run_check_ok_bind]
    by_cases tool : kind = some .tool
    · rw [if_pos tool]
      exact .loaded executionId none
    · rw [if_neg tool]
      have parsed : whenPresent (before.records.find executionId)
          (parseWorkspaceDispatchAuthorityRecord sha256 parseDate) = .ok () :=
        whenPresent_eq_ok.mpr fun record found =>
          parse_eq_ok.mpr (sound.records executionId record found).2
      simp only [parsed, Program.run_check_ok_bind]
      exact .loaded executionId _

/-- What a call does to the store. -/
theorem perform_effect (separates : SeparatesJson sha256) (reads : ReadsDates parseDate)
    (sound : Sound sha256 parseDate before) (operation : WorkspaceDispatchOperation) :
    Effect sha256 parseDate before operation
      ((perform sha256 parseDate operation).run before).1
      ((perform sha256 parseDate operation).run before).2 := by
  cases operation with
  | prepare command preparedAt => exact prepare_effect separates sound
  | acceptEvent command route event answer now => exact acceptEvent_effect separates reads sound
  | settleEvent command route event resolution now =>
    exact settleEvent_effect separates reads sound
  | load executionId => exact load_effect sound
  | claimElsewhere executionId kind =>
    unfold perform claimElsewhere
    rw [Program.run_read_bind, id_eq]
    cases claimed : before.kinds.claim executionId kind.kind with
    | error failure =>
      rw [Program.run_check_error_bind]
      rcases claim_eq_error claimed with invalid | conflict
      · exact .refused (.input invalid)
      · exact .refused (.conflict conflict)
    | ok kinds => exact .claimed executionId kind kinds claimed

end Performing

/-- A record goes on as another one: what it says stays, and what it has stays. -/
structure GoesOn (record next : WorkspaceDispatchAuthorityRecord) : Prop where
  command : next.command = record.command
  identity : next.executionId = record.executionId
  fingerprint : next.fingerprint = record.fingerprint
  created : next.createdAt = record.createdAt
  route : ∀ route, record.route = some route → next.route = some route
  accepted : ∀ event, record.acceptedEvent = some event → next.acceptedEvent = some event
  terminal : ∀ event, record.terminalEvent = some event → next.terminalEvent = some event
  resolution : ∀ resolution, record.resolution = some resolution → next.resolution = some resolution

/-- Every record goes on. -/
def Keeps (before after : OrderedMap JsString WorkspaceDispatchAuthorityRecord) : Prop :=
  ∀ executionId record, before.find executionId = some record →
    ∃ next, after.find executionId = some next ∧ GoesOn record next

section Steps

variable {before after : WorkspaceDispatchStore} {operation : WorkspaceDispatchOperation}
  {outcome : Checked WorkspaceDispatchReply}

/-- A record goes on as itself. -/
theorem GoesOn.refl (record : WorkspaceDispatchAuthorityRecord) : GoesOn record record :=
  ⟨rfl, rfl, rfl, rfl, fun _ => id, fun _ => id, fun _ => id, fun _ => id⟩

/-- What goes on twice goes on. -/
theorem GoesOn.trans {first second third : WorkspaceDispatchAuthorityRecord}
    (left : GoesOn first second) (right : GoesOn second third) : GoesOn first third :=
  ⟨right.command.trans left.command, right.identity.trans left.identity,
    right.fingerprint.trans left.fingerprint, right.created.trans left.created,
    fun route held => right.route route (left.route route held),
    fun event held => right.accepted event (left.accepted event held),
    fun event held => right.terminal event (left.terminal event held),
    fun resolution held => right.resolution resolution (left.resolution resolution held)⟩

/-- Records go on as themselves. -/
theorem Keeps.refl (records : OrderedMap JsString WorkspaceDispatchAuthorityRecord) :
    Keeps records records := fun _ record found => ⟨record, found, .refl record⟩

/-- Records that go on twice go on. -/
theorem Keeps.trans {first second third : OrderedMap JsString WorkspaceDispatchAuthorityRecord}
    (left : Keeps first second) (right : Keeps second third) : Keeps first third := by
  intro executionId record found
  obtain ⟨next, there, goes⟩ := left executionId record found
  obtain ⟨last, behind, further⟩ := right executionId next there
  exact ⟨last, behind, goes.trans further⟩

/-- Writing a record under its id keeps the records when the one that stands there goes on. -/
theorem keeps_withRecord {record : WorkspaceDispatchAuthorityRecord}
    (goes : ∀ prior, before.records.find record.executionId = some prior → GoesOn prior record) :
    Keeps before.records (withRecord before record).records := by
  intro executionId prior found
  simp only [withRecord, OrderedMap.find_set]
  by_cases same : executionId = record.executionId
  · rw [if_pos same]
    exact ⟨record, rfl, goes prior (same ▸ found)⟩
  · rw [if_neg same]
    exact ⟨prior, found, .refl prior⟩

/-- A record without a first event goes on with one. -/
theorem goesOn_withAccepted {prior : WorkspaceDispatchAuthorityRecord}
    {event : DeviceWorkspaceListEvent} {current : DeviceWorkspaceListPeerRoute}
    {committedAt : JsString} (blank : prior.route = none) (absent : prior.acceptedEvent = none) :
    GoesOn prior (withAccepted prior event current committedAt) := by
  refine ⟨rfl, rfl, rfl, rfl, ?_, ?_, fun _ => id, fun _ => id⟩
  · intro route held
    exact absurd (blank.symm.trans held) nofun
  · intro found held
    exact absurd (absent.symm.trans held) nofun

/-- A record without an end goes on with one. -/
theorem goesOn_withTerminal {prior : WorkspaceDispatchAuthorityRecord}
    {event : DeviceWorkspaceListEvent} {resolution : DeviceWorkspaceListDispatchResolution}
    {committedAt : JsString} (unended : prior.terminalEvent = none)
    (unresolved : prior.resolution = none) :
    GoesOn prior (withTerminal prior event resolution committedAt) := by
  refine ⟨rfl, rfl, rfl, rfl, fun _ => id, fun _ => id, ?_, ?_⟩
  · intro found held
    exact absurd (unended.symm.trans held) nofun
  · intro found held
    exact absurd (unresolved.symm.trans held) nofun

/-- A record without a last event has no end. -/
theorem Stored.unresolved {prior : WorkspaceDispatchAuthorityRecord}
    (stored : Stored sha256 parseDate prior) (unended : prior.terminalEvent = none) :
    prior.resolution = none := by
  rw [← Option.isNone_iff_eq_none, ← stored.ended, unended]
  rfl

/-- Every call keeps the records. -/
theorem Effect.keeps (effect : Effect sha256 parseDate before operation outcome after)
    (sound : Sound sha256 parseDate before) : Keeps before.records after.records := by
  cases effect with
  | refused | existing | acceptedBefore | settledBefore | loaded | claimed => exact .refl _
  | created command preparedAt fingerprint kinds fresh claimed stored =>
    refine keeps_withRecord ?_
    intro prior found
    exact absurd (fresh.symm.trans found) nofun
  | accepted command route current event answer now prior committedAt found same absent =>
    refine keeps_withRecord ?_
    intro held here
    obtain ⟨identity, stored⟩ := sound.records _ _ found
    have there : before.records.find prior.executionId = some held := here
    rw [identity, found] at there
    obtain rfl := Option.some.inj there
    exact goesOn_withAccepted (stored.blank absent).1 absent
  | settled command route sent event accepted resolution now prior committedAt found same held _ _ _
      unended =>
    refine keeps_withRecord ?_
    intro record here
    obtain ⟨identity, stored⟩ := sound.records _ _ found
    have there : before.records.find prior.executionId = some record := here
    rw [identity, found] at there
    obtain rfl := Option.some.inj there
    exact goesOn_withTerminal unended (stored.unresolved unended)

/-- Writing an accepted record over the one under its id keeps the store sound. -/
theorem Sound.written (sound : Sound sha256 parseDate before)
    {prior record : WorkspaceDispatchAuthorityRecord}
    (found : before.records.find record.executionId = some prior)
    (stored : Stored sha256 parseDate record) :
    Sound sha256 parseDate (withRecord before record) := by
  refine ⟨?_, ?_, sound.opened⟩
  · intro executionId held there
    simp only [withRecord, OrderedMap.find_set] at there
    by_cases same : executionId = record.executionId
    · rw [if_pos same] at there
      obtain rfl := Option.some.inj there
      exact ⟨same.symm, stored⟩
    · rw [if_neg same] at there
      exact sound.records executionId held there
  · intro executionId
    have taken := sound.kinds executionId
    simp only [withRecord, OrderedMap.find_set]
    by_cases same : executionId = record.executionId
    · rw [same, found] at taken
      simpa [same] using taken
    · rw [if_neg same]
      exact taken

/-- Taking an id for another kind leaves the ids of listings alone. -/
theorem find_of_claimElsewhere {kinds : DeviceExecutionKinds} {executionId found : JsString}
    {kind : OtherCommandKind}
    (claimed : before.kinds.claim found kind.kind = .ok kinds) :
    kinds.find executionId = some .workspaceList ↔
      before.kinds.find executionId = some .workspaceList := by
  obtain ⟨_, alike, rfl⟩ := DeviceExecutionKinds.claim_eq_ok.mp claimed
  rw [OrderedMap.find_set]
  by_cases same : executionId = found
  · rw [if_pos same, same]
    constructor
    · intro listing
      cases kind <;> cases listing
    · intro listing
      exact congrArg some (alike _ listing).symm
  · rw [if_neg same]

/-- Every call keeps the store sound. -/
theorem Effect.sound (effect : Effect sha256 parseDate before operation outcome after)
    (sound : Sound sha256 parseDate before) : Sound sha256 parseDate after := by
  cases effect with
  | refused | existing | acceptedBefore | settledBefore | loaded => exact sound
  | created command preparedAt fingerprint kinds fresh claimed stored =>
    obtain ⟨_, _, rfl⟩ := DeviceExecutionKinds.claim_eq_ok.mp claimed
    refine ⟨?_, ?_, sound.opened⟩
    · intro executionId held there
      simp only [withRecord, OrderedMap.find_set, preparedRecord] at there
      by_cases same : executionId = command.executionId
      · rw [if_pos same] at there
        obtain rfl := Option.some.inj there
        exact ⟨same.symm, stored⟩
      · rw [if_neg same] at there
        exact sound.records executionId held there
    · intro executionId
      simp only [withRecord, OrderedMap.find_set, preparedRecord]
      by_cases same : executionId = command.executionId
      · simp [same]
      · simp only [if_neg same]
        exact sound.kinds executionId
  | accepted command route current event answer now prior committedAt found same absent accepts
      authority stored =>
    have here : before.records.find (withAccepted prior event current committedAt).executionId =
        some prior := (congrArg _ (sound.records _ _ found).1).trans found
    exact sound.written here stored
  | settled command route sent event accepted resolution now prior committedAt found same held
      present fence receipt unended stored =>
    have here : before.records.find (withTerminal prior event resolution committedAt).executionId =
        some prior := (congrArg _ (sound.records _ _ found).1).trans found
    exact sound.written here stored
  | claimed executionId kind kinds claimed =>
    exact ⟨sound.records, fun other => (find_of_claimElsewhere claimed).trans (sound.kinds other),
      sound.opened⟩

/-- The event that the record under an id has accepted. -/
def acceptedOf (store : WorkspaceDispatchStore) (executionId : JsString) :
    Option DeviceWorkspaceListEvent :=
  (store.records.find executionId).bind (·.acceptedEvent)

/-- The event that ended the listing of the record under an id. -/
def terminalOf (store : WorkspaceDispatchStore) (executionId : JsString) :
    Option DeviceWorkspaceListEvent :=
  (store.records.find executionId).bind (·.terminalEvent)

/-- The call accepts an event over the connection to its device that is current and not expired at
the instant of the clock. -/
def AcceptsNow (parseDate : JsString → Option Int) (operation : WorkspaceDispatchOperation)
    (event : DeviceWorkspaceListEvent) : Prop :=
  ∃ command route answer now current millis expiry,
    operation = .acceptEvent command route event answer now ∧ answer = .ok (some current) ∧
      event.deviceId = current.deviceId ∧ event.connectionEpoch = current.connectionEpoch ∧
      now = some millis ∧ parseDate current.leaseExpiresAt = some expiry ∧ millis < expiry

/-- The call ends a listing whose record has accepted an event of the same receipt over the same
connection. -/
def EndsBehind (before : WorkspaceDispatchStore) (operation : WorkspaceDispatchOperation)
    (terminal : DeviceWorkspaceListEvent) : Prop :=
  ∃ command route resolution now prior accepted sent,
    operation = .settleEvent command route terminal resolution now ∧
      before.records.find command.executionId = some prior ∧
      prior.acceptedEvent = some accepted ∧ terminal.receiptId = accepted.receiptId ∧
      prior.route = some sent ∧ sameWorkspaceDispatchRouteFence sent route = true ∧
      terminal.deviceId = sent.deviceId ∧ terminal.connectionEpoch = sent.connectionEpoch

/-- An event that is checked for a connection came over it. -/
theorem over_of_requireEvent {event : DeviceWorkspaceListEvent}
    {command : DeviceWorkspaceListCommand} {route : DeviceWorkspaceListPeerRoute}
    {acceptance : Bool}
    (checked : requireEvent parseDate acceptance event command (some route) = .ok ()) :
    event.deviceId = route.deviceId ∧ event.connectionEpoch = route.connectionEpoch := by
  simp only [requireEvent, parseDeviceWorkspaceListEventForCommand, bind_eq_ok, exists_unit,
    rejectIf_eq_ok, not_or, ne_eq, not_not, Option.any_some, decide_eq_true_eq] at checked
  obtain ⟨⟨_, _, ⟨_, _, _, _, _, _, _, _, epoch⟩, _⟩, _, device⟩ := checked
  exact ⟨device, epoch⟩

/-- What stands under an id behind the writing of a record. -/
theorem find_withRecord (before : WorkspaceDispatchStore)
    (record : WorkspaceDispatchAuthorityRecord) (executionId : JsString) :
    (withRecord before record).records.find executionId =
      if executionId = record.executionId then some record
        else before.records.find executionId := OrderedMap.find_set

/-- An event is accepted by a call that accepts it over the current connection. -/
theorem Effect.acceptsNow (effect : Effect sha256 parseDate before operation outcome after)
    (reads : ReadsDates parseDate) (sound : Sound sha256 parseDate before) {executionId : JsString}
    {event : DeviceWorkspaceListEvent} (fresh : acceptedOf before executionId ≠ some event)
    (held : acceptedOf after executionId = some event) : AcceptsNow parseDate operation event := by
  cases effect with
  | refused | existing | acceptedBefore | settledBefore | loaded | claimed =>
    exact absurd held fresh
  | created command preparedAt fingerprint =>
    have read := find_withRecord before (preparedRecord command preparedAt fingerprint) executionId
    simp only [acceptedOf] at held fresh
    rw [read] at held
    split at held
    · cases held
    · exact absurd held fresh
  | accepted command route current found answer now prior committedAt there same absent accepts
      authority =>
    simp only [acceptedOf, find_withRecord] at held fresh
    split at held
    · obtain rfl := Option.some.inj held
      obtain ⟨answered, valid, fence, shown, unexpired, _⟩ :=
        acceptanceAuthority_eq_ok.mp authority
      obtain ⟨device, epoch⟩ := over_of_requireEvent accepts
      obtain ⟨sameDevice, _, _, sameEpoch⟩ := fence_eq_true.mp fence
      obtain ⟨millis, clock, written⟩ := nowTimestamp_eq_ok.mp shown
      have lasting : isWrittenDate parseDate current.leaseExpiresAt = true := by
        simp only [parseWorkspaceDispatchRoute, requireWorkspaceDispatchTimestamp, bind_eq_ok,
          exists_unit, rejectIf_eq_ok, Bool.not_eq_false] at valid
        exact valid.2.2.2.2
      obtain ⟨expiry, named⟩ := Option.isSome_iff_exists.mp (named_of_written lasting)
      simp only [parsesAtOrAfter, reads millis committedAt written, named, decide_eq_false_iff_not,
        Int.not_le] at unexpired
      exact ⟨command, route, answer, now, current, millis, expiry, rfl, answered,
        device.trans sameDevice.symm, epoch.trans sameEpoch.symm, clock, named, unexpired⟩
    · exact absurd held fresh
  | settled command route sent found accepted resolution now prior committedAt there same here =>
    simp only [acceptedOf, find_withRecord] at held fresh
    split at held
    · next identity =>
      have place : executionId = command.executionId :=
        identity.trans (sound.records _ _ there).1
      rw [place, there] at fresh
      exact absurd held fresh
    · exact absurd held fresh

/-- A listing is ended by a call that ends it behind the event that accepted its command. -/
theorem Effect.endsBehind (effect : Effect sha256 parseDate before operation outcome after)
    (sound : Sound sha256 parseDate before) {executionId : JsString}
    {terminal : DeviceWorkspaceListEvent} (fresh : terminalOf before executionId ≠ some terminal)
    (held : terminalOf after executionId = some terminal) :
    EndsBehind before operation terminal := by
  cases effect with
  | refused | existing | acceptedBefore | settledBefore | loaded | claimed =>
    exact absurd held fresh
  | created command preparedAt fingerprint =>
    have read := find_withRecord before (preparedRecord command preparedAt fingerprint) executionId
    simp only [terminalOf] at held fresh
    rw [read] at held
    split at held
    · cases held
    · exact absurd held fresh
  | accepted command route current found answer now prior committedAt there =>
    simp only [terminalOf, find_withRecord] at held fresh
    split at held
    · next identity =>
      have place : executionId = command.executionId :=
        identity.trans (sound.records _ _ there).1
      rw [place, there] at fresh
      exact absurd held fresh
    · exact absurd held fresh
  | settled command route sent found accepted resolution now prior committedAt there same here
      present fence receipt unended stored =>
    simp only [terminalOf, find_withRecord] at held fresh
    split at held
    · obtain rfl := Option.some.inj held
      have checked := stored.terminal found rfl
      have route_held : (withTerminal prior found resolution committedAt).route = some sent :=
        present
      rw [route_held] at checked
      obtain ⟨device, epoch⟩ := over_of_requireEvent checked
      exact ⟨command, route, resolution, now, prior, accepted, sent, rfl, there, here, receipt.symm,
        present, fence, device, epoch⟩
    · exact absurd held fresh

/-- A call that fails leaves the store alone. -/
theorem Effect.unchanged {failure : Failure}
    (effect : Effect sha256 parseDate before operation (.error failure) after) :
    after = before ∧ Refusal parseDate before operation failure := by
  cases effect with
  | refused reason => exact ⟨rfl, reason⟩

end Steps

section Replays

variable {before after : WorkspaceDispatchStore} {command : DeviceWorkspaceListCommand}
  {route : DeviceWorkspaceListPeerRoute} {event accepted terminal : DeviceWorkspaceListEvent}
  {resolution : DeviceWorkspaceListDispatchResolution}
  {prior : WorkspaceDispatchAuthorityRecord}
  {answer : Checked (Option DeviceWorkspaceListPeerRoute)} {now : Option Int}

/-- What a call to accept an event leaves, when it is answered. -/
theorem accepted_of_effect {result : CommitWorkspaceDispatchEventResult}
    (sound : Sound sha256 parseDate before)
    (effect : Effect sha256 parseDate before (.acceptEvent command route event answer now)
      (.ok (.commits result)) after) :
    ∃ accepted prior, Accepted after command route event accepted prior ∧
      result.acknowledgement = acknowledgement accepted := by
  cases effect with
  | acceptedBefore _ _ _ accepted _ _ prior held => exact ⟨accepted, prior, held, rfl⟩
  | accepted _ _ current _ _ _ prior committedAt found same absent accepts authority stored =>
    have fence := (acceptanceAuthority_eq_ok.mp authority).2.2.1
    refine ⟨event, withAccepted prior event current committedAt, ⟨?_, same, ⟨current, rfl, fence⟩,
      rfl, by simp [sameWorkspaceDispatchJson]⟩, rfl⟩
    rw [find_withRecord, if_pos]
    exact (sound.records _ _ found).1.symm

/-- An accepted event stays accepted. -/
theorem Accepted.keep (held : Accepted before command route event accepted prior)
    (keeps : Keeps before.records after.records) :
    ∃ next, Accepted after command route event accepted next := by
  obtain ⟨next, found, goes⟩ := keeps _ _ held.found
  obtain ⟨sent, present, fence⟩ := held.fence
  exact ⟨next, found, goes.command.trans held.command, ⟨sent, goes.route sent present, fence⟩,
    goes.accepted accepted held.held, held.same⟩

variable (answer now) in
/-- A call to accept an event that has been accepted is answered as before. -/
theorem Accepted.replays (held : Accepted before command route event accepted prior)
    (separates : SeparatesJson sha256) (sound : Sound sha256 parseDate before)
    (valid : validateAcceptWorkspaceDispatchEventInput parseDate command route event = .ok ()) :
    (perform sha256 parseDate (.acceptEvent command route event answer now)).run before =
      (.ok (.commits ⟨.replayed, prior, acknowledgement accepted⟩), before) := by
  have stored := (sound.records _ _ held.found).2
  have parsed : parseDeviceWorkspaceListCommand command = .ok () := by
    simp only [validateAcceptWorkspaceDispatchEventInput, bind_eq_ok, exists_unit] at valid
    exact valid.1
  obtain ⟨sent, present, fence⟩ := held.fence
  unfold perform acceptEvent
  simp only [Program.run_read_bind, id_eq, assertOpen, sound.opened, rejectIf, Bool.false_eq_true,
    ↓reduceIte, ok_bind, valid, Program.run_check_ok_bind]
  rw [Program.run_bind, requiredRecord_found separates sound parsed held.found,
    if_pos held.command]
  simp only [held.held, present, Option.any_some, fence, not_true_eq_false, held.same, false_or,
    Bool.true_eq_false, ↓reduceIte, Program.run_check_ok_bind, commitResult_run stored]

/-- What a call to settle an event leaves, when it is answered. -/
theorem settled_of_effect {result : CommitWorkspaceDispatchEventResult}
    (sound : Sound sha256 parseDate before)
    (effect : Effect sha256 parseDate before (.settleEvent command route event resolution now)
      (.ok (.commits result)) after) :
    ∃ terminal prior, Settled after command route event resolution terminal prior ∧
      result.acknowledgement = acknowledgement terminal := by
  cases effect with
  | settledBefore _ _ _ terminal _ _ prior held => exact ⟨terminal, prior, held, rfl⟩
  | settled _ _ sent _ accepted _ _ prior committedAt found same held present fence receipt =>
    refine ⟨event, withTerminal prior event resolution committedAt, ⟨?_, same,
      ⟨sent, present, fence⟩, ⟨accepted, held, receipt⟩, rfl,
      ⟨resolution, rfl, by simp [sameWorkspaceDispatchJson]⟩,
      by simp [sameWorkspaceDispatchJson]⟩, rfl⟩
    rw [find_withRecord, if_pos]
    exact (sound.records _ _ found).1.symm

/-- A settled event stays settled. -/
theorem Settled.keep (held : Settled before command route event resolution terminal prior)
    (keeps : Keeps before.records after.records) :
    ∃ next, Settled after command route event resolution terminal next := by
  obtain ⟨next, found, goes⟩ := keeps _ _ held.found
  obtain ⟨sent, present, fence⟩ := held.fence
  obtain ⟨accepted, first, receipt⟩ := held.held
  obtain ⟨resolved, told, same⟩ := held.resolved
  exact ⟨next, found, goes.command.trans held.command, ⟨sent, goes.route sent present, fence⟩,
    ⟨accepted, goes.accepted accepted first, receipt⟩, goes.terminal terminal held.ended,
    ⟨resolved, goes.resolution resolved told, same⟩, held.same⟩

variable (now) in
/-- A call to settle an event that has been settled is answered as before. -/
theorem Settled.replays (held : Settled before command route event resolution terminal prior)
    (separates : SeparatesJson sha256) (sound : Sound sha256 parseDate before)
    (valid : validateSettleWorkspaceDispatchEventInput parseDate command route event resolution =
      .ok ()) :
    (perform sha256 parseDate (.settleEvent command route event resolution now)).run before =
      (.ok (.commits ⟨.replayed, prior, acknowledgement terminal⟩), before) := by
  have stored := (sound.records _ _ held.found).2
  have parsed : parseDeviceWorkspaceListCommand command = .ok () := by
    simp only [validateSettleWorkspaceDispatchEventInput, bind_eq_ok, exists_unit] at valid
    exact valid.1
  obtain ⟨sent, present, fence⟩ := held.fence
  obtain ⟨accepted, first, receipt⟩ := held.held
  obtain ⟨resolved, told, same⟩ := held.resolved
  unfold perform settleEvent
  simp only [Program.run_read_bind, id_eq, assertOpen, sound.opened, rejectIf, Bool.false_eq_true,
    ↓reduceIte, ok_bind, valid, Program.run_check_ok_bind]
  rw [Program.run_bind, requiredRecord_found separates sound parsed held.found,
    if_pos held.command]
  simp only [first, present, fence, receipt, ne_eq, not_true_eq_false, Bool.true_eq_false, or_self,
    ↓reduceIte, Program.run_check_ok_bind, held.ended, told, held.same, same,
    commitResult_run stored]

variable {sent : DeviceWorkspaceListPeerRoute}

/-- A call to settle an event that was observed earlier than the accepted one finds the record that
it would write corrupt. -/
theorem settle_early (separates : SeparatesJson sha256) (reads : ReadsDates parseDate)
    (sound : Sound sha256 parseDate before)
    (valid : validateSettleWorkspaceDispatchEventInput parseDate command route event resolution =
      .ok ()) (found : before.records.find command.executionId = some prior)
    (same : prior.command = command) (held : prior.acceptedEvent = some accepted)
    (present : prior.route = some sent) (fence : sameWorkspaceDispatchRouteFence sent route = true)
    (receipt : accepted.receiptId = event.receiptId) (unended : prior.terminalEvent = none)
    {committedAt : JsString} (shown : nowTimestamp now = .ok committedAt)
    (late : parsesEarlier parseDate committedAt prior.updatedAt = false)
    (early : parsesEarlier parseDate event.observedAt accepted.observedAt = true) :
    (perform sha256 parseDate (.settleEvent command route event resolution now)).run before =
      (.error (gatewayError "workspace_dispatch_authority_corrupt"), before) := by
  have stored := (sound.records _ _ found).2
  have parsed : parseDeviceWorkspaceListCommand command = .ok () := by
    simp only [validateSettleWorkspaceDispatchEventInput, bind_eq_ok, exists_unit] at valid
    exact valid.1
  have corrupt := (stored.ending reads present fence (same ▸ valid) shown late).parse_unfit (by
    rw [fits_withTerminal held receipt valid, early]
    exact Bool.true_eq_false.mp)
  simp only [withTerminal, held, present] at corrupt
  have instant : (pure committedAt : Checked JsString) = .ok committedAt := rfl
  unfold perform settleEvent
  simp only [Program.run_read_bind, id_eq, assertOpen, sound.opened, rejectIf, Bool.false_eq_true,
    ↓reduceIte, ok_bind, valid, Program.run_check_ok_bind]
  rw [Program.run_bind, requiredRecord_found separates sound parsed found, if_pos same]
  simp only [held, present, fence, receipt, ne_eq, not_true_eq_false, Bool.true_eq_false, or_self,
    ↓reduceIte, Program.run_check_ok_bind, unended, stored.unresolved unended, shown, ok_bind,
    requireWorkspaceDispatchNotBefore, late, rejectIf, Bool.false_eq_true, instant, writeRecord,
    corrupt, Program.run_check_error_bind]

end Replays

section Opening

variable {store opened : WorkspaceDispatchStore}

/-- Taking the id of a record and writing it keeps the store sound. -/
theorem Sound.put (sound : Sound sha256 parseDate store) {record : WorkspaceDispatchAuthorityRecord}
    (stored : Stored sha256 parseDate record) {kinds : DeviceExecutionKinds}
    (claimed : store.kinds.claim record.executionId .workspaceList = .ok kinds) :
    Sound sha256 parseDate { withRecord store record with kinds := kinds } := by
  obtain ⟨_, _, rfl⟩ := DeviceExecutionKinds.claim_eq_ok.mp claimed
  refine ⟨?_, ?_, sound.opened⟩
  · intro executionId held there
    simp only [find_withRecord] at there
    by_cases same : executionId = record.executionId
    · rw [if_pos same] at there
      obtain rfl := Option.some.inj there
      exact ⟨same.symm, stored⟩
    · rw [if_neg same] at there
      exact sound.records executionId held there
  · intro executionId
    simp only [find_withRecord, OrderedMap.find_set]
    by_cases same : executionId = record.executionId
    · simp [same]
    · simp only [if_neg same]
      exact sound.kinds executionId

/-- A store with accepted records of before is sound. -/
theorem sound_putInitialRecords {records : List WorkspaceDispatchAuthorityRecord}
    (sound : Sound sha256 parseDate store)
    (stored : ∀ record ∈ records, Stored sha256 parseDate record)
    (put : putInitialRecords store records = .ok opened) : Sound sha256 parseDate opened := by
  induction records generalizing store with
  | nil => exact pure_eq_ok.mp put ▸ sound
  | cons record rest hypothesis =>
    obtain ⟨kinds, claimed, later⟩ := bind_eq_ok.mp put
    exact hypothesis (sound.put (stored record List.mem_cons_self) claimed)
      (fun other member => stored other (List.mem_cons_of_mem _ member)) later

/-- A store is sound when it is opened while no id is taken for a listing. -/
theorem sound_open {kinds : DeviceExecutionKinds}
    {initialRecords : List WorkspaceDispatchAuthorityRecord}
    (others : ∀ executionId, kinds.find executionId ≠ some .workspaceList)
    (done : openWorkspaceDispatchStore sha256 parseDate kinds initialRecords = .ok opened) :
    Sound sha256 parseDate opened := by
  simp only [openWorkspaceDispatchStore, bind_eq_ok, exists_unit, forEach_eq_ok] at done
  obtain ⟨parsed, _, put⟩ := done
  refine sound_putInitialRecords ⟨?_, ?_, rfl⟩ (fun record member =>
    parse_eq_ok.mp (parsed record member)) put
  · intro executionId record found
    cases found
  · intro executionId
    exact ⟨fun taken => absurd taken (others executionId), fun held => by cases held⟩

end Opening

section Runs

variable (sha256 parseDate)

/-- The store behind some calls. -/
abbrev storeAfter (start : WorkspaceDispatchStore) (operations : List WorkspaceDispatchOperation) :
    WorkspaceDispatchStore := finalState (perform sha256 parseDate) start operations

/-- What a call returns behind some others. -/
abbrev answerOf (start : WorkspaceDispatchStore) (earlier : List WorkspaceDispatchOperation)
    (operation : WorkspaceDispatchOperation) : Checked WorkspaceDispatchReply :=
  ((perform sha256 parseDate operation).run (storeAfter sha256 parseDate start earlier)).1

/-- A call that has been answered once is answered in the same way when it is repeated, whatever the
current connection and the clock are at the two times. -/
def Replays (call : Checked (Option DeviceWorkspaceListPeerRoute) → Option Int →
    WorkspaceDispatchOperation) (start : WorkspaceDispatchStore)
    (operations : List WorkspaceDispatchOperation) : Prop :=
  ∀ earlier between later answer now laterAnswer laterNow result,
    operations = earlier ++ call answer now :: between ++ call laterAnswer laterNow :: later →
    answerOf sha256 parseDate start earlier (call answer now) = .ok (.commits result) →
    ∃ record, answerOf sha256 parseDate start (earlier ++ call answer now :: between)
      (call laterAnswer laterNow) = .ok (.commits ⟨.replayed, record, result.acknowledgement⟩)

/-- What holds along a run of calls. -/
structure Lawful (start : WorkspaceDispatchStore) (operations : List WorkspaceDispatchOperation) :
    Prop where
  /-- Every record of every state that is reached is accepted. -/
  parsed : ∀ earlier later, operations = earlier ++ later → ∀ executionId record,
    (storeAfter sha256 parseDate start earlier).records.find executionId = some record →
      parseWorkspaceDispatchAuthorityRecord sha256 parseDate record = .ok ()
  /-- A call that fails leaves the store alone, and fails for its input, for a conflict, or because
  its event is earlier than the accepted one. -/
  refused : ∀ step ∈ trace (perform sha256 parseDate) start operations, ∀ failure,
    step.outcome = .error failure →
      step.after = step.before ∧ Refusal parseDate step.before step.operation failure
  /-- What a record says and has stays for good. -/
  kept : ∀ earlier between later, operations = earlier ++ between ++ later →
    Keeps (storeAfter sha256 parseDate start earlier).records
      (storeAfter sha256 parseDate start (earlier ++ between)).records
  /-- An event is accepted over the current connection only. -/
  acceptance : ∀ step ∈ trace (perform sha256 parseDate) start operations, ∀ executionId event,
    acceptedOf step.before executionId ≠ some event →
      acceptedOf step.after executionId = some event → AcceptsNow parseDate step.operation event
  /-- A listing is ended only behind the event that accepted its command. -/
  settlement : ∀ step ∈ trace (perform sha256 parseDate) start operations,
    ∀ executionId terminal, terminalOf step.before executionId ≠ some terminal →
      terminalOf step.after executionId = some terminal →
        EndsBehind step.before step.operation terminal
  /-- Accepting an event again is answered as before. -/
  acceptsAgain : ∀ command route event, Replays sha256 parseDate
    (fun answer now => .acceptEvent command route event answer now) start operations
  /-- Settling an event again is answered as before. -/
  settlesAgain : ∀ command route event resolution, Replays sha256 parseDate
    (fun _ now => .settleEvent command route event resolution now) start operations

end Runs

section Laws

variable {start : WorkspaceDispatchStore} {operations : List WorkspaceDispatchOperation}

/-- Every state that calls lead to is sound. -/
theorem sound_storeAfter (separates : SeparatesJson sha256) (reads : ReadsDates parseDate)
    (sound : Sound sha256 parseDate start) (operations : List WorkspaceDispatchOperation) :
    Sound sha256 parseDate (storeAfter sha256 parseDate start operations) :=
  finalState_invariant (Sound sha256 parseDate)
    (fun operation _ held => (perform_effect separates reads held operation).sound held) sound
    operations

/-- Calls keep the records. -/
theorem keeps_storeAfter (separates : SeparatesJson sha256) (reads : ReadsDates parseDate)
    (sound : Sound sha256 parseDate start) (operations : List WorkspaceDispatchOperation) :
    Keeps start.records (storeAfter sha256 parseDate start operations).records := by
  induction operations generalizing start with
  | nil => exact .refl _
  | cons operation later hypothesis =>
    have effect := perform_effect separates reads sound operation
    exact (effect.keeps sound).trans (hypothesis (effect.sound sound))

/-- A step starts from a sound state and does what its call does. -/
theorem effect_of_step (separates : SeparatesJson sha256) (reads : ReadsDates parseDate)
    (sound : Sound sha256 parseDate start)
    {step : Step WorkspaceDispatchOperation Failure WorkspaceDispatchStore WorkspaceDispatchReply}
    (member : step ∈ trace (perform sha256 parseDate) start operations) :
    Sound sha256 parseDate step.before ∧
      Effect sha256 parseDate step.before step.operation step.outcome step.after := by
  have held := (trace_invariant (Sound sha256 parseDate)
    (fun operation _ held => (perform_effect separates reads held operation).sound held) sound
    member).1
  have effect := perform_effect separates reads held step.operation
  rw [run_of_mem_trace member] at effect
  exact ⟨held, effect⟩

/-- A call that returns has a valid input. -/
theorem valid_of_accept {command : DeviceWorkspaceListCommand}
    {route : DeviceWorkspaceListPeerRoute} {event : DeviceWorkspaceListEvent}
    {answer : Checked (Option DeviceWorkspaceListPeerRoute)} {now : Option Int}
    {reply : WorkspaceDispatchReply}
    (done : ((perform sha256 parseDate (.acceptEvent command route event answer now)).run start).1 =
      .ok reply) :
    validateAcceptWorkspaceDispatchEventInput parseDate command route event = .ok () := by
  unfold perform acceptEvent at done
  rw [Program.run_read_bind] at done
  cases valid : validateAcceptWorkspaceDispatchEventInput parseDate command route event with
  | ok _ => rfl
  | error failure =>
    cases opened : assertOpen start with
    | error closed => simp [valid, opened] at done
    | ok _ => simp [valid, opened] at done

/-- A call that returns has a valid input. -/
theorem valid_of_settle {command : DeviceWorkspaceListCommand}
    {route : DeviceWorkspaceListPeerRoute} {event : DeviceWorkspaceListEvent}
    {resolution : DeviceWorkspaceListDispatchResolution} {now : Option Int}
    {reply : WorkspaceDispatchReply}
    (done : ((perform sha256 parseDate
      (.settleEvent command route event resolution now)).run start).1 = .ok reply) :
    validateSettleWorkspaceDispatchEventInput parseDate command route event resolution =
      .ok () := by
  unfold perform settleEvent at done
  rw [Program.run_read_bind] at done
  cases valid : validateSettleWorkspaceDispatchEventInput parseDate command route event
      resolution with
  | ok _ => rfl
  | error failure =>
    cases opened : assertOpen start with
    | error closed => simp [valid, opened] at done
    | ok _ => simp [valid, opened] at done

/-- Accepting an event again is answered as before. -/
theorem acceptsAgain (separates : SeparatesJson sha256) (reads : ReadsDates parseDate)
    (sound : Sound sha256 parseDate start) {command : DeviceWorkspaceListCommand}
    {route : DeviceWorkspaceListPeerRoute} {event : DeviceWorkspaceListEvent} :
    Replays sha256 parseDate (fun answer now => .acceptEvent command route event answer now) start
      operations := by
  intro earlier between later answer now laterAnswer laterNow result _ done
  have before := sound_storeAfter separates reads sound earlier
  have effect := perform_effect separates reads before (.acceptEvent command route event answer now)
  simp only [answerOf] at done
  have valid := valid_of_accept done
  rw [done] at effect
  obtain ⟨accepted, prior, held, same⟩ := accepted_of_effect before effect
  have behind := effect.sound before
  obtain ⟨next, there⟩ := held.keep (keeps_storeAfter separates reads behind between)
  have reached : Sound sha256 parseDate _ := sound_storeAfter separates reads behind between
  have replayed := there.replays laterAnswer laterNow separates reached valid
  refine ⟨next, ?_⟩
  rw [answerOf, storeAfter, finalState_append, finalState, same]
  exact congrArg Prod.fst replayed

/-- Settling an event again is answered as before. -/
theorem settlesAgain (separates : SeparatesJson sha256) (reads : ReadsDates parseDate)
    (sound : Sound sha256 parseDate start) {command : DeviceWorkspaceListCommand}
    {route : DeviceWorkspaceListPeerRoute} {event : DeviceWorkspaceListEvent}
    {resolution : DeviceWorkspaceListDispatchResolution} :
    Replays sha256 parseDate (fun _ now => .settleEvent command route event resolution now) start
      operations := by
  intro earlier between later answer now laterAnswer laterNow result _ done
  have before := sound_storeAfter separates reads sound earlier
  have effect := perform_effect separates reads before
    (.settleEvent command route event resolution now)
  simp only [answerOf] at done
  have valid := valid_of_settle done
  rw [done] at effect
  obtain ⟨terminal, prior, held, same⟩ := settled_of_effect before effect
  have behind := effect.sound before
  obtain ⟨next, there⟩ := held.keep (keeps_storeAfter separates reads behind between)
  have reached : Sound sha256 parseDate _ := sound_storeAfter separates reads behind between
  have replayed := there.replays laterNow separates reached valid
  refine ⟨next, ?_⟩
  rw [answerOf, storeAfter, finalState_append, finalState, same]
  exact congrArg Prod.fst replayed

/-- The store of listings keeps to its law, whatever calls are made in whatever order, whichever
connection is current and whatever the clock shows. -/
theorem lawful (separates : SeparatesJson sha256) (reads : ReadsDates parseDate)
    {kinds : DeviceExecutionKinds} {initialRecords : List WorkspaceDispatchAuthorityRecord}
    (others : ∀ executionId, kinds.find executionId ≠ some .workspaceList)
    (opened : openWorkspaceDispatchStore sha256 parseDate kinds initialRecords = .ok start) :
    Lawful sha256 parseDate start operations := by
  have sound := sound_open others opened
  refine ⟨?_, ?_, ?_, ?_, ?_, ?_, ?_⟩
  · intro earlier later _ executionId record found
    exact parse_eq_ok.mpr
      ((sound_storeAfter separates reads sound earlier).records executionId record found).2
  · intro step member failure failed
    have effect := (effect_of_step separates reads sound member).2
    rw [failed] at effect
    exact effect.unchanged
  · intro earlier between later _
    rw [storeAfter, storeAfter, finalState_append]
    exact keeps_storeAfter separates reads (sound_storeAfter separates reads sound earlier) between
  · intro step member executionId event fresh held
    obtain ⟨before, effect⟩ := effect_of_step separates reads sound member
    exact effect.acceptsNow reads before fresh held
  · intro step member executionId terminal fresh held
    obtain ⟨before, effect⟩ := effect_of_step separates reads sound member
    exact effect.endsBehind before fresh held
  · intro command route event
    exact acceptsAgain separates reads sound
  · intro command route event resolution
    exact settlesAgain separates reads sound

end Laws

section Sample

/-- A listing. -/
def sampleCommand : DeviceWorkspaceListCommand where
  deviceId := js "d"
  executionId := js "e"
  leaseId := js "l"
  leaseEpoch := 3
  expiresAt := js "2026-01-01T01:00:00.000Z"
  workspaceBindingId := js "w"
  incarnationId := js "i"
  deviceBindingId := js "b"
  runtimeBindingId := js "r"
  policySnapshotId := js "p"
  limits := ⟨200, 255, 65536, 1000, 65536, 1000⟩
  actionDigest := uniformDigest 'a'
  commandDigest := uniformDigest 'b'
  idempotencyKey := js "k"
  traceContext := ⟨none, none⟩
  authorization := ⟨js "s", js "2026-01-01T00:00:00.000Z", js "2026-01-01T00:30:00.000Z",
    none, ⟨List.replicate 86 (unit 'A')⟩⟩

/-- Its fingerprint. -/
def sampleFingerprint : JsString :=
  js "sha256:810bd9d95c976e178eac5b5ae2eb0da9c93c631a3218b0408510ea4f3fd0ba93"

/-- The digest of the text of the listing. Any other text stands for its own digest. -/
def sampleSha256 (text : JsString) : JsString :=
  if text = stableJson sampleCommand.json then sampleFingerprint else js "#" ++ text

/-- The digests separate the texts that are written as JSON. -/
theorem separatesJson_sample : SeparatesJson sampleSha256 := by
  intro left right same
  have other (text : JsString) : sampleFingerprint ≠ js "#" ++ text := by
    intro equal
    have named : sampleFingerprint.units.head? = some (unit 's') := head_ofList (by decide)
    rw [equal] at named
    have marks : some (unit '#') = some (unit 's') := named
    exact absurd marks (by decide)
  unfold sampleSha256 at same
  split_ifs at same with first second second
  · exact congrArg JsString.units (first.trans second.symm)
  · exact absurd same (other _)
  · exact absurd same.symm (other _)
  · have units := congrArg JsString.units same
    simp only [JsString.units_append] at units
    exact List.append_cancel_left units

/-- The connection that the listing is sent over. -/
def sampleRoute : DeviceWorkspaceListPeerRoute :=
  ⟨js "d", js "g", js "c", 7, js "2026-01-01T00:45:00.000Z"⟩

/-- An event of the device about the listing. -/
def sampleEvent (sequence : Int) (observedAt : JsString) (data : DeviceWorkspaceListEventData) :
    DeviceWorkspaceListEvent :=
  ⟨js "d", js "e", js "t", 7, js "w", js "i",
    js "b", js "r", uniformDigest 'a', uniformDigest 'b', sequence, observedAt, data⟩

/-- The device accepts the listing. -/
def sampleAccepted : DeviceWorkspaceListEvent :=
  sampleEvent 1 (js "2026-01-01T00:01:00.000Z")
    (.accepted (js "l") 3 (js "2026-01-01T01:00:00.000Z") (js "p"))

/-- The device ends the listing, at an instant in front of the one at which it accepted it. -/
def sampleEarly : DeviceWorkspaceListEvent :=
  sampleEvent 2 (js "2026-01-01T00:00:59.000Z") (.failed (js "workspace_missing") false)

/-- The end of the listing. -/
def sampleEnd : DeviceWorkspaceListDispatchResolution :=
  ⟨.failed, js "e", some (js "t"), some sampleEarly⟩

/-- The record of the accepted listing. -/
def sampleRecord : WorkspaceDispatchAuthorityRecord where
  executionId := js "e"
  fingerprint := sampleFingerprint
  command := sampleCommand
  route := some sampleRoute
  acceptedEvent := some sampleAccepted
  terminalEvent := none
  resolution := none
  createdAt := js "2026-01-01T00:00:30.000Z"
  updatedAt := js "2026-01-01T00:01:01.000Z"

/-- The store with that record. -/
def sampleStore : WorkspaceDispatchStore :=
  ⟨OrderedMap.set .empty (js "e") .workspaceList,
    OrderedMap.set .empty (js "e") sampleRecord, false⟩

/-- A value with a small bound is small. -/
theorem requireJsonSize_of_bound {value : JsonValue} {size : Nat} {maxBytes : Int} {code : String}
    (small : value.widthBound ≤ size) (within : (size : Int) ≤ maxBytes) :
    requireJsonSize value maxBytes code = .ok () := by
  have short := value.encodedSize_le_widthBound
  rw [requireJsonSize, rejectIf_eq_ok]
  omega

theorem size_sample : sampleCommand.json.widthBound ≤ 8000 := by decide_cbv

theorem parsed_sample : parseDeviceWorkspaceListCommand sampleCommand = .ok () := by
  simp only [parseDeviceWorkspaceListCommand, bind_eq_ok, exists_unit]
  refine ⟨?_, ?_, ?_, ?_, ?_, ?_, ?_, ?_, ?_, ?_, ?_, ?_, ?_, ?_, ?_, ?_,
    requireJsonSize_of_bound size_sample (by decide)⟩
  all_goals decide_cbv

theorem fingerprint_sample :
    workspaceDispatchFingerprint sampleSha256 sampleCommand = .ok sampleFingerprint :=
  fingerprint_eq_ok.mpr ⟨parsed_sample, if_pos rfl⟩

theorem route_sample : parseWorkspaceDispatchRoute isoParse sampleRoute = .ok () := by decide_cbv

theorem sizes_sample :
    sampleAccepted.json.widthBound ≤ 8000 ∧ sampleEarly.json.widthBound ≤ 8000 := by decide_cbv

theorem event_sample {sequence : Int} {observedAt : JsString} {data : DeviceWorkspaceListEventData}
    (numbered : requirePositiveInteger sequence (contractError "device_event_sequence_invalid") =
      .ok ()) (seen : requireUtc isoParse observedAt "device_event_timestamp_invalid" = .ok ())
    (told : parseWorkspaceListEventData isoParse (sampleEvent sequence observedAt data) = .ok ())
    (size : (sampleEvent sequence observedAt data).json.widthBound ≤ 8000) :
    parseDeviceWorkspaceListEvent isoParse (sampleEvent sequence observedAt data) = .ok () := by
  simp only [parseDeviceWorkspaceListEvent, bind_eq_ok, exists_unit]
  refine ⟨?_, ?_, ?_, ?_, ?_, ?_, ?_, ?_, numbered, seen, ?_, ?_, told,
    requireJsonSize_of_bound size (by decide)⟩
  all_goals decide_cbv

theorem readable_sample : parseDeviceWorkspaceListEvent isoParse sampleAccepted = .ok () ∧
    parseDeviceWorkspaceListEvent isoParse sampleEarly = .ok () :=
  ⟨event_sample (by decide_cbv) (by decide_cbv) (by decide_cbv) sizes_sample.1,
    event_sample (by decide_cbv) (by decide_cbv) (by decide_cbv) sizes_sample.2⟩

theorem about_sample {event : DeviceWorkspaceListEvent} {sequence : Int} {observedAt : JsString}
    {data : DeviceWorkspaceListEventData} (same : event = sampleEvent sequence observedAt data)
    (readable : parseDeviceWorkspaceListEvent isoParse event = .ok ())
    (fits : parseEventDataForCommand sampleCommand data = .ok ()) {epoch : Option Int}
    (claimed : epoch = none ∨ epoch = some 7) :
    parseDeviceWorkspaceListEventForCommand isoParse event sampleCommand epoch = .ok () := by
  subst same
  simp only [parseDeviceWorkspaceListEventForCommand, readable, parsed_sample, bind_eq_ok,
    exists_unit, true_and, rejectIf_eq_ok]
  refine ⟨?_, fits⟩
  rcases claimed with rfl | rfl <;> simp [sampleEvent, sampleCommand]

theorem accepts_sample :
    requireAcceptedEvent isoParse sampleAccepted sampleCommand (some sampleRoute) = .ok () := by
  have about := about_sample rfl readable_sample.1 rfl (.inr rfl)
  simp only [requireAcceptedEvent, requireEvent, bind_eq_ok, exists_unit]
  exact ⟨about, rfl⟩

theorem stored_sample : Stored sampleSha256 isoParse sampleRecord := by
  refine ⟨⟨parsed_sample, rfl, fingerprint_sample, ?_, ?_, ?_, ?_, rfl, rfl, ?_, ?_, ?_⟩, ?_⟩
  · rintro route ⟨⟩
    exact route_sample
  · rintro event ⟨⟩
    exact accepts_sample
  · rintro event ⟨⟩
  · rintro resolution ⟨⟩
  · show isWrittenDate isoParse (js "2026-01-01T00:00:30.000Z") = true
    decide_cbv
  · show isWrittenDate isoParse (js "2026-01-01T00:01:01.000Z") = true
    decide_cbv
  · show parsesEarlier isoParse (js "2026-01-01T00:01:01.000Z") (js "2026-01-01T00:00:30.000Z") =
      false
    decide_cbv
  · rintro terminal ⟨⟩

theorem opened_sample :
    openWorkspaceDispatchStore sampleSha256 isoParse .empty [sampleRecord] = .ok sampleStore := by
  have parsed := parse_eq_ok.mpr stored_sample
  simp only [openWorkspaceDispatchStore, forEach, parsed, ok_bind]
  rfl

theorem requested_sample :
    parseDeviceWorkspaceListWorkerDispatchRequest sampleCommand = .ok () := by
  have names : (JsonValue.object ([
      ("schemaVersion", JsonValue.string (js "crewon.device-workspace-list-dispatch-request.v0")),
      ("apiVersion", JsonValue.number 1), ("operation", JsonValue.string (js "execute"))] ++
        [("command", JsonValue.null)])).widthBound ≤ 1000 := by decide_cbv
  have size := JsonValue.widthBound_concat_le _ _ names size_sample
  rw [parseDeviceWorkspaceListWorkerDispatchRequest, parsed_sample, ok_bind]
  exact requireJsonSize_of_bound size (by decide)

/-- The end of a listing ends with its last event. -/
theorem endsWith_self {resolution : DeviceWorkspaceListDispatchResolution}
    {event : DeviceWorkspaceListEvent} (last : resolution.terminal = some event) :
    endsWith resolution event = true := by
  simp [endsWith, last, JsonValue.ofOption, sameWorkspaceDispatchJson]

theorem settles_sample :
    validateSettleWorkspaceDispatchEventInput isoParse sampleCommand sampleRoute sampleEarly
      sampleEnd = .ok () := by
  have ends : requireTerminalEvent isoParse sampleEarly sampleCommand (some sampleRoute) =
      .ok () := by
    have about := about_sample rfl readable_sample.2 rfl (.inr rfl)
    simp only [requireTerminalEvent, requireEvent, bind_eq_ok, exists_unit]
    exact ⟨about, rfl⟩
  have resolved : parseWorkspaceResolution isoParse sampleEnd sampleCommand = .ok () := by
    have names : (JsonValue.object ([
        ("schemaVersion", JsonValue.string
          (js "crewon.device-workspace-list-dispatch-response.v0")),
        ("apiVersion", JsonValue.number 1), ("operation", JsonValue.string (js "execute"))] ++
          [("resolution", JsonValue.null)])).widthBound ≤ 1000 := by decide_cbv
    have inner : (JsonValue.object ([("status", JsonValue.string (js "failed")),
        ("executionId", JsonValue.string (js "e")), ("receiptId", JsonValue.string (js "t"))] ++
          [("terminal", JsonValue.null)])).widthBound ≤ 1000 := by decide_cbv
    have size := JsonValue.widthBound_concat_le _ _ names
      (JsonValue.widthBound_concat_le _ _ inner sizes_sample.2)
    have about := about_sample rfl readable_sample.2 rfl (.inl rfl)
    simp only [parseWorkspaceResolution, parseDeviceWorkspaceListWorkerDispatchResponse,
      requested_sample, bind_eq_ok, exists_unit, true_and]
    refine ⟨?_, requireJsonSize_of_bound size (by decide)⟩
    have ended : parseTerminalResolution isoParse sampleEnd sampleCommand = .ok () := by
      simp only [parseTerminalResolution, sampleEnd, bind_eq_ok, exists_unit]
      exact ⟨by decide_cbv, about, by decide_cbv⟩
    simp only [parseResolution, bind_eq_ok, exists_unit]
    exact ⟨by decide_cbv, by decide_cbv, ended⟩
  have same : endsWith sampleEnd sampleEarly = true := endsWith_self rfl
  simp only [validateSettleWorkspaceDispatchEventInput, parsed_sample, route_sample, ends, resolved,
    same, ok_bind, rejectIf, Bool.true_eq_false, ↓reduceIte]

theorem others_sample (executionId : JsString) :
    (OrderedMap.empty : DeviceExecutionKinds).find executionId ≠ some .workspaceList := nofun

/-- A run that settles an event that is too early, and accepts again what has been accepted. -/
def sampleRun : List WorkspaceDispatchOperation :=
  [.settleEvent sampleCommand sampleRoute sampleEarly sampleEnd (some 1767225723000),
    .acceptEvent sampleCommand sampleRoute sampleAccepted (.ok none) none]

theorem lawful_sample : SeparatesJson sampleSha256 ∧ ReadsDates isoParse ∧
    (∀ executionId, (OrderedMap.empty : DeviceExecutionKinds).find executionId ≠
      some .workspaceList) ∧
    openWorkspaceDispatchStore sampleSha256 isoParse .empty [sampleRecord] = .ok sampleStore ∧
    Lawful sampleSha256 isoParse sampleStore sampleRun :=
  ⟨separatesJson_sample, readsDates_isoParse, others_sample, opened_sample,
    lawful separatesJson_sample readsDates_isoParse others_sample opened_sample⟩

/-- Settling an event that was observed earlier than the accepted one fails with the code of a
corrupt record. -/
theorem early_end_is_corrupt : SeparatesJson sampleSha256 ∧ ReadsDates isoParse ∧
    openWorkspaceDispatchStore sampleSha256 isoParse .empty [sampleRecord] = .ok sampleStore ∧
    answerOf sampleSha256 isoParse sampleStore []
      (.settleEvent sampleCommand sampleRoute sampleEarly sampleEnd (some 1767225723000)) =
        .error (gatewayError "workspace_dispatch_authority_corrupt") := by
  refine ⟨separatesJson_sample, readsDates_isoParse, opened_sample, ?_⟩
  have sound := sound_open others_sample opened_sample
  have shown : nowTimestamp (some 1767225723000) = .ok (js "2026-01-01T00:02:03.000Z") := by
    decide_cbv
  have fence : sameWorkspaceDispatchRouteFence sampleRoute sampleRoute = true :=
    fence_eq_true.mpr ⟨rfl, rfl, rfl, rfl⟩
  have late : parsesEarlier isoParse (js "2026-01-01T00:02:03.000Z") sampleRecord.updatedAt =
      false := by
    show parsesEarlier isoParse _ (js "2026-01-01T00:01:01.000Z") = false
    decide_cbv
  have early : parsesEarlier isoParse sampleEarly.observedAt sampleAccepted.observedAt = true := by
    decide_cbv
  have refused := settle_early separatesJson_sample readsDates_isoParse sound settles_sample
    OrderedMap.find_set_self rfl rfl rfl fence rfl rfl shown late early
  rw [answerOf, storeAfter, finalState, refused]

end Sample

end Crewon.Verif.WorkspaceDispatch
