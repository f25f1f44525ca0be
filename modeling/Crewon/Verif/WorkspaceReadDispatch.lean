import Crewon.Gateway.WorkspaceReadDispatchStore
import Crewon.Js.JsonInjective
import Mathlib

/-!
# The record of a read is written once

A commit of a first event computes the record that it writes from the one it read before it waited.
As long as no other first event and no last event was written in between, an event stays in its
record for good. Otherwise it is lost.
-/

namespace Crewon.Verif.WorkspaceReadDispatch

open Crewon.Js Crewon.Checked Crewon.Domain Crewon.Contracts Crewon.Lib Crewon.Gateway

variable {sha256 : JsString → JsString} {parseDate : JsString → Option Int}

/-- The digest of a command is the one of the text that its signature is over. -/
theorem commandDigest_eq_ok {command : DeviceFilesystemReadCommand} {digest : JsString} :
    commandDigest sha256 command = .ok digest ↔
      parseDeviceFilesystemReadCommand command = .ok () ∧
        parseDeviceExecutionCommand command.execution = .ok () ∧
          sha256 (stableJson command.execution.signingValue) = digest := by
  simp only [commandDigest, canonicalDeviceFilesystemReadCommandDigest,
    canonicalDeviceCommandSigningPayload, bind_eq_ok, exists_unit, pure_eq_ok]
  constructor
  · rintro ⟨parsed, payload, ⟨accepted, rfl⟩, digested⟩
    exact ⟨parsed, accepted, digested⟩
  · rintro ⟨parsed, accepted, digested⟩
    exact ⟨parsed, _, ⟨accepted, rfl⟩, digested⟩

/-- The fingerprint of a read is the digest of its command and of a connection to its device. -/
theorem fingerprintFor_eq_ok {command : DeviceFilesystemReadCommand}
    {route : WorkspaceReadRouteFence} {fingerprint : JsString} :
    fingerprintFor sha256 command route = .ok fingerprint ↔
      parseWorkspaceReadRouteFence route (some command.deviceId) = .ok () ∧
        ∃ digest, commandDigest sha256 command = .ok digest ∧
          sha256 ⟨(fingerprintValue digest route).write⟩ = fingerprint := by
  simp only [fingerprintFor, bind_eq_ok, exists_unit, pure_eq_ok]

/-- A connection to a device is one of that device. -/
theorem deviceId_of_route {route : WorkspaceReadRouteFence} {deviceId : JsString}
    (valid : parseWorkspaceReadRouteFence route (some deviceId) = .ok ()) :
    route.deviceId = deviceId := by
  simp only [parseWorkspaceReadRouteFence, bind_eq_ok, exists_unit, rejectIf_eq_ok,
    Option.any_some, decide_eq_true_eq, not_or, ne_eq, not_not] at valid
  exact valid.2.2.1.1

/-- Connections that are found the same are the same. -/
theorem sameRoute_eq_ok {left right : WorkspaceReadRouteFence} {same : Bool}
    (compared : sameRoute left right = .ok same) : same = decide (left = right) := by
  simp only [sameRoute, bind_eq_ok, exists_unit, pure_eq_ok] at compared
  exact compared.2.2.symm

section Identity

variable {command other : DeviceFilesystemReadCommand}

/-- What a command says under a name of its signed fields. -/
theorem command_of_digest (separates : SeparatesJson sha256)
    (same : sha256 (stableJson command.execution.signingValue) =
      sha256 (stableJson other.execution.signingValue)) {name : String} {value : JsonValue}
    (member : (name, value) ∈ command.execution.unsignedFields) :
    ∃ found, (name, found) ∈ other.execution.unsignedFields ∧
      found.stabilize = value.stabilize := by
  have stable : command.execution.signingValue.stabilize =
      other.execution.signingValue.stabilize := separates.inj same
  obtain ⟨found, listed, fields⟩ := field_of_stabilize stable
    (show ("command", JsonValue.object command.execution.unsignedFields) ∈ _ by simp)
  have inner : found = .object other.execution.unsignedFields := by
    simpa using listed
  rw [inner] at fields
  exact field_of_stabilize fields.symm member

/-- Commands with the same digest are for the same binding of a workspace. -/
theorem workspaceBindingId_of_digest (separates : SeparatesJson sha256)
    (same : sha256 (stableJson command.execution.signingValue) =
      sha256 (stableJson other.execution.signingValue)) :
    command.workspaceBindingId = other.workspaceBindingId := by
  have signed : ("workspaceBindingId", JsonValue.string command.workspaceBindingId) ∈
      command.execution.unsignedFields := by
    simp [DeviceExecutionCommand.unsignedFields, DeviceFilesystemReadCommand.execution]
  obtain ⟨found, listed, stable⟩ := command_of_digest separates same signed
  have value : found = .string other.workspaceBindingId := by
    simpa [DeviceExecutionCommand.unsignedFields, DeviceFilesystemReadCommand.execution] using
      listed
  rw [value] at stable
  simpa [JsonValue.stabilize] using stable.symm

/-- Commands with the same digest are for the same incarnation of a workspace. -/
theorem incarnationId_of_digest (separates : SeparatesJson sha256)
    (same : sha256 (stableJson command.execution.signingValue) =
      sha256 (stableJson other.execution.signingValue)) :
    command.arguments.workspaceIncarnationId = other.arguments.workspaceIncarnationId := by
  have signed : ("arguments", command.arguments.json) ∈ command.execution.unsignedFields := by
    simp [DeviceExecutionCommand.unsignedFields, DeviceFilesystemReadCommand.execution]
  obtain ⟨found, listed, stable⟩ := command_of_digest separates same signed
  have value : found = other.arguments.json := by
    simpa [DeviceExecutionCommand.unsignedFields, DeviceFilesystemReadCommand.execution] using
      listed
  rw [value] at stable
  have argument : ("workspaceIncarnationId",
      JsonValue.string command.arguments.workspaceIncarnationId) ∈
      [("schemaVersion", JsonValue.string (js "crewon.device-filesystem-read-arguments.v0")),
        ("workspaceIncarnationId", .string command.arguments.workspaceIncarnationId),
        ("relativePathSegments", .array (command.arguments.relativePathSegments.map .string)),
        ("encoding", .string (js "utf8"))] := by simp
  obtain ⟨inner, member, equal⟩ := field_of_stabilize stable.symm argument
  have text : inner = .string other.arguments.workspaceIncarnationId := by
    simpa using member
  rw [text] at equal
  simpa [JsonValue.stabilize] using equal.symm

/-- Commands with the same digest. -/
theorem digest_of_fingerprint (separates : SeparatesJson sha256) {route : WorkspaceReadRouteFence}
    {fingerprint : JsString} (first : fingerprintFor sha256 command route = .ok fingerprint)
    (second : fingerprintFor sha256 other route = .ok fingerprint) :
    ∃ digest, commandDigest sha256 command = .ok digest ∧
      commandDigest sha256 other = .ok digest := by
  obtain ⟨_, digest, digested, written⟩ := fingerprintFor_eq_ok.mp first
  obtain ⟨_, otherDigest, otherDigested, otherWritten⟩ := fingerprintFor_eq_ok.mp second
  have values : fingerprintValue digest route = fingerprintValue otherDigest route :=
    separates.inj (written.trans otherWritten.symm)
  simp only [fingerprintValue, JsonValue.object.injEq, List.cons.injEq, Prod.mk.injEq,
    JsonValue.string.injEq, true_and, and_true] at values
  exact ⟨digest, digested, values ▸ otherDigested⟩

/-- An event about a command is one about every command with the same fingerprint and id. -/
theorem eventIdentity_of_fingerprint (separates : SeparatesJson sha256)
    {route : WorkspaceReadRouteFence} {fingerprint : JsString} {event : DeviceFilesystemReadEvent}
    {epoch : Int} (first : fingerprintFor sha256 command route = .ok fingerprint)
    (second : fingerprintFor sha256 other route = .ok fingerprint)
    (execution : command.executionId = other.executionId)
    (identity : requireEventIdentity sha256 command event epoch = .ok ()) :
    requireEventIdentity sha256 other event epoch = .ok () := by
  obtain ⟨digest, digested, otherDigested⟩ := digest_of_fingerprint separates first second
  have device : command.deviceId = other.deviceId := by
    rw [← deviceId_of_route (fingerprintFor_eq_ok.mp first).1,
      ← deviceId_of_route (fingerprintFor_eq_ok.mp second).1]
  have payloads : sha256 (stableJson command.execution.signingValue) =
      sha256 (stableJson other.execution.signingValue) := by
    rw [(commandDigest_eq_ok.mp digested).2.2, (commandDigest_eq_ok.mp otherDigested).2.2]
  have binding := workspaceBindingId_of_digest separates payloads
  have incarnation := incarnationId_of_digest separates payloads
  simp only [requireEventIdentity, bind_eq_ok, exists_unit, digested, otherDigested, device,
    execution, binding, incarnation] at identity ⊢
  exact identity

end Identity

section Records

variable {record prior next : WorkspaceReadDispatchRecord}

/-- What the checks of a record ask for. -/
structure Stored (sha256 : JsString → JsString) (parseDate : JsString → Option Int)
    (record : WorkspaceReadDispatchRecord) (route : WorkspaceReadRouteFence) : Prop where
  sent : record.route = some route
  command : parseDeviceFilesystemReadCommand record.command = .ok ()
  fence : parseWorkspaceReadRouteFence route (some record.command.deviceId) = .ok ()
  accepted : ∀ event, record.acceptedEvent = some event →
    parseDeviceFilesystemReadEvent sha256 event = .ok () ∧
      requireEventIdentity sha256 record.command event route.connectionEpoch = .ok ()
  terminal : ∀ event, record.terminalEvent = some event →
    parseDeviceFilesystemReadEvent sha256 event = .ok () ∧
      parseTerminalEvent sha256 record route event = .ok ()
  created : requireStoreTimestamp parseDate record.createdAt = .ok ()
  updated : requireStoreTimestamp parseDate record.updatedAt = .ok ()
  fingerprint : fingerprintFor sha256 record.command route = .ok record.fingerprint
  identity : record.executionId = record.command.executionId
  inOrder : parsesEarlier parseDate record.updatedAt record.createdAt = false
  ended : mapPresent record.terminalEvent resolution = .ok record.resolution

/-- A record is accepted exactly when the checks are met. -/
theorem parse_eq_ok : parseWorkspaceReadDispatchRecord sha256 parseDate record = .ok () ↔
    ∃ route, Stored sha256 parseDate record route := by
  unfold parseWorkspaceReadDispatchRecord
  cases sent : record.route with
  | none =>
    simp only [bind_eq_ok, exists_unit, reduceCtorEq, and_false, false_iff]
    rintro ⟨route, stored⟩
    rw [stored.sent] at sent
    cases sent
  | some route =>
    simp only [bind_eq_ok, exists_unit, whenPresent_eq_ok, rejectIf_eq_ok, not_or, ne_eq, not_not,
      Bool.not_eq_true]
    constructor
    · rintro ⟨command, fence, accepted, terminal, created, updated, fingerprint, digested,
        ⟨identity, same, inOrder⟩, acceptedIdentity, terminalIdentity, expected, ended, told⟩
      exact ⟨route, sent, command, fence,
        fun event present => ⟨accepted event present, acceptedIdentity event present⟩,
        fun event present => ⟨terminal event present, terminalIdentity event present⟩,
        created, updated, same ▸ digested, identity, inOrder, told ▸ ended⟩
    · rintro ⟨found, stored⟩
      obtain rfl : route = found := Option.some.inj (sent.symm.trans stored.sent)
      exact ⟨stored.command, stored.fence, fun event present => (stored.accepted event present).1,
        fun event present => (stored.terminal event present).1, stored.created, stored.updated,
        _, stored.fingerprint, ⟨stored.identity, rfl, stored.inOrder⟩,
        fun event present => (stored.accepted event present).2,
        fun event present => (stored.terminal event present).2, _, stored.ended, rfl⟩

variable {route : WorkspaceReadRouteFence} {event : DeviceFilesystemReadEvent} {now : Option Int}

/-- A last event stands behind a first one of the same receipt that is not later. -/
theorem Stored.behind (stored : Stored sha256 parseDate record route)
    (present : record.terminalEvent = some event) :
    ∃ first, record.acceptedEvent = some first ∧ event.receiptId = first.receiptId ∧
      isEarlier event.observedAt first.observedAt = false := by
  have checked := (stored.terminal event present).2
  simp only [parseTerminalEvent, bind_eq_ok, exists_unit, rejectIf_eq_ok, not_not] at checked
  obtain ⟨first, found, told⟩ := (Option.any_eq_true _ _).mp checked.2
  exact ⟨first, found, of_decide_eq_true told⟩

/-- A record without a first event has no last one. -/
theorem Stored.unended (stored : Stored sha256 parseDate record route)
    (absent : record.acceptedEvent = none) : record.terminalEvent = none := by
  cases present : record.terminalEvent with
  | none => rfl
  | some event =>
    obtain ⟨first, found, _⟩ := stored.behind present
    rw [found] at absent
    cases absent

/-- A record without a last event has no end. -/
theorem Stored.unresolved (stored : Stored sha256 parseDate record route)
    (absent : record.terminalEvent = none) : record.resolution = none := by
  have ended := stored.ended
  rw [absent] at ended
  exact (Except.ok.inj ended).symm

/-- What the clock shows is a timestamp. -/
theorem timestamp_of_clock (reads : ReadsDates parseDate) {text : JsString}
    (shown : clockTimestamp now = .ok text) : requireStoreTimestamp parseDate text = .ok () := by
  unfold clockTimestamp at shown
  split at shown
  · cases shown
  · next found written =>
    obtain rfl := Except.ok.inj shown
    obtain ⟨millis, _, iso⟩ := Option.bind_eq_some_iff.mp written
    simp [requireStoreTimestamp, endsInUtc_written reads iso]

/-- A timestamp names an instant. -/
theorem named_of_timestamp {text : JsString}
    (valid : requireStoreTimestamp parseDate text = .ok ()) : (parseDate text).isSome = true := by
  simp only [requireStoreTimestamp, rejectIf_eq_ok, Bool.not_eq_false] at valid
  simp only [endsInUtc, Bool.and_eq_true] at valid
  exact valid.2

/-- What a commit computes from the record that it read. -/
theorem committedRecord_eq_ok : committedRecord parseDate prior event now = .ok next ↔
    ∃ updatedAt ended, clockTimestamp now = .ok updatedAt ∧
      (event.sequence = 2 → ∀ first, prior.acceptedEvent = some first →
        isEarlier event.observedAt first.observedAt = false) ∧
      parsesEarlier parseDate updatedAt prior.updatedAt = false ∧
      mapPresent (if event.sequence = 2 then some event else none) resolution = .ok ended ∧
      next = { prior with
        acceptedEvent := if event.sequence = 1 then some event else prior.acceptedEvent
        terminalEvent := if event.sequence = 2 then some event else none
        resolution := ended
        updatedAt := updatedAt } := by
  simp only [committedRecord, bind_eq_ok, exists_unit, rejectIf_eq_ok, pure_eq_ok, not_or, not_and,
    Bool.not_eq_true, Option.any_eq_false]
  constructor
  · rintro ⟨updatedAt, shown, ⟨ordered, late⟩, ended, told, rfl⟩
    exact ⟨updatedAt, ended, shown, ordered, late, told, rfl⟩
  · rintro ⟨updatedAt, ended, shown, ordered, late, told, rfl⟩
    exact ⟨updatedAt, shown, ⟨ordered, late⟩, ended, told, rfl⟩

/-- A first event fits the record that it is committed to. -/
structure FitsFirst (sha256 : JsString → JsString) (parseDate : JsString → Option Int)
    (prior : WorkspaceReadDispatchRecord) (event : DeviceFilesystemReadEvent) : Prop where
  stored : ∃ route, Stored sha256 parseDate prior route ∧
    requireEventIdentity sha256 prior.command event route.connectionEpoch = .ok ()
  absent : prior.acceptedEvent = none
  sequence : event.sequence = 1
  readable : parseDeviceFilesystemReadEvent sha256 event = .ok ()
  execution : event.executionId = prior.executionId

/-- A record with a first event is accepted. -/
theorem FitsFirst.stored_next (reads : ReadsDates parseDate)
    (fits : FitsFirst sha256 parseDate prior event)
    (written : committedRecord parseDate prior event now = .ok next) :
    (∃ route, Stored sha256 parseDate next route) ∧ next.executionId = prior.executionId ∧
      next.acceptedEvent = some event ∧ next.terminalEvent = none ∧ next.resolution = none := by
  obtain ⟨updatedAt, ended, shown, _, late, told, rfl⟩ := committedRecord_eq_ok.mp written
  obtain ⟨route, stored, identity⟩ := fits.stored
  rw [if_neg (by rw [fits.sequence]; decide)] at told
  obtain rfl : none = ended := Except.ok.inj told
  have second : ¬ event.sequence = 2 := by rw [fits.sequence]; decide
  refine ⟨⟨route, stored.sent, stored.command, stored.fence, ?_, ?_, stored.created,
    timestamp_of_clock reads shown, stored.fingerprint, stored.identity,
    parsesEarlier_trans (named_of_timestamp stored.updated) stored.inOrder late, ?_⟩,
    rfl, ?_, ?_, rfl⟩
  · intro found present
    rw [if_pos fits.sequence] at present
    obtain rfl := Option.some.inj present
    exact ⟨fits.readable, identity⟩
  · intro found present
    rw [if_neg second] at present
    cases present
  · rw [if_neg second]
    rfl
  · rw [if_pos fits.sequence]
  · rw [if_neg second]

/-- A record with a last event is accepted. -/
theorem Stored.stored_next (reads : ReadsDates parseDate)
    (stored : Stored sha256 parseDate prior route)
    (readable : parseDeviceFilesystemReadEvent sha256 event = .ok ())
    (identity : requireEventIdentity sha256 prior.command event route.connectionEpoch = .ok ())
    (last : event.sequence = 2)
    (receipt : prior.acceptedEvent.map (·.receiptId) = some event.receiptId)
    (written : committedRecord parseDate prior event now = .ok next) :
    (∃ route, Stored sha256 parseDate next route) ∧ next.executionId = prior.executionId ∧
      next.acceptedEvent = prior.acceptedEvent ∧ next.terminalEvent = some event := by
  obtain ⟨updatedAt, ended, shown, ordered, late, told, rfl⟩ := committedRecord_eq_ok.mp written
  have first : ¬ event.sequence = 1 := by rw [last]; decide
  have accepted : (if event.sequence = 1 then some event else prior.acceptedEvent) =
      prior.acceptedEvent := if_neg first
  refine ⟨⟨route, stored.sent, stored.command, stored.fence, ?_, ?_, stored.created,
    timestamp_of_clock reads shown, stored.fingerprint, stored.identity,
    parsesEarlier_trans (named_of_timestamp stored.updated) stored.inOrder late, ?_⟩, rfl, ?_, ?_⟩
  · intro found present
    rw [accepted] at present
    exact stored.accepted found present
  · intro found present
    rw [if_pos last] at present
    obtain rfl := Option.some.inj present
    refine ⟨readable, ?_⟩
    obtain ⟨first, held, same⟩ := Option.map_eq_some_iff.mp receipt
    simp only [parseTerminalEvent, bind_eq_ok, exists_unit, rejectIf_eq_ok, not_not, accepted]
    refine ⟨identity, (Option.any_eq_true _ _).mpr ⟨first, held, decide_eq_true ⟨same.symm, ?_⟩⟩⟩
    exact ordered last first held
  · exact told
  · exact accepted
  · rw [if_pos last]

end Records

section Steps

variable {command : DeviceFilesystemReadCommand} {route : WorkspaceReadRouteFence}
  {event : DeviceFilesystemReadEvent} {prior : WorkspaceReadDispatchRecord}
  {current : Option WorkspaceReadRouteFence} {now : Option Int} {createdAt : JsString}
  {store after : WorkspaceReadStore} {outcome : Checked WorkspaceReadReply}

/-- The store with another record. -/
def withRecord (store : WorkspaceReadStore) (executionId : JsString)
    (record : WorkspaceReadDispatchRecord) : WorkspaceReadStore :=
  { store with records := store.records.set executionId record }

/-- A commit writes the record that it computes, or nothing. -/
theorem writeCommit_run
    (ran : (writeCommit parseDate command event prior now).run store = (outcome, after)) :
    ((∃ failure, outcome = .error failure) ∧ after = store) ∨
      ∃ next, committedRecord parseDate prior event now = .ok next ∧
        outcome = .ok (.commits (commitResult .committed next event)) ∧
          after = withRecord store command.executionId next := by
  unfold writeCommit at ran
  cases computed : committedRecord parseDate prior event now with
  | error failure =>
    rw [computed, Program.run_check_error_bind, Prod.mk.injEq] at ran
    exact .inl ⟨⟨failure, ran.1.symm⟩, ran.2.symm⟩
  | ok next =>
    rw [computed, Program.run_check_ok_bind, Program.run_update_bind, Program.run_pure,
      Prod.mk.injEq] at ran
    exact .inr ⟨next, rfl, ran.1.symm, ran.2.symm⟩

/-- A commit of a first event writes the record that it computes, or nothing. -/
theorem finishCommit_run
    (ran : (finishCommit parseDate command route event prior current now).run store =
      (outcome, after)) :
    ((∃ failure, outcome = .error failure) ∧ after = store) ∨
      ∃ next, committedRecord parseDate prior event now = .ok next ∧
        outcome = .ok (.commits (commitResult .committed next event)) ∧
          after = withRecord store command.executionId next := by
  unfold finishCommit at ran
  rw [Program.run_bind, Program.run_check] at ran
  split at ran
  · next found middle checked =>
    obtain rfl := (Prod.mk.inj checked).2
    exact writeCommit_run ran
  · next failure middle checked =>
    obtain ⟨rfl, rfl⟩ := Prod.mk.inj ran
    exact .inl ⟨⟨failure, rfl⟩, (Prod.mk.inj checked).2.symm⟩

/-- The record of a read that was prepared. -/
def preparedRecord (command : DeviceFilesystemReadCommand) (route : WorkspaceReadRouteFence)
    (createdAt fingerprint : JsString) : WorkspaceReadDispatchRecord :=
  ⟨command.executionId, fingerprint, command, some route, none, none, none, createdAt, createdAt⟩

/-- A preparation writes a record where there is none, or nothing. -/
theorem finishPrepare_run
    (ran : (finishPrepare sha256 command route createdAt current).run store = (outcome, after)) :
    (after = store ∧ ∀ result, outcome ≠ .ok (.commits result)) ∨
      ∃ fingerprint kinds, fingerprintFor sha256 command route = .ok fingerprint ∧
        store.records.find command.executionId = none ∧
        outcome = .ok (.created (preparedRecord command route createdAt fingerprint)) ∧
          after = { withRecord store command.executionId
            (preparedRecord command route createdAt fingerprint) with kinds := kinds } := by
  unfold finishPrepare at ran
  rw [Program.run_read_bind, Program.run_bind, Program.run_check] at ran
  split at ran
  case h_2 failure middle checked =>
    obtain ⟨rfl, rfl⟩ := Prod.mk.inj ran
    exact .inl ⟨(Prod.mk.inj checked).2.symm, (by rintro _ ⟨⟩)⟩
  case h_1 fingerprint middle checked =>
    obtain ⟨accepted, rfl⟩ := Prod.mk.inj checked
    simp only [bind_eq_ok, exists_unit] at accepted
    obtain ⟨_, _, _, digested⟩ := accepted
    simp only [id_eq] at ran
    cases found : store.records.find command.executionId with
    | some prior =>
      rw [found] at ran
      cases checked : rejectIf (prior.fingerprint ≠ fingerprint)
          (gatewayError "workspace_read_identity_conflict") with
      | error failure =>
        simp only [checked, Program.run_check_error_bind, Prod.mk.injEq] at ran
        exact .inl ⟨ran.2.symm, by rw [← ran.1]; exact by rintro _ ⟨⟩⟩
      | ok =>
        simp only [checked, Program.run_check_ok_bind, Program.run_pure, Prod.mk.injEq] at ran
        exact .inl ⟨ran.2.symm, by rw [← ran.1]; exact by rintro _ ⟨⟩⟩
    | none =>
      rw [found] at ran
      simp only at ran
      rw [Program.run_bind, Program.run_check] at ran
      split at ran
      · next kinds middle claimed =>
        obtain ⟨_, rfl⟩ := Prod.mk.inj claimed
        rw [Program.run_update_bind, Program.run_pure, Prod.mk.injEq] at ran
        exact .inr ⟨fingerprint, kinds, digested, rfl, ran.1.symm, ran.2.symm⟩
      · next failure middle claimed =>
        obtain ⟨rfl, rfl⟩ := Prod.mk.inj ran
        exact .inl ⟨(Prod.mk.inj claimed).2.symm, (by rintro _ ⟨⟩)⟩

/-- What a commit finds out before it writes or waits. -/
structure Authorized (sha256 : JsString → JsString) (store : WorkspaceReadStore)
    (command : DeviceFilesystemReadCommand) (route : WorkspaceReadRouteFence)
    (event : DeviceFilesystemReadEvent) (prior : WorkspaceReadDispatchRecord) : Prop where
  readable : parseDeviceFilesystemReadEvent sha256 event = .ok ()
  identity : requireEventIdentity sha256 command event route.connectionEpoch = .ok ()
  found : store.records.find command.executionId = some prior
  sent : prior.route = some route
  fingerprint : fingerprintFor sha256 command route = .ok prior.fingerprint
  absent : prior.eventOf event.sequence = none
  receipt : event.sequence = 2 →
    prior.acceptedEvent.map (·.receiptId) = some event.receiptId

/-- The record that a commit is for is the stored one. -/
theorem commitAuthority_eq_ok {found : WorkspaceReadDispatchRecord × WorkspaceReadRouteFence}
    (authorized : commitAuthority sha256 store command = .ok found) :
    store.records.find command.executionId = some found.1 ∧ found.1.route = some found.2 ∧
      fingerprintFor sha256 command found.2 = .ok found.1.fingerprint := by
  simp only [commitAuthority, bind_eq_ok] at authorized
  obtain ⟨kind, _, authorized⟩ := authorized
  split at authorized
  · cases authorized
  · next prior present =>
    split at authorized
    · cases authorized
    · next priorRoute sent =>
      simp only [bind_eq_ok, exists_unit, rejectIf_eq_ok, ne_eq, not_not, pure_eq_ok] at authorized
      obtain ⟨_, fingerprint, digested, same, rfl⟩ := authorized
      exact ⟨present, sent, same ▸ digested⟩

/-- Work on the store leaves the calls that wait alone. -/
theorem onStore_run {program : Program Failure WorkspaceReadStore WorkspaceReadReply}
    {world left : WorkspaceReadWorld} (ran : (onStore program).run world = (outcome, left)) :
    ∃ after, program.run world.store = (outcome, after) ∧ left = { world with store := after } := by
  rw [onStore, Program.run_focus, Prod.mk.injEq] at ran
  obtain ⟨rfl, rfl⟩ := ran
  exact ⟨_, rfl, rfl⟩

/-- A commit changes nothing, waits with a first event, or writes a last one. -/
theorem commit_run {world : WorkspaceReadWorld} {left : WorkspaceReadWorld}
    (ran : (commit sha256 parseDate command route event now).run world = (outcome, left)) :
    (left = world ∧ ∀ result, outcome = .ok (.commits result) → result.outcome = .replayed) ∨
      ∃ prior, Authorized sha256 world.store command route event prior ∧
        ((event.sequence = 1 ∧ outcome = .ok .waits ∧
            left = { world with
              waiting := world.waiting ++ [.commit command route event prior] }) ∨
          (event.sequence = 2 ∧ ∃ next, committedRecord parseDate prior event now = .ok next ∧
            outcome = .ok (.commits (commitResult .committed next event)) ∧
              left = { world with store := withRecord world.store command.executionId next })) := by
  unfold commit at ran
  rw [Program.run_read_bind, Program.run_bind, Program.run_check] at ran
  split at ran
  case h_2 failure middle checked =>
    obtain ⟨rfl, rfl⟩ := Prod.mk.inj ran
    exact .inl ⟨(Prod.mk.inj checked).2.symm, fun _ => nofun⟩
  case h_1 authority middle checked =>
    obtain ⟨accepted, rfl⟩ := Prod.mk.inj checked
    simp only [id_eq, bind_eq_ok, exists_unit, pure_eq_ok] at accepted
    obtain ⟨_, _, readable, _, found, authorized, identity, rfl⟩ := accepted
    obtain ⟨present, sent, fingerprint⟩ := commitAuthority_eq_ok authorized
    obtain ⟨prior, priorRoute⟩ := found
    simp only at ran present sent fingerprint
    cases held : prior.eventOf event.sequence with
    | some current =>
      rw [held] at ran
      simp only at ran
      rw [Program.run_bind, Program.run_check] at ran
      split at ran
      · next middle replayed =>
        obtain ⟨rfl, rfl⟩ := Prod.mk.inj ran
        refine .inl ⟨(Prod.mk.inj replayed).2.symm, ?_⟩
        rintro result ⟨⟩
        rfl
      · next failure middle conflict =>
        obtain ⟨rfl, rfl⟩ := Prod.mk.inj ran
        exact .inl ⟨(Prod.mk.inj conflict).2.symm, fun _ => nofun⟩
    | none =>
      rw [held] at ran
      simp only at ran
      rw [Program.run_bind, Program.run_check] at ran
      split at ran
      case h_2 failure middle rejected =>
        obtain ⟨rfl, rfl⟩ := Prod.mk.inj ran
        exact .inl ⟨(Prod.mk.inj rejected).2.symm, fun _ => nofun⟩
      case h_1 middle passed =>
        obtain ⟨checks, rfl⟩ := Prod.mk.inj passed
        simp only [commitChecks, bind_eq_ok, exists_unit, rejectIf_eq_ok, not_and, ne_eq,
          not_not, Bool.not_eq_false] at checks
        obtain ⟨_, receipt, same, compared, rfl⟩ := checks
        obtain rfl : priorRoute = route := of_decide_eq_true (sameRoute_eq_ok compared).symm
        have authorization : Authorized sha256 world.store command priorRoute event prior :=
          ⟨readable, identity, present, sent, fingerprint, held, receipt⟩
        have numbered : event.sequence = 1 ∨ event.sequence = 2 := by
          simp only [parseDeviceFilesystemReadEvent, bind_eq_ok, exists_unit] at readable
          rw [sequence_of_parseReadEventData readable.2.2.2.2.2.2.2.2.1]
          exact sequence_eq_one_or_two event.data
        by_cases first : event.sequence = 1
        · rw [if_pos first, Program.run_update_bind, Program.run_pure, Prod.mk.injEq] at ran
          exact .inr ⟨prior, authorization, .inl ⟨first, ran.1.symm, ran.2.symm⟩⟩
        · rw [if_neg first] at ran
          have last : event.sequence = 2 := by omega
          obtain ⟨after, inside, rfl⟩ := onStore_run ran
          rcases writeCommit_run inside with ⟨⟨failure, rfl⟩, rfl⟩ | ⟨next, computed, done, rfl⟩
          · exact .inl ⟨rfl, fun _ => nofun⟩
          · exact .inr ⟨prior, authorization, .inr ⟨last, next, computed, done, rfl⟩⟩

/-- Loading a record writes nothing and commits nothing. -/
theorem load_run {executionId : JsString}
    (ran : (load sha256 parseDate executionId).run store = (outcome, after)) :
    after = store ∧ ∀ result, outcome ≠ .ok (.commits result) := by
  unfold load at ran
  rw [Program.run_read_bind, Program.run_bind, Program.run_check] at ran
  split at ran
  · next kind middle checked =>
    obtain ⟨_, rfl⟩ := Prod.mk.inj checked
    split at ran
    · obtain ⟨rfl, rfl⟩ := Prod.mk.inj ran
      exact ⟨rfl, (by rintro _ ⟨⟩)⟩
    · rw [Program.run_bind, Program.run_check] at ran
      split at ran
      · next middle parsed =>
        obtain ⟨rfl, rfl⟩ := Prod.mk.inj ran
        exact ⟨(Prod.mk.inj parsed).2.symm, (by rintro _ ⟨⟩)⟩
      · next failure middle parsed =>
        obtain ⟨rfl, rfl⟩ := Prod.mk.inj ran
        exact ⟨(Prod.mk.inj parsed).2.symm, (by rintro _ ⟨⟩)⟩
  · next failure middle checked =>
    obtain ⟨rfl, rfl⟩ := Prod.mk.inj ran
    exact ⟨(Prod.mk.inj checked).2.symm, (by rintro _ ⟨⟩)⟩

/-- Taking an id leaves the records alone and commits nothing. -/
theorem claimElsewhere_run {executionId : JsString} {kind : DeviceExecutionCommandKind}
    (ran : (claimElsewhere executionId kind).run store = (outcome, after)) :
    after.records = store.records ∧ ∀ result, outcome ≠ .ok (.commits result) := by
  unfold claimElsewhere at ran
  rw [Program.run_read_bind, Program.run_bind, Program.run_check] at ran
  split at ran
  · next kinds middle claimed =>
    obtain ⟨_, rfl⟩ := Prod.mk.inj claimed
    obtain ⟨rfl, rfl⟩ := Prod.mk.inj ran
    exact ⟨rfl, fun _ => nofun⟩
  · next failure middle claimed =>
    obtain ⟨rfl, rfl⟩ := Prod.mk.inj ran
    exact ⟨congrArg _ (Prod.mk.inj claimed).2.symm, fun _ => nofun⟩

/-- A preparation waits, or changes nothing. -/
theorem prepare_run {world left : WorkspaceReadWorld}
    (ran : (prepare parseDate command route createdAt).run world = (outcome, left)) :
    (∀ result, outcome ≠ .ok (.commits result)) ∧
      (left = world ∨ (requireStoreTimestamp parseDate createdAt = .ok () ∧
        left = { world with waiting := world.waiting ++ [.prepare command route createdAt] })) := by
  unfold prepare at ran
  rw [Program.run_read_bind, Program.run_bind, Program.run_check] at ran
  split at ran
  · next middle checked =>
    obtain ⟨accepted, rfl⟩ := Prod.mk.inj checked
    simp only [bind_eq_ok, exists_unit] at accepted
    obtain ⟨rfl, rfl⟩ := Prod.mk.inj ran
    exact ⟨(by rintro _ ⟨⟩), .inr ⟨accepted.2.2.1, rfl⟩⟩
  · next failure middle checked =>
    obtain ⟨rfl, rfl⟩ := Prod.mk.inj ran
    exact ⟨(by rintro _ ⟨⟩), .inl (Prod.mk.inj checked).2.symm⟩

end Steps

/-- The records of the store. -/
abbrev ReadRecords := OrderedMap JsString WorkspaceReadDispatchRecord

/-- What is known of a call that waits. -/
def WaitsSoundly (sha256 : JsString → JsString) (parseDate : JsString → Option Int) :
    WaitingCall → Prop
  | .prepare _ _ createdAt => requireStoreTimestamp parseDate createdAt = .ok ()
  | .commit command _ event prior =>
    FitsFirst sha256 parseDate prior event ∧ prior.executionId = command.executionId

/-- Every record is accepted and stands under its own id, and the calls that wait read such a
record. -/
structure Sound (sha256 : JsString → JsString) (parseDate : JsString → Option Int)
    (world : WorkspaceReadWorld) : Prop where
  records : ∀ executionId record, world.store.records.find executionId = some record →
    record.executionId = executionId ∧ ∃ route, Stored sha256 parseDate record route
  waiting : ∀ call ∈ world.waiting, WaitsSoundly sha256 parseDate call

/-- The event that an operation commits. -/
def committedEvent (operation : WorkspaceReadOperation) (before : WorkspaceReadWorld) :
    Option DeviceFilesystemReadEvent :=
  match operation with
  | .commit _ _ event _ => some event
  | .resume place _ _ =>
    match before.waiting[place]? with
    | some (.commit _ _ event _) => some event
    | some (.prepare ..) | none => none
  | .prepare .. | .load .. | .claim .. => none

/-- What an operation does to the records. -/
inductive Effect (sha256 : JsString → JsString) (parseDate : JsString → Option Int)
    (operation : WorkspaceReadOperation) (before : WorkspaceReadWorld)
    (outcome : Checked WorkspaceReadReply) : ReadRecords → Prop where
  | unchanged (silent : ∀ result, outcome = .ok (.commits result) → result.outcome = .replayed) :
      Effect sha256 parseDate operation before outcome before.store.records
  | created (record : WorkspaceReadDispatchRecord)
      (fresh : before.store.records.find record.executionId = none)
      (stored : ∃ route, Stored sha256 parseDate record route)
      (silent : ∀ result, outcome ≠ .ok (.commits result)) :
      Effect sha256 parseDate operation before outcome
        (before.store.records.set record.executionId record)
  | accepted (place : Nat) (answer : Checked (Option WorkspaceReadRouteFence)) (now : Option Int)
      (command : DeviceFilesystemReadCommand) (route : WorkspaceReadRouteFence)
      (event : DeviceFilesystemReadEvent) (prior next : WorkspaceReadDispatchRecord)
      (resumed : operation = .resume place answer now)
      (waited : before.waiting[place]? = some (.commit command route event prior))
      (first : event.sequence = 1) (execution : event.executionId = command.executionId)
      (identity : next.executionId = command.executionId)
      (stored : ∃ route, Stored sha256 parseDate next route)
      (held : next.acceptedEvent = some event) (unended : next.terminalEvent = none) :
      Effect sha256 parseDate operation before outcome
        (before.store.records.set command.executionId next)
  | ended (command : DeviceFilesystemReadCommand) (route : WorkspaceReadRouteFence)
      (event : DeviceFilesystemReadEvent) (now : Option Int)
      (prior next : WorkspaceReadDispatchRecord)
      (called : operation = .commit command route event now) (last : event.sequence = 2)
      (execution : event.executionId = command.executionId)
      (found : before.store.records.find command.executionId = some prior)
      (unended : prior.terminalEvent = none) (identity : next.executionId = command.executionId)
      (stored : ∃ route, Stored sha256 parseDate next route)
      (kept : next.acceptedEvent = prior.acceptedEvent) (held : next.terminalEvent = some event) :
      Effect sha256 parseDate operation before outcome
        (before.store.records.set command.executionId next)

/-- An event about a command is one of its execution. -/
theorem executionId_of_identity {command : DeviceFilesystemReadCommand}
    {event : DeviceFilesystemReadEvent} {epoch : Int}
    (identity : requireEventIdentity sha256 command event epoch = .ok ()) :
    event.executionId = command.executionId := by
  simp only [requireEventIdentity, bind_eq_ok, exists_unit, rejectIf_eq_ok, not_or, ne_eq,
    not_not] at identity
  exact identity.1.2.1

section Performing

variable {operation : WorkspaceReadOperation} {before after : WorkspaceReadWorld}
  {outcome : Checked WorkspaceReadReply}

/-- A record that was prepared is accepted. -/
theorem stored_preparedRecord {command : DeviceFilesystemReadCommand}
    {route : WorkspaceReadRouteFence} {createdAt fingerprint : JsString}
    (timed : requireStoreTimestamp parseDate createdAt = .ok ())
    (digested : fingerprintFor sha256 command route = .ok fingerprint) :
    Stored sha256 parseDate (preparedRecord command route createdAt fingerprint) route := by
  obtain ⟨fence, digest, told, _⟩ := fingerprintFor_eq_ok.mp digested
  exact ⟨rfl, (commandDigest_eq_ok.mp told).1, fence, nofun, nofun, timed, timed, digested, rfl,
    parsesEarlier_self createdAt, rfl⟩

/-- A commit that finds its record has what the checks of the record ask for. -/
theorem Authorized.identity_prior (separates : SeparatesJson sha256)
    {command : DeviceFilesystemReadCommand} {route : WorkspaceReadRouteFence}
    {event : DeviceFilesystemReadEvent} {prior : WorkspaceReadDispatchRecord}
    (sound : Sound sha256 parseDate before)
    (authorized : Authorized sha256 before.store command route event prior) :
    Stored sha256 parseDate prior route ∧ prior.executionId = command.executionId ∧
      requireEventIdentity sha256 prior.command event route.connectionEpoch = .ok () := by
  obtain ⟨named, found, stored⟩ := sound.records _ _ authorized.found
  obtain rfl : found = route := Option.some.inj (stored.sent.symm.trans authorized.sent)
  refine ⟨stored, named, ?_⟩
  refine eventIdentity_of_fingerprint separates authorized.fingerprint stored.fingerprint ?_
    authorized.identity
  rw [← named, stored.identity]

/-- Every operation has one of the effects, and leaves only sound calls waiting. -/
theorem perform_effect (separates : SeparatesJson sha256) (reads : ReadsDates parseDate)
    (sound : Sound sha256 parseDate before)
    (ran : (performRead sha256 parseDate operation).run before = (outcome, after)) :
    Effect sha256 parseDate operation before outcome after.store.records ∧
      ∀ call ∈ after.waiting, WaitsSoundly sha256 parseDate call := by
  cases operation with
  | prepare command route createdAt =>
    obtain ⟨silent, rfl | ⟨timed, rfl⟩⟩ := prepare_run ran
    · exact ⟨.unchanged fun result same => absurd same (silent result), sound.waiting⟩
    · refine ⟨.unchanged fun result same => absurd same (silent result), ?_⟩
      intro call member
      rcases List.mem_append.mp member with earlier | last
      · exact sound.waiting call earlier
      · rw [List.mem_singleton.mp last]
        exact timed
  | commit command route event now =>
    rcases commit_run ran with ⟨rfl, silent⟩ | ⟨prior, authorized, waits | ends⟩
    · exact ⟨.unchanged silent, sound.waiting⟩
    · obtain ⟨first, rfl, rfl⟩ := waits
      obtain ⟨stored, named, identity⟩ := authorized.identity_prior separates sound
      refine ⟨.unchanged fun _ => nofun, ?_⟩
      intro call member
      rcases List.mem_append.mp member with earlier | last
      · exact sound.waiting call earlier
      · rw [List.mem_singleton.mp last]
        have absent : prior.acceptedEvent = none := by
          have held := authorized.absent
          rwa [WorkspaceReadDispatchRecord.eventOf, if_pos first] at held
        refine ⟨⟨⟨route, stored, identity⟩, absent, first, authorized.readable, ?_⟩, named⟩
        rw [executionId_of_identity identity, stored.identity]
    · obtain ⟨last, next, computed, rfl, rfl⟩ := ends
      obtain ⟨stored, named, identity⟩ := authorized.identity_prior separates sound
      have unended : prior.terminalEvent = none := by
        have held := authorized.absent
        rwa [WorkspaceReadDispatchRecord.eventOf, if_neg (by rw [last]; decide)] at held
      obtain ⟨valid, same, kept, held⟩ := stored.stored_next reads authorized.readable identity
        last (authorized.receipt last) computed
      refine ⟨.ended command route event now prior next rfl last
        (executionId_of_identity authorized.identity) authorized.found unended
        (same.trans named) valid kept held, sound.waiting⟩
  | resume place answer now =>
    simp only [performRead, resume, Program.run_read_bind, id_eq] at ran
    cases waited : before.waiting[place]? with
    | none =>
      rw [waited] at ran
      obtain ⟨rfl, rfl⟩ := Prod.mk.inj ran
      exact ⟨.unchanged fun _ => nofun, sound.waiting⟩
    | some waiting =>
      have left : ∀ call ∈ before.waiting.eraseIdx place, WaitsSoundly sha256 parseDate call :=
        fun call member => sound.waiting call (List.mem_of_mem_eraseIdx member)
      have held := sound.waiting waiting (List.mem_of_getElem? waited)
      rw [waited] at ran
      simp only [Program.run_update_bind] at ran
      rw [Program.run_bind, Program.run_check] at ran
      cases answer with
      | error failure =>
        obtain ⟨rfl, rfl⟩ := Prod.mk.inj ran
        exact ⟨.unchanged fun _ => nofun, left⟩
      | ok current =>
        cases waiting with
        | prepare command route createdAt =>
          obtain ⟨store, inside, rfl⟩ := onStore_run ran
          rcases finishPrepare_run inside with ⟨rfl, silent⟩ | made
          · exact ⟨.unchanged fun result same => absurd same (silent result), left⟩
          · obtain ⟨fingerprint, kinds, digested, absent, rfl, rfl⟩ := made
            exact ⟨.created (preparedRecord command route createdAt fingerprint) absent
              ⟨route, stored_preparedRecord held digested⟩ fun _ => nofun, left⟩
        | commit command route event prior =>
          obtain ⟨store, inside, rfl⟩ := onStore_run ran
          rcases finishCommit_run inside with ⟨⟨failure, rfl⟩, rfl⟩ | made
          · exact ⟨.unchanged fun _ => nofun, left⟩
          · obtain ⟨next, computed, rfl, rfl⟩ := made
            obtain ⟨fits, named⟩ := held
            obtain ⟨valid, same, holds, unended, _⟩ := fits.stored_next reads computed
            exact ⟨.accepted place (.ok current) now command route event prior next rfl waited
              fits.sequence (fits.execution.trans named) (same.trans named) valid holds unended,
              left⟩
  | load executionId =>
    obtain ⟨store, inside, rfl⟩ := onStore_run ran
    obtain ⟨rfl, silent⟩ := load_run inside
    exact ⟨.unchanged fun result same => absurd same (silent result), sound.waiting⟩
  | claim executionId kind =>
    obtain ⟨store, inside, rfl⟩ := onStore_run ran
    obtain ⟨same, silent⟩ := claimElsewhere_run inside
    simp only [same]
    exact ⟨.unchanged fun result same => absurd same (silent result), sound.waiting⟩

end Performing

/-- The first event whose commit goes on, with the record as it stands by then. -/
def resumedFirst (operation : WorkspaceReadOperation) (before : WorkspaceReadWorld) :
    Option (DeviceFilesystemReadEvent × WorkspaceReadDispatchRecord) :=
  match operation with
  | .resume place _ _ =>
    match before.waiting[place]? with
    | some (.commit command _ event _) =>
      (before.store.records.find command.executionId).map fun current => (event, current)
    | some (.prepare ..) | none => none
  | .prepare .. | .commit .. | .load .. | .claim .. => none

/-- A commit that goes on finds no event written while it waited, but maybe its own. -/
def Unraced (operation : WorkspaceReadOperation) (before : WorkspaceReadWorld) : Prop :=
  ∀ resumed ∈ resumedFirst operation before, resumed.2.acceptedEvent = none ∨
    (resumed.2.acceptedEvent = some resumed.1 ∧ resumed.2.terminalEvent = none)

/-- An operation that goes on with no commit is not raced. -/
theorem unraced_of_none {operation : WorkspaceReadOperation} {before : WorkspaceReadWorld}
    (absent : resumedFirst operation before = none) : Unraced operation before := by
  intro resumed found
  rw [absent] at found
  cases found

/-- Every event and every end of a record is still there. -/
def Keeps (before after : ReadRecords) : Prop :=
  ∀ executionId record, before.find executionId = some record →
    ∃ next, after.find executionId = some next ∧
      (∀ event, record.acceptedEvent = some event → next.acceptedEvent = some event) ∧
      (∀ event, record.terminalEvent = some event → next.terminalEvent = some event) ∧
      (∀ ended, record.resolution = some ended → next.resolution = some ended)

/-- The event is in its record. -/
def Has (records : ReadRecords) (event : DeviceFilesystemReadEvent) : Prop :=
  ∃ record, records.find event.executionId = some record ∧
    record.eventOf event.sequence = some event

/-- What is kept is kept. -/
theorem Keeps.refl (records : ReadRecords) : Keeps records records :=
  fun _ record found => ⟨record, found, fun _ held => held, fun _ held => held, fun _ held => held⟩

/-- What is kept twice is kept. -/
theorem Keeps.trans {first second third : ReadRecords} (early : Keeps first second)
    (late : Keeps second third) : Keeps first third := by
  intro executionId record found
  obtain ⟨middle, present, accepted, terminal, ended⟩ := early executionId record found
  obtain ⟨next, stays, keepsAccepted, keepsTerminal, keepsEnded⟩ :=
    late executionId middle present
  exact ⟨next, stays, fun event held => keepsAccepted event (accepted event held),
    fun event held => keepsTerminal event (terminal event held),
    fun event held => keepsEnded event (ended event held)⟩

/-- An event stays in its record. -/
theorem Keeps.has {before after : ReadRecords} (keeps : Keeps before after)
    {event : DeviceFilesystemReadEvent} (has : Has before event) : Has after event := by
  obtain ⟨record, found, held⟩ := has
  obtain ⟨next, present, accepted, terminal, _⟩ := keeps _ record found
  refine ⟨next, present, ?_⟩
  unfold WorkspaceReadDispatchRecord.eventOf at held ⊢
  split
  · next first =>
    rw [if_pos first] at held
    exact accepted event held
  · next last =>
    rw [if_neg last] at held
    exact terminal event held

/-- A record has one event of each number. -/
theorem Has.unique {records : ReadRecords} {event other : DeviceFilesystemReadEvent}
    (has : Has records event) (hasOther : Has records other)
    (execution : event.executionId = other.executionId)
    (sequence : event.sequence = other.sequence) : event = other := by
  obtain ⟨record, found, held⟩ := has
  obtain ⟨same, present, heldOther⟩ := hasOther
  rw [execution] at found
  obtain rfl : record = same := Option.some.inj (found.symm.trans present)
  rw [sequence] at held
  exact Option.some.inj (held.symm.trans heldOther)

/-- Writing a record keeps what the old one had when the new one has it. -/
theorem keeps_set {records : ReadRecords} {executionId : JsString}
    {next : WorkspaceReadDispatchRecord}
    (kept : ∀ record, records.find executionId = some record →
      (∀ event, record.acceptedEvent = some event → next.acceptedEvent = some event) ∧
      (∀ event, record.terminalEvent = some event → next.terminalEvent = some event) ∧
      (∀ ended, record.resolution = some ended → next.resolution = some ended)) :
    Keeps records (records.set executionId next) := by
  intro other record found
  by_cases same : other = executionId
  · subst same
    exact ⟨next, OrderedMap.find_set_self, kept record found⟩
  · refine ⟨record, ?_, fun _ held => held, fun _ held => held, fun _ held => held⟩
    rw [OrderedMap.find_set_of_ne same]
    exact found

/-- A performed operation. -/
abbrev ReadStep := Step WorkspaceReadOperation Failure WorkspaceReadWorld WorkspaceReadReply

/-- The operation reports that it committed the event. -/
def Reports (step : ReadStep) (event : DeviceFilesystemReadEvent) : Prop :=
  committedEvent step.operation step.before = some event ∧
    ∃ result, step.outcome = .ok (.commits result) ∧ result.outcome = .committed

section Running

variable {operation : WorkspaceReadOperation} {before after : WorkspaceReadWorld}
  {outcome : Checked WorkspaceReadReply} {records : ReadRecords}

/-- An effect keeps the records sound. -/
theorem Effect.sound (effect : Effect sha256 parseDate operation before outcome records)
    (sound : Sound sha256 parseDate before) : ∀ executionId record,
    records.find executionId = some record →
      record.executionId = executionId ∧ ∃ route, Stored sha256 parseDate record route := by
  have written {other : JsString} {next : WorkspaceReadDispatchRecord}
      (identity : next.executionId = other)
      (stored : ∃ route, Stored sha256 parseDate next route) : ∀ executionId record,
      (before.store.records.set other next).find executionId = some record →
        record.executionId = executionId ∧ ∃ route, Stored sha256 parseDate record route := by
    intro executionId record found
    rw [OrderedMap.find_set] at found
    split at found
    · next same =>
      obtain rfl := Option.some.inj found
      exact ⟨identity.trans same.symm, stored⟩
    · exact sound.records executionId record found
  cases effect with
  | unchanged => exact sound.records
  | created record _ stored => exact written rfl stored
  | accepted _ _ _ _ _ _ _ _ _ _ _ _ identity stored => exact written identity stored
  | ended _ _ _ _ _ _ _ _ _ _ _ identity stored => exact written identity stored

/-- An effect without a race keeps every event. -/
theorem Effect.keeps (effect : Effect sha256 parseDate operation before outcome records)
    (sound : Sound sha256 parseDate before) (unraced : Unraced operation before) :
    Keeps before.store.records records := by
  cases effect with
  | unchanged => exact .refl _
  | created record fresh =>
    refine keeps_set fun found present => ?_
    rw [fresh] at present
    cases present
  | accepted place answer now command route event prior next resumed waited _ _ _ _ held =>
    refine keeps_set fun current present => ?_
    obtain ⟨_, currentRoute, stored⟩ := sound.records _ _ present
    have found : (event, current) ∈ resumedFirst operation before := by
      simp [resumedFirst, resumed, waited, present]
    have unended : current.terminalEvent = none := by
      rcases unraced _ found with absent | ⟨_, absent⟩
      · exact stored.unended absent
      · exact absent
    refine ⟨fun first accepted => ?_, fun last ended => ?_, fun last ended => ?_⟩
    · rcases unraced _ found with absent | ⟨same, _⟩
      · rw [absent] at accepted
        cases accepted
      · rw [held, ← same]
        exact accepted
    · rw [unended] at ended
      cases ended
    · rw [stored.unresolved unended] at ended
      cases ended
  | ended command route event now prior next _ _ _ found unended _ _ kept =>
    refine keeps_set fun current present => ?_
    obtain rfl : prior = current := Option.some.inj (found.symm.trans present)
    obtain ⟨_, priorRoute, stored⟩ := sound.records _ _ found
    refine ⟨fun first accepted => kept.trans accepted, fun last ended => ?_, fun last ended => ?_⟩
    · rw [unended] at ended
      cases ended
    · rw [stored.unresolved unended] at ended
      cases ended

/-- An operation that reports a commit has put its event into the record. -/
theorem Effect.has {event : DeviceFilesystemReadEvent}
    (effect : Effect sha256 parseDate operation before outcome records)
    (told : committedEvent operation before = some event)
    (reported : ∃ result, outcome = .ok (.commits result) ∧ result.outcome = .committed) :
    Has records event := by
  obtain ⟨result, replied, committed⟩ := reported
  cases effect with
  | unchanged silent =>
    rw [silent result replied] at committed
    cases committed
  | created _ _ _ silent => exact absurd replied (silent result)
  | accepted place answer now command route found prior next resumed waited first execution _ _
      held =>
    obtain rfl : found = event := by
      simpa [committedEvent, resumed, waited] using told
    refine ⟨next, ?_, ?_⟩
    · rw [execution]
      exact OrderedMap.find_set_self
    · rw [WorkspaceReadDispatchRecord.eventOf, if_pos first]
      exact held
  | ended command route found now prior next called last execution _ _ _ _ _ held =>
    obtain rfl : found = event := by
      simpa [committedEvent, called] using told
    refine ⟨next, ?_, ?_⟩
    · rw [execution]
      exact OrderedMap.find_set_self
    · rw [WorkspaceReadDispatchRecord.eventOf, if_neg (by rw [last]; decide)]
      exact held

end Running

/-- The state after operations. -/
abbrev stateAfter (sha256 : JsString → JsString) (parseDate : JsString → Option Int)
    (start : WorkspaceReadWorld) (operations : List WorkspaceReadOperation) : WorkspaceReadWorld :=
  finalState (performRead sha256 parseDate) start operations

/-- The steps of operations. -/
abbrev stepsOf (sha256 : JsString → JsString) (parseDate : JsString → Option Int)
    (start : WorkspaceReadWorld) (operations : List WorkspaceReadOperation) : List ReadStep :=
  trace (performRead sha256 parseDate) start operations

/-- What is written of a read in a run is written once. -/
structure WriteOnce (sha256 : JsString → JsString) (parseDate : JsString → Option Int)
    (start : WorkspaceReadWorld) (operations : List WorkspaceReadOperation) : Prop where
  /-- An event or an end never changes and never disappears. -/
  kept : ∀ earlier middle later, operations = earlier ++ middle ++ later →
    Keeps (stateAfter sha256 parseDate start earlier).store.records
      (stateAfter sha256 parseDate start (earlier ++ middle)).store.records
  /-- An event whose commit was reported is in its record from then on. -/
  committed : ∀ earlier operation middle later event,
    operations = earlier ++ operation :: (middle ++ later) →
    Reports ⟨operation, stateAfter sha256 parseDate start earlier,
      ((performRead sha256 parseDate operation).run
        (stateAfter sha256 parseDate start earlier)).1,
      ((performRead sha256 parseDate operation).run
        (stateAfter sha256 parseDate start earlier)).2⟩ event →
    Has (stateAfter sha256 parseDate start (earlier ++ operation :: middle)).store.records event
  /-- Only one event of a number is reported as committed. -/
  once : (stepsOf sha256 parseDate start operations).Pairwise fun first second =>
    ∀ event other, Reports first event → Reports second other →
      event.executionId = other.executionId → event.sequence = other.sequence → event = other
  /-- A last event stands behind a first one of the same receipt, and is not earlier. -/
  behind : ∀ earlier later, operations = earlier ++ later → ∀ executionId record last,
    (stateAfter sha256 parseDate start earlier).store.records.find executionId = some record →
    record.terminalEvent = some last → ∃ first, record.acceptedEvent = some first ∧
      last.receiptId = first.receiptId ∧ isEarlier last.observedAt first.observedAt = false
  /-- Every record is accepted. -/
  parsed : ∀ earlier later, operations = earlier ++ later → ∀ executionId record,
    (stateAfter sha256 parseDate start earlier).store.records.find executionId = some record →
    parseWorkspaceReadDispatchRecord sha256 parseDate record = .ok ()

section Runs

variable {start : WorkspaceReadWorld} {operations : List WorkspaceReadOperation}

/-- The state after operations and later ones. -/
theorem stateAfter_append (earlier later : List WorkspaceReadOperation) :
    stateAfter sha256 parseDate start (earlier ++ later) =
      stateAfter sha256 parseDate (stateAfter sha256 parseDate start earlier) later :=
  finalState_append start earlier later

/-- An operation keeps the store sound. -/
theorem perform_sound (separates : SeparatesJson sha256) (reads : ReadsDates parseDate)
    (operation : WorkspaceReadOperation) (before : WorkspaceReadWorld)
    (sound : Sound sha256 parseDate before) :
    Sound sha256 parseDate ((performRead sha256 parseDate operation).run before).2 := by
  obtain ⟨effect, waiting⟩ := perform_effect separates reads sound
    (show (performRead sha256 parseDate operation).run before = (_, _) from rfl)
  exact ⟨effect.sound sound, waiting⟩

/-- A run keeps the store sound. -/
theorem sound_run (separates : SeparatesJson sha256) (reads : ReadsDates parseDate)
    (sound : Sound sha256 parseDate start) (operations : List WorkspaceReadOperation) :
    Sound sha256 parseDate (stateAfter sha256 parseDate start operations) :=
  finalState_invariant (Sound sha256 parseDate) (perform_sound separates reads) sound operations

/-- No operation of the run is raced. -/
def UnracedRun (sha256 : JsString → JsString) (parseDate : JsString → Option Int)
    (start : WorkspaceReadWorld) (operations : List WorkspaceReadOperation) : Prop :=
  ∀ step ∈ stepsOf sha256 parseDate start operations, Unraced step.operation step.before

/-- Parts of a run without races have none. -/
theorem UnracedRun.split {earlier later : List WorkspaceReadOperation}
    (unraced : UnracedRun sha256 parseDate start (earlier ++ later)) :
    UnracedRun sha256 parseDate start earlier ∧
      UnracedRun sha256 parseDate (stateAfter sha256 parseDate start earlier) later := by
  unfold UnracedRun stepsOf at unraced ⊢
  rw [trace_append] at unraced
  exact ⟨fun step member => unraced step (List.mem_append_left _ member),
    fun step member => unraced step (List.mem_append_right _ member)⟩

/-- A run without races keeps every event. -/
theorem keeps_run (separates : SeparatesJson sha256) (reads : ReadsDates parseDate)
    (sound : Sound sha256 parseDate start)
    (unraced : UnracedRun sha256 parseDate start operations) :
    Keeps start.store.records (stateAfter sha256 parseDate start operations).store.records := by
  have both := finalState_of_steps
    (fun world => Sound sha256 parseDate world ∧ Keeps start.store.records world.store.records)
    (fun step member held ran => by
      obtain ⟨effect, waiting⟩ := perform_effect separates reads held.1 ran
      exact ⟨⟨effect.sound held.1, waiting⟩,
        held.2.trans (effect.keeps held.1 (unraced step member))⟩)
    ⟨sound, Keeps.refl _⟩
  exact both.2

/-- A reported event is in its record behind the operation. -/
theorem has_of_reports (separates : SeparatesJson sha256) (reads : ReadsDates parseDate)
    {step : ReadStep} {event : DeviceFilesystemReadEvent}
    (sound : Sound sha256 parseDate step.before)
    (ran : (performRead sha256 parseDate step.operation).run step.before =
      (step.outcome, step.after))
    (reported : Reports step event) : Has step.after.store.records event :=
  (perform_effect separates reads sound ran).1.has reported.1 reported.2

/-- In a run without races, only one event of a number is reported as committed. -/
theorem once_run (separates : SeparatesJson sha256) (reads : ReadsDates parseDate)
    (sound : Sound sha256 parseDate start)
    (unraced : UnracedRun sha256 parseDate start operations) :
    (stepsOf sha256 parseDate start operations).Pairwise fun first second =>
      ∀ event other, Reports first event → Reports second other →
        event.executionId = other.executionId → event.sequence = other.sequence →
          event = other := by
  unfold stepsOf
  induction operations generalizing start with
  | nil => exact List.Pairwise.nil
  | cons operation rest hypothesis =>
    have parts := UnracedRun.split (show UnracedRun sha256 parseDate start ([operation] ++ rest)
      from unraced)
    have next := perform_sound separates reads operation start sound
    rw [trace, List.pairwise_cons]
    refine ⟨?_, hypothesis next parts.2⟩
    intro later member event other reported reportedOther execution sequence
    have here : Has ((performRead sha256 parseDate operation).run start).2.store.records event :=
      has_of_reports separates reads sound rfl reported
    obtain ⟨earlier, behind, rfl, reached⟩ := split_of_mem_trace member
    have ahead := parts.2.split
    have held : Has later.before.store.records event := by
      rw [reached]
      exact (keeps_run separates reads next ahead.1).has here
    have soundLater : Sound sha256 parseDate later.before := by
      rw [reached]
      exact sound_run separates reads next earlier
    have ran := run_of_mem_trace member
    have safe : Unraced later.operation later.before := parts.2 later member
    have stays : Keeps later.before.store.records later.after.store.records :=
      (perform_effect separates reads soundLater ran).1.keeps soundLater safe
    have there : Has later.after.store.records other :=
      has_of_reports separates reads soundLater ran reportedOther
    exact (stays.has held).unique there execution sequence

/-- A store without records is sound. -/
theorem sound_empty (kinds : DeviceExecutionKinds) :
    Sound sha256 parseDate ⟨⟨kinds, .empty, false⟩, []⟩ := by
  refine ⟨?_, fun _ member => absurd member List.not_mem_nil⟩
  intro executionId record found
  rw [OrderedMap.find_empty] at found
  cases found

/-- The records of before are sound. -/
theorem openRecords_sound {store opened : WorkspaceReadStore}
    {initialRecords : List WorkspaceReadDispatchRecord}
    (sound : Sound sha256 parseDate ⟨store, []⟩)
    (open_ok : openRecords sha256 parseDate store initialRecords = .ok opened) :
    Sound sha256 parseDate ⟨opened, []⟩ := by
  induction initialRecords generalizing store with
  | nil =>
    obtain rfl := Except.ok.inj open_ok
    exact sound
  | cons record rest hypothesis =>
    simp only [openRecords, bind_eq_ok, exists_unit] at open_ok
    obtain ⟨parsed, kinds, _, further⟩ := open_ok
    refine hypothesis ⟨?_, fun _ member => absurd member List.not_mem_nil⟩ further
    intro executionId found present
    rw [OrderedMap.find_set] at present
    split at present
    · next same =>
      obtain rfl := Option.some.inj present
      exact ⟨same.symm, parse_eq_ok.mp parsed⟩
    · exact sound.records executionId found present

/-- In a run in which no commit of a first event goes on behind another event, what is written of a
read is written once. -/
theorem written_once {kinds : DeviceExecutionKinds} {store : WorkspaceReadStore}
    {initialRecords : List WorkspaceReadDispatchRecord}
    (separates : SeparatesJson sha256) (reads : ReadsDates parseDate)
    (opened : openWorkspaceReadStore sha256 parseDate kinds initialRecords = .ok store)
    (unraced : UnracedRun sha256 parseDate ⟨store, []⟩ operations) :
    WriteOnce sha256 parseDate ⟨store, []⟩ operations := by
  have sound : Sound sha256 parseDate ⟨store, []⟩ := openRecords_sound (sound_empty kinds) opened
  constructor
  · rintro earlier middle later rfl
    rw [List.append_assoc] at unraced
    have ahead := unraced.split.2.split.1
    rw [stateAfter_append]
    exact keeps_run separates reads (sound_run separates reads sound earlier) ahead
  · rintro earlier operation middle later event rfl reported
    have before := sound_run separates reads sound earlier
    have here := has_of_reports separates reads before rfl reported
    have ahead := unraced.split.2
    have behind : UnracedRun sha256 parseDate
        (stateAfter sha256 parseDate ⟨store, []⟩ (earlier ++ [operation])) middle := by
      rw [show operation :: (middle ++ later) = [operation] ++ (middle ++ later) from rfl] at ahead
      rw [stateAfter_append]
      exact ahead.split.2.split.1
    rw [show earlier ++ operation :: middle = (earlier ++ [operation]) ++ middle by simp,
      stateAfter_append]
    refine (keeps_run separates reads (sound_run separates reads sound _) behind).has ?_
    rw [stateAfter_append]
    exact here
  · exact once_run separates reads sound unraced
  · rintro earlier later rfl executionId record last found ended
    obtain ⟨_, route, stored⟩ := (sound_run separates reads sound earlier).records _ _ found
    exact stored.behind ended
  · rintro earlier later rfl executionId record found
    obtain ⟨_, stored⟩ := (sound_run separates reads sound earlier).records _ _ found
    exact parse_eq_ok.mpr stored

end Runs

section Calls

variable {command : DeviceFilesystemReadCommand} {route : WorkspaceReadRouteFence}
  {event : DeviceFilesystemReadEvent} {prior next : WorkspaceReadDispatchRecord}
  {current : Option WorkspaceReadRouteFence} {now : Option Int} {createdAt : JsString}
  {store : WorkspaceReadStore} {waiting : List WaitingCall}

/-- A preparation that is accepted waits. -/
theorem prepare_waits (opened : assertOpen store = .ok ())
    (parsed : parseDeviceFilesystemReadCommand command = .ok ())
    (timed : requireStoreTimestamp parseDate createdAt = .ok ())
    (fence : parseWorkspaceReadRouteFence route (some command.deviceId) = .ok ()) :
    (performRead sha256 parseDate (.prepare command route createdAt)).run ⟨store, waiting⟩ =
      (.ok .waits, ⟨store, waiting ++ [WaitingCall.prepare command route createdAt]⟩) := by
  simp only [performRead, prepare, Program.run_read_bind, id_eq, opened, parsed, timed, fence,
    ok_bind]
  rfl

/-- A preparation that goes on over the current connection makes a record where there is none. -/
theorem prepare_creates {fingerprint : JsString} {kinds : DeviceExecutionKinds}
    (same : sameCurrentRoute current route command.deviceId = .ok true)
    (digested : fingerprintFor sha256 command route = .ok fingerprint)
    (absent : store.records.find command.executionId = none)
    (free : store.kinds.kind command.executionId = .ok none)
    (claimed : store.kinds.claim command.executionId .workspaceRead = .ok kinds) :
    (performRead sha256 parseDate (.resume 0 (.ok current) now)).run
        ⟨store, WaitingCall.prepare command route createdAt :: waiting⟩ =
      (.ok (.created (preparedRecord command route createdAt fingerprint)),
        ⟨{ withRecord store command.executionId
            (preparedRecord command route createdAt fingerprint) with kinds := kinds },
          waiting⟩) := by
  have passed : (rejectIf (true = false) (gatewayError "workspace_read_route_stale")) =
      (.ok () : Checked Unit) := rfl
  have unclaimed : (rejectIf ((none : Option DeviceExecutionCommandKind) ≠ none)
      (gatewayError "device_dispatch_kind_conflict")) = (.ok () : Checked Unit) := rfl
  simp only [performRead, resume, Program.run_read_bind, id_eq, Program.run_update_bind,
    List.getElem?_cons_zero, Program.run_check_ok_bind, onStore, Program.run_focus,
    finishPrepare, same, passed, ok_bind, digested, absent, free, unclaimed, claimed]
  rfl

/-- What a commit finds out before it writes or waits. -/
structure Calling (sha256 : JsString → JsString) (store : WorkspaceReadStore)
    (command : DeviceFilesystemReadCommand) (route : WorkspaceReadRouteFence)
    (event : DeviceFilesystemReadEvent) (prior : WorkspaceReadDispatchRecord) : Prop where
  opened : assertOpen store = .ok ()
  parsed : parseDeviceFilesystemReadCommand command = .ok ()
  readable : parseDeviceFilesystemReadEvent sha256 event = .ok ()
  fence : parseWorkspaceReadRouteFence route (some command.deviceId) = .ok ()
  authority : commitAuthority sha256 store command = .ok (prior, route)
  identity : requireEventIdentity sha256 command event route.connectionEpoch = .ok ()
  absent : prior.eventOf event.sequence = none
  checks : commitChecks route route event prior = .ok ()

/-- The commit of a first event waits. -/
theorem commit_waits (calling : Calling sha256 store command route event prior)
    (first : event.sequence = 1) :
    (performRead sha256 parseDate (.commit command route event now)).run ⟨store, waiting⟩ =
      (.ok .waits, ⟨store, waiting ++ [WaitingCall.commit command route event prior]⟩) := by
  have found : (pure (prior, route) : Checked _) = .ok (prior, route) := rfl
  simp only [performRead, commit, Program.run_read_bind, id_eq, calling.opened, calling.parsed,
    calling.readable, calling.fence, calling.authority, calling.identity, ok_bind, found,
    Program.run_check_ok_bind, calling.absent, calling.checks]
  rw [if_pos first]
  rfl

/-- The commit of a last event writes at once. -/
theorem commit_ends (calling : Calling sha256 store command route event prior)
    (last : event.sequence ≠ 1) (computed : committedRecord parseDate prior event now = .ok next) :
    (performRead sha256 parseDate (.commit command route event now)).run ⟨store, waiting⟩ =
      (.ok (.commits (commitResult .committed next event)),
        ⟨withRecord store command.executionId next, waiting⟩) := by
  have found : (pure (prior, route) : Checked _) = .ok (prior, route) := rfl
  simp only [performRead, commit, Program.run_read_bind, id_eq, calling.opened, calling.parsed,
    calling.readable, calling.fence, calling.authority, calling.identity, ok_bind, found,
    Program.run_check_ok_bind, calling.absent, calling.checks]
  rw [if_neg last, onStore, Program.run_focus, writeCommit, computed]
  rfl

/-- The commit of a first event that goes on over the current connection writes. -/
theorem commit_resumes (same : sameCurrentRoute current route command.deviceId = .ok true)
    (computed : committedRecord parseDate prior event now = .ok next) :
    (performRead sha256 parseDate (.resume 0 (.ok current) now)).run
        ⟨store, WaitingCall.commit command route event prior :: waiting⟩ =
      (.ok (.commits (commitResult .committed next event)),
        ⟨withRecord store command.executionId next, waiting⟩) := by
  have passed : (rejectIf (true = false) (gatewayError "workspace_read_route_stale")) =
      (.ok () : Checked Unit) := rfl
  simp only [performRead, resume, Program.run_read_bind, id_eq, Program.run_update_bind,
    List.getElem?_cons_zero, Program.run_check_ok_bind, onStore, Program.run_focus, finishCommit,
    writeCommit, same, passed, ok_bind, computed]
  rfl

end Calls

section Sample

/-- A read. -/
def sampleCommand : DeviceFilesystemReadCommand where
  deviceId := js "device-1"
  leaseId := js "lease-1"
  leaseEpoch := 3
  expiresAt := js "2026-01-01T01:00:00.000Z"
  runId := js "run-1"
  stepId := js "step-1"
  attemptId := js "attempt-1"
  executionId := js "execution-1"
  workspaceBindingId := js "workspace-1"
  actionDigest := uniformDigest 'a'
  arguments := ⟨js "incarnation-1", [js "notes.txt"]⟩
  limits := ⟨1000, 1024, 1024⟩
  idempotencyKey := js "key-1"
  traceContext := ⟨none, none⟩
  authorization := ⟨js "signer-1", js "2026-01-01T00:00:00.000Z", js "2026-01-01T00:30:00.000Z",
    none, ⟨List.replicate 86 (unit 'A')⟩⟩

/-- The connection that it is sent over. -/
def sampleRoute : WorkspaceReadRouteFence :=
  ⟨js "device-1", js "gateway-1", js "connection-1", 7, js "binding-1", js "runtime-1",
    js "2026-01-01T00:45:00.000Z"⟩

/-- The digest of what its signature is over. -/
def sampleDigest : JsString :=
  js "sha256:65b0b4f368ffc742f818123ab74fe2925fa3c55bac4c5a0f896c5a5ada701ae8"

/-- Its fingerprint. -/
def sampleFingerprint : JsString :=
  js "sha256:24a01ee7f91674c8f81bc832cf917b5a3f9417ff49baddf82c4e377f4b8f0bb5"

/-- The digests of the texts of the read. Any other text stands for its own digest. -/
def sampleSha256 (text : JsString) : JsString :=
  if text = stableJson sampleCommand.execution.signingValue then sampleDigest
  else if text = ⟨(fingerprintValue sampleDigest sampleRoute).write⟩ then sampleFingerprint
  else js "#" ++ text

/-- The digests separate all texts. -/
theorem sampleSha256_injective {left right : JsString}
    (same : sampleSha256 left = sampleSha256 right) : left = right := by
  have different : sampleDigest ≠ sampleFingerprint := fun equal =>
    absurd (js_inj equal) (by decide)
  have marked {digest text : JsString} (named : digest.units.head? = some (unit 's')) :
      digest ≠ js "#" ++ text := by
    rintro rfl
    have marks : some (unit '#') = some (unit 's') := named
    exact absurd marks (by decide)
  have first (text : JsString) : sampleDigest ≠ js "#" ++ text :=
    marked (head_ofList (by decide))
  have second (text : JsString) : sampleFingerprint ≠ js "#" ++ text :=
    marked (head_ofList (by decide))
  have shapes (text : JsString) :
      (text = stableJson sampleCommand.execution.signingValue ∧ sampleSha256 text = sampleDigest) ∨
      (text = ⟨(fingerprintValue sampleDigest sampleRoute).write⟩ ∧
        sampleSha256 text = sampleFingerprint) ∨ sampleSha256 text = js "#" ++ text := by
    unfold sampleSha256
    split_ifs with payload fingerprint
    · exact .inl ⟨payload, rfl⟩
    · exact .inr (.inl ⟨fingerprint, rfl⟩)
    · exact .inr (.inr rfl)
  rcases shapes left with ⟨l, leftIs⟩ | ⟨l, leftIs⟩ | leftIs <;>
    rcases shapes right with ⟨r, rightIs⟩ | ⟨r, rightIs⟩ | rightIs <;>
      rw [leftIs, rightIs] at same
  · exact l.trans r.symm
  · exact absurd same different
  · exact absurd same (first right)
  · exact absurd same.symm different
  · exact l.trans r.symm
  · exact absurd same (second right)
  · exact absurd same.symm (first left)
  · exact absurd same.symm (second left)
  · have units := congrArg JsString.units same
    simp only [JsString.units_append] at units
    exact JsString.ext_units (List.append_cancel_left units)

/-- The digests separate the texts that are written as JSON. -/
theorem separatesJson_sample : SeparatesJson sampleSha256 := by
  intro left right same
  exact congrArg JsString.units (sampleSha256_injective same)

/-- The device accepts the read under a receipt. -/
def sampleAccepted (receiptId : JsString) : DeviceFilesystemReadEvent :=
  ⟨js "device-1", js "execution-1", receiptId, 7, js "workspace-1", js "incarnation-1",
    sampleDigest, 1, js "2026-01-01T00:01:00.000Z",
    .accepted (js "lease-1") 3 (js "2026-01-01T01:00:00.000Z")⟩

/-- The device ends the read. -/
def sampleFailed : DeviceFilesystemReadEvent :=
  ⟨js "device-1", js "execution-1", js "receipt-1", 7, js "workspace-1", js "incarnation-1",
    sampleDigest, 2, js "2026-01-01T00:02:00.000Z", .failed (js "file_missing") false⟩

theorem parsed_sample : parseDeviceFilesystemReadCommand sampleCommand = .ok () := by decide_cbv

theorem fence_sample :
    parseWorkspaceReadRouteFence sampleRoute (some sampleCommand.deviceId) = .ok () ∧
      parseWorkspaceReadRouteFence sampleRoute none = .ok () := by decide_cbv

theorem digest_sample : commandDigest sampleSha256 sampleCommand = .ok sampleDigest := by
  have parsed := parsed_sample
  simp only [parseDeviceFilesystemReadCommand, bind_eq_ok, exists_unit] at parsed
  exact commandDigest_eq_ok.mpr ⟨parsed_sample, parsed.1, if_pos rfl⟩

theorem fingerprint_sample :
    fingerprintFor sampleSha256 sampleCommand sampleRoute = .ok sampleFingerprint := by
  refine fingerprintFor_eq_ok.mpr ⟨fence_sample.1, sampleDigest, digest_sample, ?_⟩
  -- one text is a record of two fields, the other one of three
  have other : (⟨(fingerprintValue sampleDigest sampleRoute).write⟩ : JsString) ≠
      stableJson sampleCommand.execution.signingValue := by
    intro same
    have values : fingerprintValue sampleDigest sampleRoute =
        sampleCommand.execution.signingValue.stabilize :=
      JsonValue.write_inj (congrArg JsString.units same)
    simp only [fingerprintValue, DeviceExecutionCommand.signingValue, JsonValue.stabilize,
      JsonValue.object.injEq] at values
    have lengths := congrArg List.length values
    simp [JsonValue.stabilizeFields] at lengths
  rw [sampleSha256, if_neg other, if_pos rfl]

theorem current_sample :
    sameCurrentRoute (some sampleRoute) sampleRoute sampleCommand.deviceId = .ok true := by
  simp only [sameCurrentRoute, sameRoute, fence_sample, ok_bind]
  rfl

/-- The store before the read. -/
def sampleStart : WorkspaceReadWorld := ⟨⟨.empty, .empty, false⟩, []⟩

/-- The instant at which the read is prepared. -/
def sampleCreatedAt : JsString := js "2026-01-01T00:00:30.000Z"

/-- The record of the read before any event. -/
def sampleRecord : WorkspaceReadDispatchRecord :=
  preparedRecord sampleCommand sampleRoute sampleCreatedAt sampleFingerprint

/-- The store with a record of the read. -/
def sampleStore (record : WorkspaceReadDispatchRecord) : WorkspaceReadStore :=
  ⟨OrderedMap.set .empty (js "execution-1") .workspaceRead,
    OrderedMap.set .empty (js "execution-1") record, false⟩

/-- Prepare the read. -/
def samplePreparation : List WorkspaceReadOperation :=
  [.prepare sampleCommand sampleRoute sampleCreatedAt,
    .resume 0 (.ok (some sampleRoute)) (some 1767225630000)]

theorem prepares_sample : (performRead sampleSha256 isoParse
      (.prepare sampleCommand sampleRoute sampleCreatedAt)).run sampleStart = (.ok .waits,
        ⟨sampleStart.store, [WaitingCall.prepare sampleCommand sampleRoute sampleCreatedAt]⟩) := by
  have timed : requireStoreTimestamp isoParse sampleCreatedAt = .ok () := by decide_cbv
  exact prepare_waits rfl parsed_sample timed fence_sample.1

theorem creates_sample : (performRead sampleSha256 isoParse
      (.resume 0 (.ok (some sampleRoute)) (some 1767225630000))).run
        ⟨sampleStart.store, [WaitingCall.prepare sampleCommand sampleRoute sampleCreatedAt]⟩ =
      (.ok (.created sampleRecord), ⟨sampleStore sampleRecord, []⟩) := by
  have free : sampleStart.store.kinds.kind sampleCommand.executionId = .ok none :=
    DeviceExecutionKinds.kind_eq_ok.mpr ⟨by decide, rfl⟩
  have claimed : sampleStart.store.kinds.claim sampleCommand.executionId .workspaceRead =
      .ok (sampleStore sampleRecord).kinds :=
    DeviceExecutionKinds.claim_eq_ok.mpr ⟨by decide, nofun, rfl⟩
  exact prepare_creates current_sample fingerprint_sample rfl free claimed

theorem readable_sample :
    parseDeviceFilesystemReadEvent sampleSha256 (sampleAccepted (js "receipt-1")) = .ok () ∧
      parseDeviceFilesystemReadEvent sampleSha256 (sampleAccepted (js "receipt-2")) = .ok () ∧
      parseDeviceFilesystemReadEvent sampleSha256 sampleFailed = .ok () := by
  decide_cbv

theorem authority_sample {record : WorkspaceReadDispatchRecord}
    (sent : record.route = some sampleRoute) (same : record.fingerprint = sampleFingerprint) :
    commitAuthority sampleSha256 (sampleStore record) sampleCommand =
      .ok (record, sampleRoute) := by
  have found : (sampleStore record).records.find sampleCommand.executionId = some record :=
    OrderedMap.find_set_self
  have kind : (sampleStore record).kinds.kind sampleCommand.executionId =
      .ok (some .workspaceRead) :=
    DeviceExecutionKinds.kind_eq_ok.mpr ⟨by decide, OrderedMap.find_set_self⟩
  simp [commitAuthority, kind, found, sent, fingerprint_sample, same, rejectIf]

/-- The record with a first event. -/
def sampleHolding (receiptId : JsString) : WorkspaceReadDispatchRecord :=
  { sampleRecord with
    acceptedEvent := some (sampleAccepted receiptId)
    updatedAt := js "2026-01-01T00:01:02.000Z" }

/-- The record of the ended read. -/
def sampleEnded : WorkspaceReadDispatchRecord :=
  { sampleHolding (js "receipt-1") with
    terminalEvent := some sampleFailed
    resolution := some ⟨js "execution-1", js "receipt-1", .failed, sampleFailed⟩
    updatedAt := js "2026-01-01T00:02:03.000Z" }

theorem calling_sample {event : DeviceFilesystemReadEvent} {record : WorkspaceReadDispatchRecord}
    (readable : parseDeviceFilesystemReadEvent sampleSha256 event = .ok ())
    (digest : event.commandDigest = sampleDigest)
    (about : (event.deviceId, event.executionId, event.workspaceBindingId, event.incarnationId,
      event.connectionEpoch) =
        (sampleCommand.deviceId, sampleCommand.executionId, sampleCommand.workspaceBindingId,
          sampleCommand.arguments.workspaceIncarnationId, sampleRoute.connectionEpoch))
    (sent : record.route = some sampleRoute) (same : record.fingerprint = sampleFingerprint)
    (absent : record.eventOf event.sequence = none)
    (accepted : event.sequence = 2 →
      record.acceptedEvent.map (·.receiptId) = some event.receiptId) :
    Calling sampleSha256 (sampleStore record) sampleCommand sampleRoute event record := by
  simp only [Prod.mk.injEq] at about
  obtain ⟨device, execution, binding, incarnation, epoch⟩ := about
  refine ⟨rfl, parsed_sample, readable, fence_sample.1, authority_sample sent same, ?_, absent, ?_⟩
  · simp [requireEventIdentity, digest_sample, device, execution, binding, incarnation, epoch,
      digest]
  · have held : event.sequence = 2 → record.acceptedEvent ≠ none := by
      intro last none
      have receipt := accepted last
      rw [none] at receipt
      cases receipt
    simp only [commitChecks, sameRoute, fence_sample, ok_bind, bind_eq_ok, exists_unit,
      rejectIf_eq_ok, pure_eq_ok, not_and, ne_eq, not_not]
    exact ⟨held, accepted, true, by simp, by simp⟩

/-- The commit of a first event waits. -/
theorem waits_sample {receiptId : JsString} {waiting : List WaitingCall} {now : Option Int}
    (readable : parseDeviceFilesystemReadEvent sampleSha256 (sampleAccepted receiptId) = .ok ()) :
    (performRead sampleSha256 isoParse
        (.commit sampleCommand sampleRoute (sampleAccepted receiptId) now)).run
      ⟨sampleStore sampleRecord, waiting⟩ = (.ok .waits, ⟨sampleStore sampleRecord,
        waiting ++ [WaitingCall.commit sampleCommand sampleRoute (sampleAccepted receiptId)
          sampleRecord]⟩) :=
  commit_waits (calling_sample readable rfl rfl rfl rfl rfl nofun) rfl

/-- The commit of a first event writes over any other record. -/
theorem resumes_sample {receiptId : JsString} {record : WorkspaceReadDispatchRecord}
    {waiting : List WaitingCall} :
    (performRead sampleSha256 isoParse
        (.resume 0 (.ok (some sampleRoute)) (some 1767225662000))).run
      ⟨sampleStore record, WaitingCall.commit sampleCommand sampleRoute (sampleAccepted receiptId)
        sampleRecord :: waiting⟩ =
      (.ok (.commits (commitResult .committed (sampleHolding receiptId)
        (sampleAccepted receiptId))), ⟨sampleStore (sampleHolding receiptId), waiting⟩) := by
  have computed : committedRecord isoParse sampleRecord (sampleAccepted receiptId)
      (some 1767225662000) = .ok (sampleHolding receiptId) := rfl
  exact commit_resumes current_sample computed

/-- The commit of the last event writes at once. -/
theorem ends_sample :
    (performRead sampleSha256 isoParse
        (.commit sampleCommand sampleRoute sampleFailed (some 1767225723000))).run
      ⟨sampleStore (sampleHolding (js "receipt-1")), []⟩ =
      (.ok (.commits (commitResult .committed sampleEnded sampleFailed)),
        ⟨sampleStore sampleEnded, []⟩) := by
  have computed : committedRecord isoParse (sampleHolding (js "receipt-1")) sampleFailed
      (some 1767225723000) = .ok sampleEnded := rfl
  exact commit_ends (calling_sample readable_sample.2.2 rfl rfl rfl rfl rfl fun _ => rfl)
    (by decide) computed

/-- The read is prepared, accepted and ended. -/
def sampleRun : List WorkspaceReadOperation :=
  samplePreparation ++ [
    WorkspaceReadOperation.commit sampleCommand sampleRoute (sampleAccepted (js "receipt-1"))
      (some 1767225661000),
    .resume 0 (.ok (some sampleRoute)) (some 1767225662000),
    .commit sampleCommand sampleRoute sampleFailed (some 1767225723000)]

theorem opened_sample :
    openWorkspaceReadStore sampleSha256 isoParse .empty [] = .ok sampleStart.store := rfl

theorem unraced_sample : UnracedRun sampleSha256 isoParse sampleStart sampleRun := by
  simp only [UnracedRun, stepsOf, sampleRun, samplePreparation, List.cons_append, List.nil_append,
    trace, prepares_sample, creates_sample, waits_sample readable_sample.1, resumes_sample,
    ends_sample, List.forall_mem_cons]
  refine ⟨unraced_of_none rfl, unraced_of_none rfl, unraced_of_none rfl, ?_, unraced_of_none rfl,
    fun _ member => absurd member List.not_mem_nil⟩
  have found : (sampleStore sampleRecord).records.find sampleCommand.executionId =
      some sampleRecord := OrderedMap.find_set_self
  intro resumed present
  simp only [resumedFirst, List.getElem?_cons_zero, found, Option.map_some, Option.mem_def,
    Option.some.injEq] at present
  rw [← present]
  exact .inl rfl

theorem written_once_sample : SeparatesJson sampleSha256 ∧ ReadsDates isoParse ∧
    openWorkspaceReadStore sampleSha256 isoParse .empty [] = .ok sampleStart.store ∧
    UnracedRun sampleSha256 isoParse sampleStart sampleRun ∧
    WriteOnce sampleSha256 isoParse sampleStart sampleRun :=
  ⟨separatesJson_sample, readsDates_isoParse, opened_sample, unraced_sample,
    written_once separatesJson_sample readsDates_isoParse opened_sample
      unraced_sample⟩

/-- What an operation reads off the clock. -/
def reading : WorkspaceReadOperation → Option Int
  | .commit _ _ _ now | .resume _ _ now => now
  | .prepare .. | .load .. | .claim .. => none

/-- The clock does not go back. -/
def ClockAscends (operations : List WorkspaceReadOperation) : Prop :=
  (operations.filterMap reading).Pairwise (· ≤ ·)

/-- Two commits of first events go on one behind the other. -/
def sampleRace : List WorkspaceReadOperation :=
  samplePreparation ++ [
    WorkspaceReadOperation.commit sampleCommand sampleRoute (sampleAccepted (js "receipt-1"))
      (some 1767225661000),
    .commit sampleCommand sampleRoute (sampleAccepted (js "receipt-2")) (some 1767225661000),
    .resume 0 (.ok (some sampleRoute)) (some 1767225662000)]

theorem raced_sample : stateAfter sampleSha256 isoParse sampleStart sampleRace =
    ⟨sampleStore (sampleHolding (js "receipt-1")), [WaitingCall.commit sampleCommand sampleRoute
      (sampleAccepted (js "receipt-2")) sampleRecord]⟩ := by
  have prepared : stateAfter sampleSha256 isoParse sampleStart samplePreparation =
      ⟨sampleStore sampleRecord, []⟩ := by
    rw [samplePreparation, stateAfter, finalState, prepares_sample, finalState, creates_sample,
      finalState]
  rw [sampleRace, stateAfter_append, prepared, stateAfter, finalState,
    waits_sample readable_sample.1, finalState, waits_sample readable_sample.2.1, finalState,
    List.nil_append, List.cons_append, resumes_sample, finalState, List.nil_append]

/-- The commit that goes on last. -/
def sampleLast : WorkspaceReadOperation :=
  .resume 0 (.ok (some sampleRoute)) (some 1767225662000)

theorem ascends_sample : ClockAscends (sampleRace ++ [sampleLast]) := by
  unfold ClockAscends
  decide

theorem lost_sample : ¬ Keeps (sampleStore (sampleHolding (js "receipt-1"))).records
    (sampleStore (sampleHolding (js "receipt-2"))).records := by
  intro lost
  obtain ⟨next, found, accepted, _⟩ := lost (js "execution-1") _ OrderedMap.find_set_self
  obtain rfl : sampleHolding (js "receipt-2") = next :=
    Option.some.inj (OrderedMap.find_set_self.symm.trans found)
  have same : (sampleHolding (js "receipt-2")).acceptedEvent =
      some (sampleAccepted (js "receipt-1")) := accepted _ rfl
  have receipts : js "receipt-2" = js "receipt-1" :=
    congrArg DeviceFilesystemReadEvent.receiptId (Option.some.inj same)
  exact absurd receipts (by decide)

/-- The later one of two commits that both wait writes over the event of the other one. -/
theorem later_acceptance_wins : SeparatesJson sampleSha256 ∧ ReadsDates isoParse ∧
    openWorkspaceReadStore sampleSha256 isoParse .empty [] = .ok sampleStart.store ∧
    ClockAscends (sampleRace ++ [sampleLast]) ∧
    ¬ WriteOnce sampleSha256 isoParse sampleStart (sampleRace ++ [sampleLast]) := by
  refine ⟨separatesJson_sample, readsDates_isoParse, opened_sample, ascends_sample, ?_⟩
  intro once
  have lost := once.kept sampleRace [sampleLast] [] (List.append_nil _).symm
  rw [stateAfter_append, raced_sample, stateAfter, finalState, sampleLast, resumes_sample,
    finalState] at lost
  exact lost_sample lost

end Sample

end Crewon.Verif.WorkspaceReadDispatch
