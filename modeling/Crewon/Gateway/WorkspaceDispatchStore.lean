import Crewon.Contracts.DeviceWorkspaceList
import Crewon.Gateway.DeviceExecutionKinds

/-!
# The dispatch of listings

The store keeps one record for each listing of a workspace: the command, the connection over which
the device accepted it, the event of that, the event with which the device ended it, and the end.
Each call reads and writes the store in one piece. The current connection and the clock are asked
only for what has not been stored yet.
-/

namespace Crewon.Gateway.WorkspaceDispatch

open Crewon.Js Crewon.Checked Crewon.Domain Crewon.Contracts Crewon.Lib

/-- The connection that a device is reached over. -/
structure DeviceWorkspaceListPeerRoute where
  deviceId : JsString
  gatewayId : JsString
  connectionId : JsString
  connectionEpoch : Int
  leaseExpiresAt : JsString
deriving DecidableEq

/-- What is stored of a listing. -/
structure WorkspaceDispatchAuthorityRecord where
  executionId : JsString
  fingerprint : JsString
  command : DeviceWorkspaceListCommand
  route : Option DeviceWorkspaceListPeerRoute
  acceptedEvent : Option DeviceWorkspaceListEvent
  terminalEvent : Option DeviceWorkspaceListEvent
  resolution : Option DeviceWorkspaceListDispatchResolution
  createdAt : JsString
  updatedAt : JsString
deriving DecidableEq

/-- The acknowledgement of an event. -/
structure WorkspaceDispatchAcknowledgementAuthority where
  deviceId : JsString
  executionId : JsString
  receiptId : JsString
  connectionEpoch : Int
  workspaceBindingId : JsString
  incarnationId : JsString
  deviceBindingId : JsString
  runtimeBindingId : JsString
  actionDigest : JsString
  commandDigest : JsString
  throughSequence : Int
deriving DecidableEq

/-- Whether a commit wrote, or had been made before. -/
inductive WorkspaceDispatchOutcome where
  | committed
  | replayed
deriving DecidableEq

/-- What a commit of an event returns. -/
structure CommitWorkspaceDispatchEventResult where
  outcome : WorkspaceDispatchOutcome
  record : WorkspaceDispatchAuthorityRecord
  acknowledgement : WorkspaceDispatchAcknowledgementAuthority
deriving DecidableEq

/-- What a call returns. -/
inductive WorkspaceDispatchReply where
  | created (record : WorkspaceDispatchAuthorityRecord)
  | existing (record : WorkspaceDispatchAuthorityRecord)
  | commits (result : CommitWorkspaceDispatchEventResult)
  | loaded (record : Option WorkspaceDispatchAuthorityRecord)
  | claimed
deriving DecidableEq

/-- The store. -/
structure WorkspaceDispatchStore where
  kinds : DeviceExecutionKinds
  records : OrderedMap JsString WorkspaceDispatchAuthorityRecord
  closed : Bool

/-- The connections are the same but for how long they last. -/
def sameWorkspaceDispatchRouteFence (left right : DeviceWorkspaceListPeerRoute) : Bool :=
  left.deviceId = right.deviceId && left.gatewayId = right.gatewayId &&
    left.connectionId = right.connectionId && left.connectionEpoch = right.connectionEpoch

/-- The values are the same JSON. -/
def sameWorkspaceDispatchJson (left right : JsonValue) : Bool := stableJson left = stableJson right

/-- Reject a text that is no id of the wire grammar. -/
def requireRouteId (value : JsString) (code : String) : Checked Unit :=
  rejectIf (isWireId value = false) (gatewayError code)

/-- The acknowledgement of an event. -/
def acknowledgement (event : DeviceWorkspaceListEvent) :
    WorkspaceDispatchAcknowledgementAuthority :=
  ⟨event.deviceId, event.executionId, event.receiptId, event.connectionEpoch,
    event.workspaceBindingId, event.incarnationId, event.deviceBindingId, event.runtimeBindingId,
    event.actionDigest, event.commandDigest, event.sequence⟩

section Digest

-- the digest of a text, and the host's reading of a date text in any format
variable (sha256 : JsString → JsString) (parseDate : JsString → Option Int)

/-- Reject a text that is not what the host writes for an instant. -/
def requireWorkspaceDispatchTimestamp (value : JsString) : Checked Unit :=
  rejectIf (isWrittenDate parseDate value = false)
    (gatewayError "workspace_dispatch_timestamp_invalid")

/-- Reject an instant that is earlier than another one. -/
def requireWorkspaceDispatchNotBefore (value minimum : JsString) : Checked Unit :=
  rejectIf (parsesEarlier parseDate value minimum = true)
    (gatewayError "workspace_dispatch_timestamp_invalid")

/-- Both texts name instants and the first is not earlier. -/
def parsesAtOrAfter (left right : JsString) : Bool :=
  match parseDate left, parseDate right with
  | some first, some second => second ≤ first
  | _, _ => false

/-- Reject a connection that does not last until an instant. -/
def requireWorkspaceDispatchRouteCurrent (committedAt : JsString)
    (route : DeviceWorkspaceListPeerRoute) : Checked Unit :=
  rejectIf (parsesAtOrAfter parseDate committedAt route.leaseExpiresAt = true)
    (gatewayError "workspace_dispatch_route_expired")

/-- The checks of a connection. -/
def parseWorkspaceDispatchRoute (route : DeviceWorkspaceListPeerRoute) : Checked Unit := do
  requireRouteId route.deviceId "device_id_invalid"
  requireRouteId route.gatewayId "device_gateway_id_invalid"
  requireRouteId route.connectionId "device_connection_id_invalid"
  requirePositiveInteger route.connectionEpoch (gatewayError "device_connection_epoch_invalid")
  requireWorkspaceDispatchTimestamp parseDate route.leaseExpiresAt

/-- The fingerprint of a command. -/
def workspaceDispatchFingerprint (command : DeviceWorkspaceListCommand) : Checked JsString := do
  parseDeviceWorkspaceListCommand command
  return sha256 (stableJson command.json)

/-- The checks of an event that must, or must not, accept the command. -/
def requireEvent (acceptance : Bool) (event : DeviceWorkspaceListEvent)
    (command : DeviceWorkspaceListCommand) (route : Option DeviceWorkspaceListPeerRoute) :
    Checked Unit :=
  match route with
  | none => .error (gatewayError "workspace_dispatch_authority_corrupt")
  | some route => do
    parseDeviceWorkspaceListEventForCommand parseDate event command (some route.connectionEpoch)
    rejectIf (event.data.isAccepted ≠ acceptance ∨ event.deviceId ≠ route.deviceId)
      (gatewayError "workspace_dispatch_event_identity_mismatch")

/-- The checks of an event that accepts the command. -/
def requireAcceptedEvent (event : DeviceWorkspaceListEvent) (command : DeviceWorkspaceListCommand)
    (route : Option DeviceWorkspaceListPeerRoute) : Checked Unit :=
  requireEvent parseDate true event command route

/-- The checks of an event that ends the listing. -/
def requireTerminalEvent (event : DeviceWorkspaceListEvent) (command : DeviceWorkspaceListCommand)
    (route : Option DeviceWorkspaceListPeerRoute) : Checked Unit :=
  requireEvent parseDate false event command route

/-- The checks of the end of a listing. -/
def parseWorkspaceResolution (resolution : DeviceWorkspaceListDispatchResolution)
    (command : DeviceWorkspaceListCommand) : Checked Unit := do
  parseDeviceWorkspaceListWorkerDispatchRequest command
  parseDeviceWorkspaceListWorkerDispatchResponse parseDate resolution command

/-- The end of a listing has an event as its last one. -/
def endsWith (resolution : DeviceWorkspaceListDispatchResolution)
    (event : DeviceWorkspaceListEvent) : Bool :=
  sameWorkspaceDispatchJson (.ofOption DeviceWorkspaceListEvent.json resolution.terminal) event.json

/-- The last event of a record stands behind the one that accepted the command, and is the one that
its end has. -/
def terminalFits (record : WorkspaceDispatchAuthorityRecord) (terminal : DeviceWorkspaceListEvent) :
    Bool :=
  (record.acceptedEvent.any fun accepted => terminal.receiptId = accepted.receiptId &&
      !parsesEarlier parseDate terminal.observedAt accepted.observedAt) &&
    record.resolution.any fun resolution => endsWith resolution terminal

/-- The checks of a record. -/
def parseWorkspaceDispatchAuthorityRecord (record : WorkspaceDispatchAuthorityRecord) :
    Checked Unit := do
  parseDeviceWorkspaceListCommand record.command
  requireRouteId record.executionId "device_execution_id_invalid"
  rejectIf (record.executionId ≠ record.command.executionId)
    (gatewayError "workspace_dispatch_authority_corrupt")
  let fingerprint ← workspaceDispatchFingerprint sha256 record.command
  rejectIf (record.fingerprint ≠ fingerprint) (gatewayError "workspace_dispatch_authority_corrupt")
  whenPresent record.route (parseWorkspaceDispatchRoute parseDate)
  whenPresent record.acceptedEvent fun event =>
    requireAcceptedEvent parseDate event record.command record.route
  whenPresent record.terminalEvent fun event =>
    requireTerminalEvent parseDate event record.command record.route
  whenPresent record.resolution fun resolution =>
    parseWorkspaceResolution parseDate resolution record.command
  rejectIf (record.route.isNone ≠ record.acceptedEvent.isNone ∨
      record.terminalEvent.isNone ≠ record.resolution.isNone ∨
      (record.terminalEvent.any fun terminal => !terminalFits parseDate record terminal) = true)
    (gatewayError "workspace_dispatch_authority_corrupt")
  requireWorkspaceDispatchTimestamp parseDate record.createdAt
  requireWorkspaceDispatchTimestamp parseDate record.updatedAt
  requireWorkspaceDispatchNotBefore parseDate record.updatedAt record.createdAt

/-- The checks of an event that is to be accepted. -/
def validateAcceptWorkspaceDispatchEventInput (command : DeviceWorkspaceListCommand)
    (route : DeviceWorkspaceListPeerRoute) (event : DeviceWorkspaceListEvent) : Checked Unit := do
  parseDeviceWorkspaceListCommand command
  parseWorkspaceDispatchRoute parseDate route
  requireAcceptedEvent parseDate event command (some route)

/-- The checks of an event that is to end a listing. -/
def validateSettleWorkspaceDispatchEventInput (command : DeviceWorkspaceListCommand)
    (route : DeviceWorkspaceListPeerRoute) (event : DeviceWorkspaceListEvent)
    (resolution : DeviceWorkspaceListDispatchResolution) : Checked Unit := do
  parseDeviceWorkspaceListCommand command
  parseWorkspaceDispatchRoute parseDate route
  requireTerminalEvent parseDate event command (some route)
  parseWorkspaceResolution parseDate resolution command
  rejectIf (endsWith resolution event = false)
    (gatewayError "workspace_dispatch_terminal_conflict")

/-- Reject the records of before when an id stands twice or belongs to a tool. -/
def checkInitialRecords (kinds : DeviceExecutionKinds) :
    List JsString → List WorkspaceDispatchAuthorityRecord → Checked Unit
  | _, [] => .ok ()
  | seen, record :: rest => do
    rejectIf (record.executionId ∈ seen) (gatewayError "device_dispatch_kind_conflict")
    let kind ← kinds.kind record.executionId
    rejectIf (kind = some .tool) (gatewayError "device_dispatch_kind_conflict")
    checkInitialRecords kinds (record.executionId :: seen) rest

/-- Put the records of before into the store. -/
def putInitialRecords (store : WorkspaceDispatchStore) :
    List WorkspaceDispatchAuthorityRecord → Checked WorkspaceDispatchStore
  | [] => return store
  | record :: rest => do
    let kinds ← store.kinds.claim record.executionId .workspaceList
    putInitialRecords { store with
      kinds := kinds
      records := store.records.set record.executionId record } rest

/-- Open the store with the records of before. -/
def openWorkspaceDispatchStore (kinds : DeviceExecutionKinds)
    (initialRecords : List WorkspaceDispatchAuthorityRecord) : Checked WorkspaceDispatchStore := do
  forEach initialRecords (parseWorkspaceDispatchAuthorityRecord sha256 parseDate)
  checkInitialRecords kinds [] initialRecords
  putInitialRecords ⟨kinds, .empty, false⟩ initialRecords

/-- Reject a call once the store is closed. -/
def assertOpen (store : WorkspaceDispatchStore) : Checked Unit :=
  rejectIf (store.closed = true) (gatewayError "workspace_dispatch_store_closed")

/-- The instant of the clock as a text. A clock that names no instant is rejected. -/
def nowTimestamp (now : Option Int) : Checked JsString :=
  match now.bind toIsoString with
  | none => .error (gatewayError "workspace_dispatch_clock_invalid")
  | some text => .ok text

/-- Reject a record of another command. -/
def requireFingerprint (record : WorkspaceDispatchAuthorityRecord) (fingerprint : JsString) :
    Checked Unit :=
  rejectIf (record.fingerprint ≠ fingerprint) (gatewayError "workspace_dispatch_identity_conflict")

/-- Prepare a listing. -/
def prepare (command : DeviceWorkspaceListCommand) (preparedAt : JsString) :
    Program Failure WorkspaceDispatchStore WorkspaceDispatchReply := do
  let store ← Program.read id
  let fingerprint ← Program.check do
    assertOpen store
    parseDeviceWorkspaceListCommand command
    requireWorkspaceDispatchTimestamp parseDate preparedAt
    workspaceDispatchFingerprint sha256 command
  match store.records.find command.executionId with
  | some prior => do
    Program.check do
      let kind ← store.kinds.kind command.executionId
      rejectIf (kind ≠ some .workspaceList) (gatewayError "workspace_dispatch_stored_state_invalid")
      requireFingerprint prior fingerprint
      parseWorkspaceDispatchAuthorityRecord sha256 parseDate prior
    return .existing prior
  | none => do
    let record : WorkspaceDispatchAuthorityRecord := ⟨command.executionId, fingerprint, command,
      none, none, none, none, preparedAt, preparedAt⟩
    let kinds ← Program.check do
      let kind ← store.kinds.kind command.executionId
      rejectIf (kind = some .tool) (gatewayError "device_dispatch_kind_conflict")
      rejectIf (kind = some .workspaceList) (gatewayError "workspace_dispatch_stored_state_invalid")
      parseWorkspaceDispatchAuthorityRecord sha256 parseDate record
      store.kinds.claim command.executionId .workspaceList
    Program.update fun store =>
      { store with kinds := kinds, records := store.records.set command.executionId record }
    return .created record

/-- The record of a command. -/
def requiredRecord (command : DeviceWorkspaceListCommand) :
    Program Failure WorkspaceDispatchStore WorkspaceDispatchAuthorityRecord := do
  let store ← Program.read id
  Program.check do
    let kind ← store.kinds.kind command.executionId
    rejectIf (kind = some .tool) (gatewayError "device_dispatch_kind_conflict")
  match store.records.find command.executionId with
  | none => Program.abort (gatewayError "workspace_dispatch_authority_missing")
  | some record => do
    let kinds ← Program.check (store.kinds.claim command.executionId .workspaceList)
    Program.update fun store => { store with kinds := kinds }
    Program.check do
      parseWorkspaceDispatchAuthorityRecord sha256 parseDate record
      let fingerprint ← workspaceDispatchFingerprint sha256 command
      requireFingerprint record fingerprint
    return record

/-- What a commit of an event returns. The record is checked once more. -/
def workspaceDispatchCommitResult (outcome : WorkspaceDispatchOutcome)
    (record : WorkspaceDispatchAuthorityRecord) (event : DeviceWorkspaceListEvent) :
    Program Failure WorkspaceDispatchStore WorkspaceDispatchReply := do
  Program.check (parseWorkspaceDispatchAuthorityRecord sha256 parseDate record)
  return .commits ⟨outcome, record, acknowledgement event⟩

/-- Write a record, when it is accepted. -/
def writeRecord (committed : WorkspaceDispatchAuthorityRecord) (event : DeviceWorkspaceListEvent) :
    Program Failure WorkspaceDispatchStore WorkspaceDispatchReply := do
  Program.check (parseWorkspaceDispatchAuthorityRecord sha256 parseDate committed)
  Program.update fun store =>
    { store with records := store.records.set committed.executionId committed }
  workspaceDispatchCommitResult sha256 parseDate .committed committed event

/-- The instant and the connection at which an event is accepted for the first time. -/
def acceptanceAuthority (route : DeviceWorkspaceListPeerRoute)
    (prior : WorkspaceDispatchAuthorityRecord)
    (answer : Checked (Option DeviceWorkspaceListPeerRoute)) (now : Option Int) :
    Checked (JsString × DeviceWorkspaceListPeerRoute) := do
  let current ← answer
  match current with
  | none => .error (gatewayError "workspace_dispatch_route_unavailable")
  | some authoritative => do
    parseWorkspaceDispatchRoute parseDate authoritative
    rejectIf (sameWorkspaceDispatchRouteFence authoritative route = false)
      (gatewayError "workspace_dispatch_route_stale")
    let committedAt ← nowTimestamp now
    requireWorkspaceDispatchRouteCurrent parseDate committedAt authoritative
    requireWorkspaceDispatchNotBefore parseDate committedAt prior.updatedAt
    return (committedAt, authoritative)

/-- Accept an event. The answer is which connection to the device is current. -/
def acceptEvent (command : DeviceWorkspaceListCommand) (route : DeviceWorkspaceListPeerRoute)
    (event : DeviceWorkspaceListEvent) (answer : Checked (Option DeviceWorkspaceListPeerRoute))
    (now : Option Int) : Program Failure WorkspaceDispatchStore WorkspaceDispatchReply := do
  let store ← Program.read id
  Program.check do
    assertOpen store
    validateAcceptWorkspaceDispatchEventInput parseDate command route event
  let prior ← requiredRecord sha256 parseDate command
  match prior.acceptedEvent with
  | some accepted => do
    Program.check (rejectIf (¬ (prior.route.any fun stored =>
          sameWorkspaceDispatchRouteFence stored route) = true ∨
        sameWorkspaceDispatchJson accepted.json event.json = false)
      (gatewayError "workspace_dispatch_event_conflict"))
    workspaceDispatchCommitResult sha256 parseDate .replayed prior accepted
  | none => do
    let authority ← Program.check (acceptanceAuthority parseDate route prior answer now)
    writeRecord sha256 parseDate { prior with
      route := some authority.2
      acceptedEvent := some event
      updatedAt := authority.1 } event

/-- Settle an event. -/
def settleEvent (command : DeviceWorkspaceListCommand) (route : DeviceWorkspaceListPeerRoute)
    (event : DeviceWorkspaceListEvent) (resolution : DeviceWorkspaceListDispatchResolution)
    (now : Option Int) : Program Failure WorkspaceDispatchStore WorkspaceDispatchReply := do
  let store ← Program.read id
  Program.check do
    assertOpen store
    validateSettleWorkspaceDispatchEventInput parseDate command route event resolution
  let prior ← requiredRecord sha256 parseDate command
  match prior.acceptedEvent, prior.route with
  | some accepted, some stored => do
    Program.check (rejectIf (sameWorkspaceDispatchRouteFence stored route = false ∨
        accepted.receiptId ≠ event.receiptId) (gatewayError "workspace_dispatch_event_conflict"))
    match prior.terminalEvent, prior.resolution with
    | none, none => do
      let committedAt ← Program.check do
        let committedAt ← nowTimestamp now
        requireWorkspaceDispatchNotBefore parseDate committedAt prior.updatedAt
        return committedAt
      writeRecord sha256 parseDate { prior with
        terminalEvent := some event
        resolution := some resolution
        updatedAt := committedAt } event
    | some terminal, some ended => do
      Program.check (rejectIf (sameWorkspaceDispatchJson terminal.json event.json = false ∨
          sameWorkspaceDispatchJson ended.json resolution.json = false)
        (gatewayError "workspace_dispatch_terminal_conflict"))
      workspaceDispatchCommitResult sha256 parseDate .replayed prior terminal
    | some _, none | none, some _ =>
      Program.abort (gatewayError "workspace_dispatch_terminal_conflict")
  | _, _ => Program.abort (gatewayError "workspace_dispatch_accepted_missing")

/-- Load a record. -/
def load (executionId : JsString) :
    Program Failure WorkspaceDispatchStore WorkspaceDispatchReply := do
  let store ← Program.read id
  let kind ← Program.check do
    assertOpen store
    store.kinds.kind executionId
  if kind = some .tool then return .loaded none
  else do
    let record := store.records.find executionId
    Program.check (whenPresent record (parseWorkspaceDispatchAuthorityRecord sha256 parseDate))
    return .loaded record

/-- The kinds of the commands that other stores dispatch. -/
inductive OtherCommandKind where
  | tool
  | workspaceRead
deriving DecidableEq

/-- Such a kind as one of all kinds. -/
def OtherCommandKind.kind : OtherCommandKind → DeviceExecutionCommandKind
  | .tool => .tool
  | .workspaceRead => .workspaceRead

/-- Another store takes an id for its kind of commands. -/
def claimElsewhere (executionId : JsString) (kind : OtherCommandKind) :
    Program Failure WorkspaceDispatchStore WorkspaceDispatchReply := do
  let store ← Program.read id
  let kinds ← Program.check (store.kinds.claim executionId kind.kind)
  Program.update fun store => { store with kinds := kinds }
  return .claimed

/-- The calls. The answer about the current connection and the clock may be any at each call. -/
inductive WorkspaceDispatchOperation where
  | prepare (command : DeviceWorkspaceListCommand) (preparedAt : JsString)
  | acceptEvent (command : DeviceWorkspaceListCommand) (route : DeviceWorkspaceListPeerRoute)
    (event : DeviceWorkspaceListEvent) (answer : Checked (Option DeviceWorkspaceListPeerRoute))
    (now : Option Int)
  | settleEvent (command : DeviceWorkspaceListCommand) (route : DeviceWorkspaceListPeerRoute)
    (event : DeviceWorkspaceListEvent) (resolution : DeviceWorkspaceListDispatchResolution)
    (now : Option Int)
  | load (executionId : JsString)
  | claimElsewhere (executionId : JsString) (kind : OtherCommandKind)

/-- Perform a call. -/
def perform : WorkspaceDispatchOperation →
    Program Failure WorkspaceDispatchStore WorkspaceDispatchReply
  | .prepare command preparedAt => prepare sha256 parseDate command preparedAt
  | .acceptEvent command route event answer now =>
    acceptEvent sha256 parseDate command route event answer now
  | .settleEvent command route event resolution now =>
    settleEvent sha256 parseDate command route event resolution now
  | .load executionId => load sha256 parseDate executionId
  | .claimElsewhere executionId kind => claimElsewhere executionId kind

end Digest

end Crewon.Gateway.WorkspaceDispatch
