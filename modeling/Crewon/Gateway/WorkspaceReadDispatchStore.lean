import Crewon.Contracts.DeviceFilesystemRead
import Crewon.Gateway.DeviceExecutionKinds
import Crewon.Js.DateReading

/-!
# The dispatch of reads

The store keeps one record for each read of a file: the command, the connection it was sent over,
the event with which the device accepted it and the one with which the device ended it. A commit of
the first event waits for the answer which connection is current, and writes when it has it.
-/

namespace Crewon.Gateway

open Crewon.Js Crewon.Checked Crewon.Domain Crewon.Contracts Crewon.Lib

/-- The connection that a read is sent over. -/
structure WorkspaceReadRouteFence where
  deviceId : JsString
  gatewayId : JsString
  connectionId : JsString
  connectionEpoch : Int
  deviceBindingId : JsString
  runtimeBindingId : JsString
  leaseExpiresAt : JsString
deriving DecidableEq

/-- The connection as JSON. -/
def WorkspaceReadRouteFence.json (route : WorkspaceReadRouteFence) : JsonValue :=
  .object [("deviceId", .string route.deviceId), ("gatewayId", .string route.gatewayId),
    ("connectionId", .string route.connectionId),
    ("connectionEpoch", .number route.connectionEpoch),
    ("deviceBindingId", .string route.deviceBindingId),
    ("runtimeBindingId", .string route.runtimeBindingId),
    ("capability", .string deviceFilesystemReadCapability),
    ("leaseExpiresAt", .string route.leaseExpiresAt)]

/-- How a read ended. -/
inductive WorkspaceReadStatus where
  | completed
  | failed
  | canceled
  | unknownOutcome
deriving DecidableEq

/-- The end of a read. -/
structure WorkspaceReadResolution where
  executionId : JsString
  receiptId : JsString
  status : WorkspaceReadStatus
  terminal : DeviceFilesystemReadEvent
deriving DecidableEq

/-- What is stored of a read. -/
structure WorkspaceReadDispatchRecord where
  executionId : JsString
  fingerprint : JsString
  command : DeviceFilesystemReadCommand
  route : Option WorkspaceReadRouteFence
  acceptedEvent : Option DeviceFilesystemReadEvent
  terminalEvent : Option DeviceFilesystemReadEvent
  resolution : Option WorkspaceReadResolution
  createdAt : JsString
  updatedAt : JsString
deriving DecidableEq

/-- The checks of a connection, which may have to be of one device. -/
def parseWorkspaceReadRouteFence (route : WorkspaceReadRouteFence)
    (expectedDeviceId : Option JsString) : Checked Unit := do
  rejectIf (isWireId route.deviceId = false) (gatewayError "workspace_read_route_invalid")
  requireTimestamp route.leaseExpiresAt (gatewayError "workspace_read_route_invalid")
  rejectIf ((expectedDeviceId.any fun expected => route.deviceId ≠ expected) = true ∨
      isPositiveInteger route.connectionEpoch = false)
    (gatewayError "workspace_read_route_invalid")
  rejectIf (isWireId route.gatewayId = false) (gatewayError "workspace_read_route_invalid")
  rejectIf (isWireId route.connectionId = false) (gatewayError "workspace_read_route_invalid")
  rejectIf (isWireId route.deviceBindingId = false) (gatewayError "workspace_read_route_invalid")
  rejectIf (isWireId route.runtimeBindingId = false) (gatewayError "workspace_read_route_invalid")

/-- Both connections are valid and the same. -/
def sameRoute (left right : WorkspaceReadRouteFence) : Checked Bool := do
  parseWorkspaceReadRouteFence left none
  parseWorkspaceReadRouteFence right none
  return left = right

/-- The current connection is the expected one. -/
def sameCurrentRoute (current : Option WorkspaceReadRouteFence)
    (expected : WorkspaceReadRouteFence) (deviceId : JsString) : Checked Bool :=
  match current with
  | none => .ok false
  | some route => do
    parseWorkspaceReadRouteFence route (some deviceId)
    sameRoute route expected

/-- The end of a read, told by its last event. -/
def resolution (event : DeviceFilesystemReadEvent) : Checked WorkspaceReadResolution :=
  match event.data with
  | .completed .. => .ok ⟨event.executionId, event.receiptId, .completed, event⟩
  | .failed .. => .ok ⟨event.executionId, event.receiptId, .failed, event⟩
  | .canceled .. => .ok ⟨event.executionId, event.receiptId, .canceled, event⟩
  | .unknownOutcome .. => .ok ⟨event.executionId, event.receiptId, .unknownOutcome, event⟩
  | .accepted .. => .error (gatewayError "workspace_read_terminal_invalid")

/-- Whether a commit wrote, or had been made before. -/
inductive CommitOutcome where
  | committed
  | replayed
deriving DecidableEq

/-- The acknowledgement of an event. -/
structure WorkspaceReadAcknowledgement where
  deviceId : JsString
  executionId : JsString
  receiptId : JsString
  connectionEpoch : Int
  workspaceBindingId : JsString
  incarnationId : JsString
  commandDigest : JsString
  throughSequence : Int
deriving DecidableEq

/-- What a commit returns. -/
structure WorkspaceReadCommitResult where
  outcome : CommitOutcome
  record : WorkspaceReadDispatchRecord
  acknowledgement : WorkspaceReadAcknowledgement
deriving DecidableEq

/-- What a commit of an event returns. -/
def commitResult (outcome : CommitOutcome) (record : WorkspaceReadDispatchRecord)
    (event : DeviceFilesystemReadEvent) : WorkspaceReadCommitResult :=
  ⟨outcome, record, event.deviceId, event.executionId, event.receiptId, event.connectionEpoch,
    event.workspaceBindingId, event.incarnationId, event.commandDigest, event.sequence⟩

/-- The store. -/
structure WorkspaceReadStore where
  kinds : DeviceExecutionKinds
  records : OrderedMap JsString WorkspaceReadDispatchRecord
  closed : Bool

/-- A call that waits for the answer which connection is current. -/
inductive WaitingCall where
  | prepare (command : DeviceFilesystemReadCommand) (route : WorkspaceReadRouteFence)
    (createdAt : JsString)
  | commit (command : DeviceFilesystemReadCommand) (route : WorkspaceReadRouteFence)
    (event : DeviceFilesystemReadEvent) (prior : WorkspaceReadDispatchRecord)
deriving DecidableEq

/-- The store with the calls that wait, in the order in which they came. -/
structure WorkspaceReadWorld where
  store : WorkspaceReadStore
  waiting : List WaitingCall

/-- What a call has come to. -/
inductive WorkspaceReadReply where
  | waits
  | created (record : WorkspaceReadDispatchRecord)
  | existing (record : WorkspaceReadDispatchRecord)
  | commits (result : WorkspaceReadCommitResult)
  | loaded (record : Option WorkspaceReadDispatchRecord)
  | claimed
deriving DecidableEq

section Digest

-- the digest of a text, and the host's reading of a date text in any format
variable (sha256 : JsString → JsString) (parseDate : JsString → Option Int)

/-- The digest of a command. -/
def commandDigest (command : DeviceFilesystemReadCommand) : Checked JsString :=
  canonicalDeviceFilesystemReadCommandDigest sha256 command

/-- What the fingerprint of a read is the digest of. -/
def fingerprintValue (digest : JsString) (route : WorkspaceReadRouteFence) : JsonValue :=
  .object [("commandDigest", .string digest), ("route", route.json)]

/-- The fingerprint of a read over a connection. -/
def fingerprintFor (command : DeviceFilesystemReadCommand) (route : WorkspaceReadRouteFence) :
    Checked JsString := do
  parseWorkspaceReadRouteFence route (some command.deviceId)
  let digest ← commandDigest sha256 command
  return sha256 ⟨(fingerprintValue digest route).write⟩

/-- Reject an event that is not about the command, or came over another connection. -/
def requireEventIdentity (command : DeviceFilesystemReadCommand)
    (event : DeviceFilesystemReadEvent) (epoch : Int) : Checked Unit := do
  rejectIf (event.deviceId ≠ command.deviceId ∨ event.executionId ≠ command.executionId ∨
      event.workspaceBindingId ≠ command.workspaceBindingId ∨
      event.incarnationId ≠ command.arguments.workspaceIncarnationId ∨
      event.connectionEpoch ≠ epoch) (gatewayError "workspace_read_event_identity_mismatch")
  let digest ← commandDigest sha256 command
  rejectIf (event.commandDigest ≠ digest) (gatewayError "workspace_read_event_identity_mismatch")

/-- Reject a text that does not end in `Z` or names no instant. -/
def requireStoreTimestamp (value : JsString) : Checked Unit :=
  rejectIf (endsInUtc parseDate value = false) (gatewayError "workspace_read_timestamp_invalid")

/-- The checks of the last event of a record. -/
def parseTerminalEvent (record : WorkspaceReadDispatchRecord) (route : WorkspaceReadRouteFence)
    (terminal : DeviceFilesystemReadEvent) : Checked Unit := do
  requireEventIdentity sha256 record.command terminal route.connectionEpoch
  rejectIf (¬ record.acceptedEvent.any fun accepted =>
      terminal.receiptId = accepted.receiptId ∧
        isEarlier terminal.observedAt accepted.observedAt = false)
    (gatewayError "workspace_read_record_invalid")

/-- The checks of a record. -/
def parseWorkspaceReadDispatchRecord (record : WorkspaceReadDispatchRecord) : Checked Unit := do
  parseDeviceFilesystemReadCommand record.command
  match record.route with
  | none => .error (gatewayError "workspace_read_route_invalid")
  | some route => do
    parseWorkspaceReadRouteFence route (some record.command.deviceId)
    whenPresent record.acceptedEvent (parseDeviceFilesystemReadEvent sha256)
    whenPresent record.terminalEvent (parseDeviceFilesystemReadEvent sha256)
    requireStoreTimestamp parseDate record.createdAt
    requireStoreTimestamp parseDate record.updatedAt
    let fingerprint ← fingerprintFor sha256 record.command route
    rejectIf (record.executionId ≠ record.command.executionId ∨
        record.fingerprint ≠ fingerprint ∨
        parsesEarlier parseDate record.updatedAt record.createdAt = true)
      (gatewayError "workspace_read_record_invalid")
    whenPresent record.acceptedEvent fun accepted =>
      requireEventIdentity sha256 record.command accepted route.connectionEpoch
    whenPresent record.terminalEvent (parseTerminalEvent sha256 record route)
    let expected ← mapPresent record.terminalEvent resolution
    rejectIf (record.resolution ≠ expected) (gatewayError "workspace_read_record_invalid")

/-- Put the records of before into the store. -/
def openRecords (store : WorkspaceReadStore) :
    List WorkspaceReadDispatchRecord → Checked WorkspaceReadStore
  | [] => return store
  | record :: rest => do
    parseWorkspaceReadDispatchRecord sha256 parseDate record
    let kinds ← store.kinds.claim record.executionId .workspaceRead
    openRecords { store with
      kinds := kinds
      records := store.records.set record.executionId record } rest

/-- Open the store with the records of before. -/
def openWorkspaceReadStore (kinds : DeviceExecutionKinds)
    (initialRecords : List WorkspaceReadDispatchRecord) : Checked WorkspaceReadStore :=
  openRecords sha256 parseDate ⟨kinds, .empty, false⟩ initialRecords

/-- Reject a call once the store is closed. -/
def assertOpen (store : WorkspaceReadStore) : Checked Unit :=
  rejectIf (store.closed = true) (gatewayError "workspace_read_store_closed")

/-- The instant of the clock as a text. A clock that names no instant is rejected. -/
def clockTimestamp (now : Option Int) : Checked JsString :=
  match now.bind toIsoString with
  | none => .error (gatewayError "workspace_read_clock_invalid")
  | some text => .ok text

/-- Prepare a read, up to the question which connection is current. -/
def prepare (command : DeviceFilesystemReadCommand) (route : WorkspaceReadRouteFence)
    (createdAt : JsString) : Program Failure WorkspaceReadWorld WorkspaceReadReply := do
  let world ← Program.read id
  Program.check do
    assertOpen world.store
    parseDeviceFilesystemReadCommand command
    requireStoreTimestamp parseDate createdAt
    parseWorkspaceReadRouteFence route (some command.deviceId)
  Program.update fun world =>
    { world with waiting := world.waiting ++ [.prepare command route createdAt] }
  return .waits

/-- Prepare a read, behind the answer which connection is current. -/
def finishPrepare (command : DeviceFilesystemReadCommand) (route : WorkspaceReadRouteFence)
    (createdAt : JsString) (current : Option WorkspaceReadRouteFence) :
    Program Failure WorkspaceReadStore WorkspaceReadReply := do
  let store ← Program.read id
  let fingerprint ← Program.check do
    let same ← sameCurrentRoute current route command.deviceId
    rejectIf (same = false) (gatewayError "workspace_read_route_stale")
    fingerprintFor sha256 command route
  match store.records.find command.executionId with
  | some prior => do
    Program.check (rejectIf (prior.fingerprint ≠ fingerprint)
      (gatewayError "workspace_read_identity_conflict"))
    return .existing prior
  | none => do
    let kinds ← Program.check do
      let kind ← store.kinds.kind command.executionId
      rejectIf (kind ≠ none) (gatewayError "device_dispatch_kind_conflict")
      store.kinds.claim command.executionId .workspaceRead
    let record : WorkspaceReadDispatchRecord := ⟨command.executionId, fingerprint, command,
      some route, none, none, none, createdAt, createdAt⟩
    Program.update fun store =>
      { store with kinds := kinds, records := store.records.set command.executionId record }
    return .created record

/-- The record that an event is committed to. -/
def commitAuthority (store : WorkspaceReadStore) (command : DeviceFilesystemReadCommand) :
    Checked (WorkspaceReadDispatchRecord × WorkspaceReadRouteFence) := do
  let kind ← store.kinds.kind command.executionId
  match store.records.find command.executionId with
  | none => .error (gatewayError "workspace_read_authority_missing")
  | some prior =>
    match prior.route with
    | none => .error (gatewayError "workspace_read_authority_missing")
    | some priorRoute => do
      rejectIf (kind ≠ some .workspaceRead) (gatewayError "workspace_read_authority_missing")
      let fingerprint ← fingerprintFor sha256 command priorRoute
      rejectIf (prior.fingerprint ≠ fingerprint) (gatewayError "workspace_read_authority_missing")
      return (prior, priorRoute)

/-- The event that a record has under a number. -/
def WorkspaceReadDispatchRecord.eventOf (record : WorkspaceReadDispatchRecord) (sequence : Int) :
    Option DeviceFilesystemReadEvent :=
  if sequence = 1 then record.acceptedEvent else record.terminalEvent

/-- The checks of a commit of an event that the record does not have yet, but for the current
connection. -/
def commitChecks (route priorRoute : WorkspaceReadRouteFence) (event : DeviceFilesystemReadEvent)
    (prior : WorkspaceReadDispatchRecord) : Checked Unit := do
  rejectIf (event.sequence = 2 ∧ prior.acceptedEvent = none)
    (gatewayError "workspace_read_accepted_missing")
  rejectIf (event.sequence = 2 ∧ prior.acceptedEvent.map (·.receiptId) ≠ some event.receiptId)
    (gatewayError "workspace_read_event_conflict")
  let same ← sameRoute priorRoute route
  rejectIf (same = false) (gatewayError "workspace_read_route_stale")

/-- The record with an event. -/
def committedRecord (prior : WorkspaceReadDispatchRecord) (event : DeviceFilesystemReadEvent)
    (now : Option Int) : Checked WorkspaceReadDispatchRecord := do
  let updatedAt ← clockTimestamp now
  rejectIf ((event.sequence = 2 ∧ (prior.acceptedEvent.any fun accepted =>
        isEarlier event.observedAt accepted.observedAt) = true) ∨
      parsesEarlier parseDate updatedAt prior.updatedAt = true)
    (gatewayError "workspace_read_event_time_invalid")
  let terminal := if event.sequence = 2 then some event else none
  let ended ← mapPresent terminal resolution
  return { prior with
    acceptedEvent := if event.sequence = 1 then some event else prior.acceptedEvent
    terminalEvent := terminal
    resolution := ended
    updatedAt := updatedAt }

/-- Write the record with an event. -/
def writeCommit (command : DeviceFilesystemReadCommand) (event : DeviceFilesystemReadEvent)
    (prior : WorkspaceReadDispatchRecord) (now : Option Int) :
    Program Failure WorkspaceReadStore WorkspaceReadReply := do
  let committed ← Program.check (committedRecord parseDate prior event now)
  Program.update fun store =>
    { store with records := store.records.set command.executionId committed }
  return .commits (commitResult .committed committed event)

/-- Work on the store of a world. -/
def onStore (program : Program Failure WorkspaceReadStore WorkspaceReadReply) :
    Program Failure WorkspaceReadWorld WorkspaceReadReply :=
  Program.focus (fun world => world.store) (fun store world => { world with store := store })
    program

/-- Commit an event. The commit of a first event goes up to the question which connection is
current. -/
def commit (command : DeviceFilesystemReadCommand) (route : WorkspaceReadRouteFence)
    (event : DeviceFilesystemReadEvent) (now : Option Int) :
    Program Failure WorkspaceReadWorld WorkspaceReadReply := do
  let world ← Program.read id
  let authority ← Program.check do
    assertOpen world.store
    parseDeviceFilesystemReadCommand command
    parseDeviceFilesystemReadEvent sha256 event
    parseWorkspaceReadRouteFence route (some command.deviceId)
    let authority ← commitAuthority sha256 world.store command
    requireEventIdentity sha256 command event route.connectionEpoch
    return authority
  match authority.1.eventOf event.sequence with
  | some current => do
    Program.check (rejectIf (current ≠ event) (gatewayError "workspace_read_event_conflict"))
    return .commits (commitResult .replayed authority.1 event)
  | none => do
    Program.check (commitChecks route authority.2 event authority.1)
    if event.sequence = 1 then do
      Program.update fun world =>
        { world with waiting := world.waiting ++ [.commit command route event authority.1] }
      return .waits
    else onStore (writeCommit parseDate command event authority.1 now)

/-- Commit a first event, behind the answer which connection is current. The record is the one that
was read in front of the question. -/
def finishCommit (command : DeviceFilesystemReadCommand) (route : WorkspaceReadRouteFence)
    (event : DeviceFilesystemReadEvent) (prior : WorkspaceReadDispatchRecord)
    (current : Option WorkspaceReadRouteFence) (now : Option Int) :
    Program Failure WorkspaceReadStore WorkspaceReadReply := do
  Program.check do
    let same ← sameCurrentRoute current route command.deviceId
    rejectIf (same = false) (gatewayError "workspace_read_route_stale")
  writeCommit parseDate command event prior now

/-- Go on with a call that waits, behind the answer which connection is current. -/
def resume (place : Nat) (answer : Checked (Option WorkspaceReadRouteFence)) (now : Option Int) :
    Program Failure WorkspaceReadWorld WorkspaceReadReply := do
  let world ← Program.read id
  match world.waiting[place]? with
  | none => Program.abort (gatewayError "no_waiting_call")
  | some waiting => do
    Program.update fun world => { world with waiting := world.waiting.eraseIdx place }
    let current ← Program.check answer
    match waiting with
    | .prepare command route createdAt =>
      onStore (finishPrepare sha256 command route createdAt current)
    | .commit command route event prior =>
      onStore (finishCommit parseDate command route event prior current now)

/-- Load a record. -/
def load (executionId : JsString) : Program Failure WorkspaceReadStore WorkspaceReadReply := do
  let store ← Program.read id
  let kind ← Program.check do
    assertOpen store
    store.kinds.kind executionId
  if kind ≠ some .workspaceRead then return .loaded none
  else do
    let record := store.records.find executionId
    Program.check (whenPresent record (parseWorkspaceReadDispatchRecord sha256 parseDate))
    return .loaded record

/-- Take an id for another kind of command, in the authority that all stores share. -/
def claimElsewhere (executionId : JsString) (kind : DeviceExecutionCommandKind) :
    Program Failure WorkspaceReadStore WorkspaceReadReply := do
  let store ← Program.read id
  let kinds ← Program.check (store.kinds.claim executionId kind)
  Program.update fun store => { store with kinds := kinds }
  return .claimed

/-- What happens to the store, at the granularity of waiting. -/
inductive WorkspaceReadOperation where
  | prepare (command : DeviceFilesystemReadCommand) (route : WorkspaceReadRouteFence)
    (createdAt : JsString)
  | commit (command : DeviceFilesystemReadCommand) (route : WorkspaceReadRouteFence)
    (event : DeviceFilesystemReadEvent) (now : Option Int)
  | resume (place : Nat) (answer : Checked (Option WorkspaceReadRouteFence)) (now : Option Int)
  | load (executionId : JsString)
  | claim (executionId : JsString) (kind : DeviceExecutionCommandKind)

/-- Perform an operation. -/
def performRead : WorkspaceReadOperation → Program Failure WorkspaceReadWorld WorkspaceReadReply
  | .prepare command route createdAt => prepare parseDate command route createdAt
  | .commit command route event now => commit sha256 parseDate command route event now
  | .resume place answer now => resume sha256 parseDate place answer now
  | .load executionId => onStore (load sha256 parseDate executionId)
  | .claim executionId kind => onStore (claimElsewhere executionId kind)

end Digest

end Crewon.Gateway
