import Crewon.Domain.Failure
import Crewon.Lib.OrderedMap
import Crewon.Lib.Program

/-!
# The queue of the in-memory store

Work items and outbox messages wait in a queue of records. A worker claims a record under a
lease with an epoch, and renews, settles or returns it by presenting that lease; a commit may
enqueue records, settle one by force, or wake one because its run is being canceled.
-/

namespace Crewon.Store

open Crewon.Js Crewon.Checked Crewon.Domain Crewon.Lib

/-- Where a record stands. -/
inductive QueueStatus where
  | pending
  | leased
  | settled
deriving DecidableEq

/-- One record of a queue. -/
structure QueueRecord (α : Type) where
  item : α
  status : QueueStatus
  availableAtMs : Int
  leaseOwnerId : Option JsString
  leaseId : Option JsString
  leaseEpoch : Int
  leaseExpiresAtMs : Option Int
  cancellationWakeRequested : Bool
deriving DecidableEq

/-- The records by the id of their item. -/
abbrev Queue (α : Type) := OrderedMap JsString (QueueRecord α)

/-- A request for the next record. -/
structure QueueClaimInput where
  ownerId : JsString
  leaseId : JsString
  leaseDurationMs : Int
deriving DecidableEq

/-- The lease a worker presents. -/
structure QueueLeaseInput where
  ownerId : JsString
  leaseId : JsString
  leaseEpoch : Int
deriving DecidableEq

/-- The lease on a work item. -/
structure WorkItemLeaseInput where
  workItemId : JsString
  lease : QueueLeaseInput
deriving DecidableEq

/-- The lease a worker receives. -/
structure QueueLease where
  ownerId : JsString
  leaseId : JsString
  epoch : Int
  expiresAt : JsString
deriving DecidableEq

/-- The order in which records are offered to a claim. -/
inductive QueueOrder where
  | insertion
  | oldestReady
deriving DecidableEq

/-- A rejection of the store. -/
def runStoreError (code : String) : Failure := ⟨.store, code⟩

/-- The reading of the clock, rejected when it is no safe non-negative integer. -/
def readLeaseClock (reading : Int) : Checked Int :=
  if isNonNegativeInteger reading then .ok reading else .error (runStoreError "lease_clock_invalid")

/-- The instant a lease expires, in milliseconds and as a text. -/
def leaseExpiry (now durationMs : Int) : Checked (Int × JsString) :=
  let expiresAtMs := now + durationMs
  if isSafeInteger expiresAtMs then
    match toIsoString expiresAtMs with
    | some expiresAt => .ok (expiresAtMs, expiresAt)
    | none => .error (runStoreError "lease_expiry_invalid")
  else .error (runStoreError "lease_expiry_invalid")

section Parsing

-- the host's reading of a date text in any format
variable (parse : JsString → Option Int)

/-- The instant a record becomes available; the text has to end in `Z`. -/
def parseQueueTimestamp (value : JsString) (code : String) : Checked Int :=
  match parse value with
  | none => .error (runStoreError code)
  | some timestamp =>
    if value.units.getLast? = some (unit 'Z') then .ok timestamp
    else .error (runStoreError code)

/-- A new record. -/
def queueRecord {α : Type} (item : α) (createdAt : JsString) : Checked (QueueRecord α) := do
  let availableAtMs ← parseQueueTimestamp parse createdAt "queue_created_at_invalid"
  return {
    item := item
    status := .pending
    availableAtMs := availableAtMs
    leaseOwnerId := none
    leaseId := none
    leaseEpoch := 0
    leaseExpiresAtMs := none
    cancellationWakeRequested := false }

end Parsing

/-- The checks of a claim. -/
def validateQueueClaim (input : QueueClaimInput) : Checked Unit := do
  requireBoundedNonEmpty input.ownerId 256 (runStoreError "lease_owner_id_invalid")
  requireBoundedNonEmpty input.leaseId 256 (runStoreError "lease_id_invalid")
  rejectIf (isPositiveInteger input.leaseDurationMs = false ∨ 300000 < input.leaseDurationMs)
    (runStoreError "lease_duration_invalid")

/-- The checks of a presented lease. -/
def validateQueueLease (input : QueueLeaseInput) (itemId : JsString) (itemIdCode : String) :
    Checked Unit := do
  requireNonEmpty itemId (runStoreError itemIdCode)
  requireBoundedNonEmpty input.ownerId 256 (runStoreError "lease_owner_id_invalid")
  requireBoundedNonEmpty input.leaseId 256 (runStoreError "lease_id_invalid")
  requirePositiveInteger input.leaseEpoch (runStoreError "lease_epoch_invalid")

/-- The checks of a request to return a record. -/
def validateQueueRetry (retryAfterMs : Int) (reasonCode : JsString) : Checked Unit := do
  rejectIf (isNonNegativeInteger retryAfterMs = false ∨ 86400000 < retryAfterMs)
    (runStoreError "queue_retry_delay_invalid")
  requireBoundedNonEmpty reasonCode 256 (runStoreError "queue_retry_reason_invalid")

section Records

variable {α : Type}

/-- A claim may take the record at this instant. -/
def isClaimable (record : QueueRecord α) (now : Int) : Bool :=
  (record.status = .pending && record.availableAtMs ≤ now) ||
    (record.status = .leased && record.leaseExpiresAtMs.any (· ≤ now))

/-- The instant from which a claimable record has been waiting. -/
def readyAt (record : QueueRecord α) : Int :=
  if record.status = .pending then record.availableAtMs else record.leaseExpiresAtMs.getD 0

/-- The place behind all selected records that are ready no later, by binary search. -/
def insertionPoint (selected : List (JsString × QueueRecord α)) (record : QueueRecord α)
    (low high : Nat) : Nat :=
  if low < high then
    let middle := (low + high) / 2
    if selected[middle]?.all fun entry => readyAt entry.2 ≤ readyAt record then
      insertionPoint selected record (middle + 1) high
    else insertionPoint selected record low middle
  else low
termination_by high - low
decreasing_by all_goals omega

/-- Place a record among the selected ones and keep at most the limit. -/
def selectReady (now : Int) (limit : Nat) (selected : List (JsString × QueueRecord α))
    (entry : JsString × QueueRecord α) : List (JsString × QueueRecord α) :=
  if isClaimable entry.2 now then
    let low := insertionPoint selected entry.2 0 selected.length
    if limit ≤ low then selected else (selected.insertIdx low entry).take limit
  else selected

/-- The claimable records that have waited longest, in the order of waiting. -/
def oldestReady (records : Queue α) (now : Int) (limit : Nat) :
    List (JsString × QueueRecord α) :=
  records.entries.foldl (selectReady now limit) []

/-- The record a claim takes. -/
def nextClaimable (records : Queue α) (now : Int) (order : QueueOrder) :
    Option (JsString × QueueRecord α) :=
  let offered := match order with
    | .oldestReady => oldestReady records now 1
    | .insertion => records.entries
  offered.find? fun entry => isClaimable entry.2 now

/-- The record under a new lease. -/
def leasedRecord (record : QueueRecord α) (input : QueueClaimInput) (expiresAtMs : Int) :
    QueueRecord α :=
  { record with
    status := .leased
    leaseOwnerId := some input.ownerId
    leaseId := some input.leaseId
    leaseEpoch := record.leaseEpoch + 1
    leaseExpiresAtMs := some expiresAtMs
    cancellationWakeRequested := false }

/-- The record without a lease. -/
def clearLease (record : QueueRecord α) : QueueRecord α :=
  { record with leaseOwnerId := none, leaseId := none, leaseExpiresAtMs := none }

/-- The settled record. -/
def settledRecord (record : QueueRecord α) : QueueRecord α :=
  clearLease { record with status := .settled }

/-- The record returned to the queue. -/
def returnedRecord (record : QueueRecord α) (availableAtMs : Int) : QueueRecord α :=
  clearLease { record with
    status := .pending
    availableAtMs := availableAtMs
    cancellationWakeRequested := false }

/-- The lease a worker presents has to be the one the record is under. -/
def validateClaimedLease (record : QueueRecord α) (input : QueueLeaseInput) (now : Int) :
    Checked Unit := do
  rejectIf (record.status = .settled) (runStoreError "queue_item_already_settled")
  rejectIf (record.status ≠ .leased ∨ record.leaseOwnerId.getD .empty ≠ input.ownerId ∨
      record.leaseId.getD .empty ≠ input.leaseId ∨ record.leaseEpoch ≠ input.leaseEpoch)
    (runStoreError "stale_lease")
  rejectIf (record.leaseExpiresAtMs.getD 0 ≤ now) (runStoreError "lease_expired")

/-- The record of an item. -/
def requiredQueueRecord (records : Queue α) (itemId : JsString) : Checked (QueueRecord α) :=
  match records.find itemId with
  | none => .error (runStoreError "queue_item_not_found")
  | some record => .ok record

/-- A program over a queue. -/
abbrev QueueProgram (α β : Type) := Program Failure (Queue α) β

/-- Take the next record under a new lease. -/
def claimNext (input : QueueClaimInput) (now : Int) (order : QueueOrder) :
    QueueProgram α (Option (JsString × α × QueueLease)) := do
  let records ← Program.read id
  match nextClaimable records now order with
  | none => pure none
  | some (itemId, record) => do
    let (expiresAtMs, expiresAt) ← Program.check (leaseExpiry now input.leaseDurationMs)
    Program.update (·.set itemId (leasedRecord record input expiresAtMs))
    pure (some (itemId, record.item,
      ⟨input.ownerId, input.leaseId, record.leaseEpoch + 1, expiresAt⟩))

/-- Settle a record under its lease. -/
def settle (itemId : JsString) (input : QueueLeaseInput) (now : Int) : QueueProgram α Unit := do
  let records ← Program.read id
  let record ← Program.check (requiredQueueRecord records itemId)
  Program.check (validateClaimedLease record input now)
  Program.update (·.set itemId (settledRecord record))

/-- Settle a record without a lease. -/
def forceSettle (itemId : JsString) : QueueProgram α Unit := do
  let records ← Program.read id
  let record ← Program.check (requiredQueueRecord records itemId)
  Program.check (rejectIf (record.status = .settled) (runStoreError "queue_item_already_settled"))
  Program.update (·.set itemId (settledRecord record))

/-- Return a record to the queue, at once when a cancellation waits for it. -/
def retry (itemId : JsString) (input : QueueLeaseInput) (retryAfterMs now : Int) :
    QueueProgram α Unit := do
  let records ← Program.read id
  let record ← Program.check (requiredQueueRecord records itemId)
  Program.check (validateClaimedLease record input now)
  let availableAtMs := now + retryAfterMs
  Program.check (rejectIf (isSafeInteger availableAtMs = false)
    (runStoreError "queue_retry_delay_invalid"))
  Program.update (·.set itemId (returnedRecord record
    (if record.cancellationWakeRequested then now else availableAtMs)))

/-- Take the next record, as the store offers it. -/
def claimNextItem (input : QueueClaimInput) (order : QueueOrder) (reading : Int) :
    QueueProgram α (Option (JsString × α × QueueLease)) := do
  Program.check (validateQueueClaim input)
  let now ← Program.check (readLeaseClock reading)
  claimNext input now order

/-- Extend the lease of a record. -/
def renewLease (itemId : JsString) (input : QueueLeaseInput) (leaseDurationMs reading : Int) :
    QueueProgram α QueueLease := do
  Program.check (validateQueueClaim ⟨input.ownerId, input.leaseId, leaseDurationMs⟩)
  Program.check (validateQueueLease input itemId "work_item_id_invalid")
  let now ← Program.check (readLeaseClock reading)
  let records ← Program.read id
  let record ← Program.check (requiredQueueRecord records itemId)
  Program.check (validateClaimedLease record input now)
  let (expiresAtMs, expiresAt) ← Program.check (leaseExpiry now leaseDurationMs)
  Program.update (·.set itemId { record with leaseExpiresAtMs := some expiresAtMs })
  pure ⟨input.ownerId, input.leaseId, input.leaseEpoch, expiresAt⟩

/-- Settle a record, as the store offers it. -/
def completeItem (itemId : JsString) (input : QueueLeaseInput) (reading : Int) :
    QueueProgram α Unit := do
  Program.check (validateQueueLease input itemId "work_item_id_invalid")
  let now ← Program.check (readLeaseClock reading)
  settle itemId input now

/-- Return a record to the queue, as the store offers it. -/
def retryItem (itemId : JsString) (input : QueueLeaseInput) (retryAfterMs : Int)
    (reasonCode : JsString) (reading : Int) : QueueProgram α Unit := do
  Program.check (validateQueueLease input itemId "work_item_id_invalid")
  Program.check (validateQueueRetry retryAfterMs reasonCode)
  let now ← Program.check (readLeaseClock reading)
  retry itemId input retryAfterMs now

/-- Add a record for an item that has none, as commits do. -/
def enqueue (parse : JsString → Option Int) (itemId : JsString) (item : α)
    (createdAt : JsString) : QueueProgram α Unit := do
  let records ← Program.read id
  Program.check (rejectIf (records.find itemId ≠ none) (runStoreError "work_item_conflict"))
  let record ← Program.check (queueRecord parse item createdAt)
  Program.update (·.set itemId record)

/-- Make an unsettled record available at once because its run is being canceled. -/
def cancellationWake (itemId : JsString) (reading : Int) : QueueProgram α Unit := do
  let records ← Program.read id
  match (records.find itemId).filter (·.status ≠ .settled) with
  | none => pure ()
  | some record => do
    let now ← Program.check (readLeaseClock reading)
    Program.update (·.set itemId { record with
      availableAtMs := min record.availableAtMs now
      cancellationWakeRequested := true })

end Records

end Crewon.Store
