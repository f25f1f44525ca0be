import Crewon.Domain.Failure
import Crewon.Lib.OrderedMap
import Crewon.Lib.Turns

/-!
# The capacity of the agent runtimes

A runtime worker reserves a share of the capacity before it creates a runtime. A reservation that
does not fit asks the owners of the oldest reservations to give theirs up: the reclaimers run inside
the call and may themselves use the capacity in any way.

A turn runs from one call into the capacity, or from the end of a reclaimer, to the next call of a
reclaimer or to the answer. The reservations that wait for a reclaimer are a stack of frames, and
while the stack is not empty the turns are those of the reclaimer on top of it. The log records the
calls and answers that its users see.
-/

namespace Crewon.Worker.AgentRuntimeCapacity

open Crewon.Js Crewon.Lib Crewon.Checked Crewon.Domain

/-! ## The capacity -/

/-- What is kept for a reservation; its reclaimer is of any kind. -/
structure Entry (ρ : Type) where
  bytes : Nat
  retiring : Bool
  uncertain : Bool
  reclaim : Option ρ
deriving DecidableEq

/-- The limits that may be configured. -/
structure Limits where
  maximumOwners : Option Int
  maximumDefinitionBytes : Option Int
  maximumCreations : Option Int
deriving DecidableEq

/-- The reservations in the order of their last use, with the counters that shadow them. -/
structure Capacity (ρ : Type) where
  maximumOwners : Nat
  maximumDefinitionBytes : Nat
  maximumCreations : Nat
  entries : OrderedMap Nat (Entry ρ)
  bytes : Int
  creating : Int
  retiring : Int
  uncertain : Int
deriving DecidableEq

/-- At most so many reservations retire at a time. -/
def maximumRetiring : Nat := 4

/-- At most so many reservations are inspected by one reservation that does not fit. -/
def maximumInspected : Nat := 16

/-- A configured limit. -/
def bounded (value maximum : Int) : Checked Nat := do
  rejectIf (isSafeInteger value = false ∨ value < 1 ∨ maximum < value)
    ⟨.plain, "agent_runtime_capacity_invalid"⟩
  return value.toNat

variable {ρ ε : Type}

/-- The capacity without reservations. -/
def create (limits : Limits) : Checked (Capacity ρ) := do
  let maximumOwners ← bounded (limits.maximumOwners.getD 128) 128
  let maximumDefinitionBytes ←
    bounded (limits.maximumDefinitionBytes.getD (16 * 1024 * 1024)) (16 * 1024 * 1024)
  let maximumCreations ← bounded (limits.maximumCreations.getD 8) 8
  return {
    maximumOwners := maximumOwners
    maximumDefinitionBytes := maximumDefinitionBytes
    maximumCreations := maximumCreations
    entries := ∅
    bytes := 0
    creating := 0
    retiring := 0
    uncertain := 0 }

/-- What the capacity reports. -/
structure Snapshot where
  owners : Nat
  definitionBytes : Int
  creating : Int
  retiring : Int
  uncertain : Int
  maximumOwners : Nat
  maximumDefinitionBytes : Nat
  maximumCreations : Nat
  maximumRetiring : Nat
  maximumInspected : Nat
deriving DecidableEq

namespace Capacity

/-- The number of reservations. -/
def size (capacity : Capacity ρ) : Nat := capacity.entries.entries.length

/-- The report of the capacity. -/
def snapshot (capacity : Capacity ρ) : Snapshot where
  owners := capacity.size
  definitionBytes := capacity.bytes
  creating := capacity.creating
  retiring := capacity.retiring
  uncertain := capacity.uncertain
  maximumOwners := capacity.maximumOwners
  maximumDefinitionBytes := capacity.maximumDefinitionBytes
  maximumCreations := capacity.maximumCreations
  maximumRetiring := AgentRuntimeCapacity.maximumRetiring
  maximumInspected := AgentRuntimeCapacity.maximumInspected

/-- One more reservation fits. -/
def fits (capacity : Capacity ρ) (bytes : Nat) : Bool :=
  decide (capacity.size < capacity.maximumOwners) &&
    decide (capacity.bytes + bytes ≤ capacity.maximumDefinitionBytes)

/-- Keep a new reservation. -/
def add (capacity : Capacity ρ) (key bytes : Nat) : Capacity ρ :=
  { capacity with
    entries := capacity.entries.set key
      { bytes := bytes, retiring := false, uncertain := false, reclaim := none }
    bytes := capacity.bytes + bytes }

/-- Give the share of a reservation back, once. -/
def release (capacity : Capacity ρ) (key : Nat) : Capacity ρ :=
  match capacity.entries.find key with
  | none => capacity
  | some entry =>
    { capacity with
      entries := capacity.entries.erase key
      bytes := capacity.bytes - entry.bytes
      retiring := if entry.retiring then capacity.retiring - 1 else capacity.retiring
      uncertain := if entry.uncertain then capacity.uncertain - 1 else capacity.uncertain }

/-- Register the reclaimer of a reservation. -/
def setReclaimer (capacity : Capacity ρ) (key : Nat) (reclaim : ρ) : Capacity ρ :=
  match capacity.entries.find key with
  | none => capacity
  | some entry =>
    if entry.uncertain then capacity
    else { capacity with
      entries := capacity.entries.set key { entry with reclaim := some reclaim } }

/-- Move a reservation behind all others. -/
def rotate (capacity : Capacity ρ) (key : Nat) (entry : Entry ρ) : Capacity ρ :=
  { capacity with entries := (capacity.entries.erase key).set key entry }

/-- A real borrower has used the reservation. -/
def touch (capacity : Capacity ρ) (key : Nat) : Capacity ρ :=
  match capacity.entries.find key with
  | none => capacity
  | some entry =>
    if entry.retiring || entry.uncertain then capacity else capacity.rotate key entry

/-- Begin to retire a reservation, when one more may retire. -/
def beginRetirement (capacity : Capacity ρ) (key : Nat) : Capacity ρ × Bool :=
  match capacity.entries.find key with
  | none => (capacity, false)
  | some entry =>
    if entry.uncertain || entry.retiring || decide (maximumRetiring ≤ capacity.retiring) then
      (capacity, false)
    else
      ({ capacity with
          entries := capacity.entries.set key { entry with retiring := true }
          retiring := capacity.retiring + 1 }, true)

/-- It is uncertain whether the owner of a reservation has ended. -/
def markUncertain (capacity : Capacity ρ) (key : Nat) : Capacity ρ :=
  match capacity.entries.find key with
  | none => capacity
  | some entry =>
    if entry.uncertain then capacity
    else
      { capacity with
        entries := capacity.entries.set key { entry with uncertain := true, reclaim := none }
        uncertain := capacity.uncertain + 1 }

/-- The loop over the oldest reservations, with the inspections it still has, up to the next call
of a reclaimer: the reservation whose reclaimer is called and the inspections left behind it. -/
def reclaimIdle : Nat → Capacity ρ → Capacity ρ × Option (Nat × ρ × Nat)
  | 0, capacity => (capacity, none)
  | left + 1, capacity =>
    if capacity.retiring < maximumRetiring then
      match capacity.entries.entries with
      | [] => (capacity, none)
      | (key, entry) :: _ =>
        let rotated := capacity.rotate key entry
        match if entry.retiring || entry.uncertain then none else entry.reclaim with
        | some reclaim => (rotated, some (key, reclaim, left))
        | none => reclaimIdle left rotated
    else (capacity, none)

end Capacity

/-! ## The calls into it -/

/-- Why a reservation is refused. -/
inductive ReserveError (ε : Type) where
  /-- The bytes are no positive integer, `agent_runtime_reservation_invalid`. -/
  | invalid
  /-- It does not fit, `agent_runtime_capacity_exhausted`, to be tried again after 5000 ms. -/
  | exhausted
  /-- A reclaimer has thrown. -/
  | reclaimer (error : ε)
deriving DecidableEq

/-- What the users of the capacity see: their calls with the answers, and the reclaimers called. -/
inductive Event (ε : Type) where
  | creationBegan (handle : Nat)
  | creationRefused
  | creationReleased (handle : Nat)
  | granted (key bytes : Nat)
  | refused (error : ReserveError ε)
  | released (key : Nat)
  | reclaimerSet (key : Nat)
  | touched (key : Nat)
  | retirementAsked (key : Nat) (answer : Bool)
  | uncertainMarked (key : Nat)
  | reclaimed (key : Nat)
deriving DecidableEq

/-- A reservation that waits for a reclaimer, with the inspections it has left. -/
structure Frame where
  bytes : Nat
  left : Nat
deriving DecidableEq

/-- The capacity in use. -/
structure State (ρ ε : Type) where
  capacity : Capacity ρ
  /-- The `released` variable of every creation handle. -/
  creations : List Bool
  /-- The number of reservation handles; each has its own key. -/
  handles : Nat
  /-- The reservations that wait for a reclaimer, the innermost first. -/
  stack : List Frame
  log : List (Event ε)
deriving DecidableEq

/-- A call into the capacity, or the end of the reclaimer that runs. -/
inductive Turn (ρ ε : Type) where
  | beginCreation
  | releaseCreation (handle : Nat)
  | reserve (bytes : Int)
  | release (key : Nat)
  | setReclaimer (key : Nat) (reclaim : ρ)
  | touch (key : Nat)
  | beginRetirement (key : Nat)
  | markUncertain (key : Nat)
  | reclaimerReturns
  | reclaimerThrows (error : ε)
deriving DecidableEq

/-- The capacity before its first use. -/
def start (capacity : Capacity ρ) : State ρ ε where
  capacity := capacity
  creations := []
  handles := 0
  stack := []
  log := []

namespace State

/-- Record what the users see. -/
def saw (state : State ρ ε) (event : Event ε) : State ρ ε :=
  { state with log := state.log ++ [event] }

/-- The handle of a new reservation. -/
def grant (state : State ρ ε) (bytes : Nat) : State ρ ε :=
  { state with
    capacity := state.capacity.add state.handles bytes
    handles := state.handles + 1
    log := state.log ++ [.granted state.handles bytes] }

/-- The reservation fits, or it is refused. -/
def admitOrRefuse (state : State ρ ε) (bytes : Nat) : State ρ ε :=
  if state.capacity.fits bytes then state.grant bytes else state.saw (.refused .exhausted)

/-- Inspect the oldest reservations, and admit the reservation unless a reclaimer is called. -/
def inspect (state : State ρ ε) (bytes left : Nat) : State ρ ε :=
  match state.capacity.reclaimIdle left with
  | (capacity, some (key, _, rest)) =>
    { state with
      capacity := capacity
      stack := { bytes := bytes, left := rest } :: state.stack
      log := state.log ++ [.reclaimed key] }
  | (capacity, none) => { state with capacity := capacity }.admitOrRefuse bytes

/-- Reserve a share for a definition of so many bytes. -/
def reserve (state : State ρ ε) (bytes : Int) : State ρ ε :=
  if isSafeInteger bytes = false ∨ bytes < 1 then state.saw (.refused .invalid)
  else if state.capacity.fits bytes.toNat then state.grant bytes.toNat
  else if bytes ≤ state.capacity.maximumDefinitionBytes then
    state.inspect bytes.toNat (min maximumInspected state.capacity.size)
  else state.admitOrRefuse bytes.toNat

/-- Begin the creation of a runtime. -/
def beginCreation (state : State ρ ε) : State ρ ε :=
  if state.capacity.maximumCreations ≤ state.capacity.creating then state.saw .creationRefused
  else
    { state with
      capacity := { state.capacity with creating := state.capacity.creating + 1 }
      creations := state.creations ++ [false]
      log := state.log ++ [.creationBegan state.creations.length] }

/-- Release a creation, once. -/
def releaseCreation (state : State ρ ε) (handle : Nat) (released : Bool) : State ρ ε :=
  if released then state.saw (.creationReleased handle)
  else
    { state with
      capacity := { state.capacity with creating := state.capacity.creating - 1 }
      creations := state.creations.set handle true
      log := state.log ++ [.creationReleased handle] }

end State

/-- Take a turn: every call needs its handle, and a reclaimer ends only while one runs. -/
def perform : Turn ρ ε → State ρ ε → Option (State ρ ε)
  | .beginCreation, state => some state.beginCreation
  | .releaseCreation handle, state =>
    state.creations[handle]?.map fun released => state.releaseCreation handle released
  | .reserve bytes, state => some (state.reserve bytes)
  | .release key, state =>
    if key < state.handles then
      some ({ state with capacity := state.capacity.release key }.saw (.released key))
    else none
  | .setReclaimer key reclaim, state =>
    if key < state.handles then
      some ({ state with capacity := state.capacity.setReclaimer key reclaim }.saw
        (.reclaimerSet key))
    else none
  | .touch key, state =>
    if key < state.handles then
      some ({ state with capacity := state.capacity.touch key }.saw (.touched key))
    else none
  | .beginRetirement key, state =>
    if key < state.handles then
      let asked := state.capacity.beginRetirement key
      some ({ state with capacity := asked.1 }.saw (.retirementAsked key asked.2))
    else none
  | .markUncertain key, state =>
    if key < state.handles then
      some ({ state with capacity := state.capacity.markUncertain key }.saw (.uncertainMarked key))
    else none
  | .reclaimerReturns, state =>
    match state.stack with
    | [] => none
    | frame :: stack => some ({ state with stack := stack }.inspect frame.bytes frame.left)
  | .reclaimerThrows error, state =>
    match state.stack with
    | [] => none
    | _ :: stack => some ({ state with stack := stack }.saw (.refused (.reclaimer error)))

end Crewon.Worker.AgentRuntimeCapacity
