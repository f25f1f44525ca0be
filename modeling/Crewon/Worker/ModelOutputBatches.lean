import Crewon.Js.Json
import Crewon.Lib.Turns

/-!
# Batches of model output

The runtime worker persists the output of a model in batches. A generator reads the events of the
kernel ahead of its consumer: a background reader, the pump, fills the next batch while the
consumer persists the last one, and holds an event that cannot join the batch as a boundary.

The generator and its pump are two activities on one thread. A turn of either runs from one
suspension to the next: the consumer asks for a batch or comes back for the next one, the source
answers the pump, the pump's promise settles, the main loop is woken, or the consumer stops. The
log records what an observer of the source and of the consumer sees.
-/

namespace Crewon.Worker

open Crewon.Js

/-- At most so many events go into one batch. -/
def maxEvents : Nat := 32

/-- At most so many bytes are reserved for one batch. -/
def maxBytes : Nat := 64 * 1024

/-- An output event of the kernel. -/
structure ModelOutputDelta where
  runId : JsString
  segmentId : JsString
  sequence : Int
  delta : JsString
deriving DecidableEq

/-- The event as the host writes it. -/
def ModelOutputDelta.toJson (event : ModelOutputDelta) : JsonValue :=
  .object [("schemaVersion", .string (js "crewon.agent-event.v0")),
    ("runId", .string event.runId), ("segmentId", .string event.segmentId),
    ("sequence", .number event.sequence),
    ("type", .string (js "model.output.delta")),
    ("data", .object [("delta", .string event.delta)])]

/-- The bytes of an event, with the envelope space reserved for its durable fields. -/
def ModelOutputDelta.size (event : ModelOutputDelta) : Nat := event.toJson.encodedSize + 1024

/-- An event of the kernel: an output or any other event. -/
inductive KernelAgentEvent (ν : Type) where
  | output (event : ModelOutputDelta)
  | other (event : ν)
deriving DecidableEq

/-- What the consumer receives: outputs together, any other event alone. -/
inductive ModelOutputBatch (ν : Type) where
  | output (events : List ModelOutputDelta)
  | event (event : ν)
deriving DecidableEq

/-- What the generator throws: the failure of its source or its own. -/
inductive BatchError (ε : Type) where
  /-- The source failed. -/
  | source (error : ε)
  /-- A single event is too large, `model_output_batch_event_too_large`. -/
  | eventTooLarge
deriving DecidableEq

/-- What the pump holds until the consumer has everything in front of it. -/
inductive Boundary (ν ε : Type) where
  | event (event : ν)
  | output (event : ModelOutputDelta) (bytes : Nat)
  | error (error : BatchError ε)
  | done
deriving DecidableEq

/-- The events a source gives, how it ends and how it answers when it is told to return. -/
structure Source (ν ε : Type) where
  events : List (KernelAgentEvent ν)
  ending : Except ε Unit
  release : Except ε Unit

/-- The pump is not running, waits for the source, or has ended with its promise unsettled. -/
inductive Pump where
  | idle
  | reading
  | settling
deriving DecidableEq

/-- How the generator ended. -/
inductive Outcome (ε : Type) where
  /-- It returned. -/
  | completed
  /-- It threw. -/
  | failed (error : BatchError ε)
  /-- The consumer stopped it; a failing source is reported to the consumer then. -/
  | stopped (released : Except ε Unit)
deriving DecidableEq

/-- Where the main loop of the generator is. -/
inductive Main (ν ε : Type) where
  /-- The consumer has not asked yet. -/
  | fresh
  /-- It waits to be notified. -/
  | waiting
  /-- It has been notified and runs next. -/
  | woken
  /-- It is suspended at a yield, the batch being with the consumer. -/
  | yielded (batch : ModelOutputBatch ν)
  /-- It has ended. -/
  | ended (outcome : Outcome ε)
deriving DecidableEq

/-- What an observer of the source and of the consumer sees. -/
inductive Action (ν : Type) where
  /-- The source is asked for an event. -/
  | asked
  /-- The pump has read an event. -/
  | read (event : KernelAgentEvent ν)
  /-- A batch is yielded. -/
  | delivered (batch : ModelOutputBatch ν)
  /-- The consumer has come back from the yield of a batch. -/
  | returned (batch : ModelOutputBatch ν)
  /-- The source is told to return. -/
  | released
deriving DecidableEq

/-- The variables of the generator, the events its source still has, and the log. -/
structure Batching (ν ε : Type) where
  remaining : List (KernelAgentEvent ν)
  events : List ModelOutputDelta
  bytes : Nat
  boundary : Option (Boundary ν ε)
  pump : Pump
  main : Main ν ε
  prefetchAllowed : Bool
  lastOutputSegment : Option JsString
  closed : Bool
  sourceFinished : Bool
  log : List (Action ν)
deriving DecidableEq

variable {ν ε : Type}

/-- Only a main loop that waits takes notice of a notification. -/
def Main.notified : Main ν ε → Main ν ε
  | .waiting => .woken
  | main => main

namespace Batching

/-- The generator before its consumer asks for the first batch. -/
def start (source : Source ν ε) : Batching ν ε where
  remaining := source.events
  events := []
  bytes := 0
  boundary := none
  pump := .idle
  main := .fresh
  prefetchAllowed := true
  lastOutputSegment := none
  closed := false
  sourceFinished := false
  log := []

/-- Notify the main loop. -/
def wake (state : Batching ν ε) : Batching ν ε := { state with main := state.main.notified }

/-- The pump may ask the source for an event. -/
def canRead (state : Batching ν ε) : Bool :=
  !state.closed && state.prefetchAllowed && state.boundary.isNone &&
    decide (state.events.length < maxEvents) && decide (state.bytes < maxBytes)

/-- The loop of the pump: ask the source again, or end. -/
def pumpLoop (state : Batching ν ε) : Batching ν ε :=
  if state.canRead then { state with pump := .reading, log := state.log ++ [.asked] }
  else { state with pump := .settling }

/-- Start the pump unless it is running or may not read. -/
def startPump (state : Batching ν ε) : Batching ν ε :=
  if state.pump = .idle ∧ state.canRead = true then state.pumpLoop else state

/-- Hold a boundary and end the pump. -/
def hold (boundary : Boundary ν ε) (state : Batching ν ε) : Batching ν ε :=
  { state with boundary := some boundary, pump := .settling }.wake

/-- An event joins the batch. The first token is a persistence handoff: the producer stays paused
until the consumer commits it. -/
def push (event : ModelOutputDelta) (size : Nat) (state : Batching ν ε) : Batching ν ε :=
  { state with
    events := state.events ++ [event]
    bytes := state.bytes + size
    prefetchAllowed :=
      if state.lastOutputSegment ≠ some event.segmentId then false else state.prefetchAllowed
    }.wake.pumpLoop

/-- An output event is read: it joins the batch or becomes a boundary. -/
def receiveOutput (event : ModelOutputDelta) (state : Batching ν ε) : Batching ν ε :=
  let size := event.size
  if size > maxBytes then state.hold (.error .eventTooLarge)
  else
    match state.events with
    | [] => state.push event size
    | first :: _ =>
      if state.bytes + size > maxBytes ∨ first.segmentId ≠ event.segmentId then
        state.hold (.output event size)
      else state.push event size

/-- The source answers the pump. -/
def answer (source : Source ν ε) (state : Batching ν ε) : Batching ν ε :=
  if state.closed then { state with pump := .settling }
  else
    match state.remaining with
    | [] =>
      match source.ending with
      | .ok _ => { state with sourceFinished := true }.hold .done
      | .error error => state.hold (.error (.source error))
    | event :: remaining =>
      let state := { state with remaining := remaining, log := state.log ++ [Action.read event] }
      match event with
      | .other event => state.hold (.event event)
      | .output event => state.receiveOutput event

/-- The promise of the pump settles: its callback refills the batch. -/
def settle (state : Batching ν ε) : Batching ν ε :=
  { state with pump := .idle }.wake.startPump

/-- The generator is left: everything buffered is dropped and the source told to return. -/
def finish (source : Source ν ε) (outcome : Except ε Unit → Outcome ε) (state : Batching ν ε) :
    Batching ν ε :=
  { state with
    closed := true
    prefetchAllowed := false
    events := []
    bytes := 0
    boundary := none
    main := .ended (outcome (if state.sourceFinished then .ok () else source.release))
    log := if state.sourceFinished then state.log else state.log ++ [.released] }

/-- Yield a batch. -/
def deliver (batch : ModelOutputBatch ν) (state : Batching ν ε) : Batching ν ε :=
  { state with main := .yielded batch, log := state.log ++ [.delivered batch] }

/-- Take the batch of the first event, refill behind it and yield it. -/
def emit (first : ModelOutputDelta) (state : Batching ν ε) : Batching ν ε :=
  { state with lastOutputSegment := some first.segmentId, events := [], bytes := 0
    }.startPump.deliver (.output state.events)

/-- The main loop, from a suspension to the next. -/
def advance (source : Source ν ε) (state : Batching ν ε) : Batching ν ε :=
  let state := state.startPump
  match state.events with
  | first :: _ => state.emit first
  | [] =>
    match state.boundary with
    | none => { state with main := .waiting }
    | some (.output event bytes) =>
      -- the loop runs once more, with the held event as its batch
      let state := { state with
        boundary := none
        events := [event]
        bytes := bytes
        prefetchAllowed :=
          if state.lastOutputSegment ≠ some event.segmentId then false else state.prefetchAllowed }
      state.startPump.emit event
    | some (.event event) =>
      { state with boundary := none, prefetchAllowed := false }.deliver (.event event)
    | some (.error error) =>
      { state with boundary := none }.finish source fun _ => .failed error
    | some .done => { state with boundary := none }.finish source fun _ => .completed

end Batching

/-- The turns of the generator, its pump and its consumer. -/
inductive Turn where
  /-- The consumer asks for the first batch. -/
  | next
  /-- The source answers. -/
  | answer
  /-- The promise of the pump settles. -/
  | settle
  /-- The notified main loop runs. -/
  | resume
  /-- The consumer comes back for the next batch. -/
  | back
  /-- The consumer stops. -/
  | stop
deriving DecidableEq

/-- One turn, where it is possible. -/
def batchModelOutputEvents (source : Source ν ε) (turn : Turn) (state : Batching ν ε) :
    Option (Batching ν ε) :=
  match turn, state.main, state.pump with
  | .next, .fresh, _ => some (state.advance source)
  | .answer, _, .reading => some (state.answer source)
  | .settle, _, .settling => some state.settle
  | .resume, .woken, _ => some (state.advance source)
  | .back, .yielded batch, _ =>
    some ({ state with
      prefetchAllowed := true, log := state.log ++ [Action.returned batch] }.advance source)
  | .stop, .fresh, _ => some { state with main := .ended (.stopped (.ok ())) }
  | .stop, .yielded _, _ => some (state.finish source .stopped)
  | _, _, _ => none

/-- The generator after the turns, where they were possible. -/
def runBatching (source : Source ν ε) (turns : List Turn) : Option (Batching ν ε) :=
  Lib.runTurns (batchModelOutputEvents source) (.start source) turns

end Crewon.Worker
