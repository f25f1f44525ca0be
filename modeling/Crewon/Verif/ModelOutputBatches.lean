import Crewon.Worker.ModelOutputBatches
import Mathlib.Logic.Relation

/-!
# Batches of model output: what a run does

Every turn of the generator and its pump is a sequence of small moves of the buffered events: the
source is asked, an event is read into the batch or held behind it, the batch leaves the buffer,
it is yielded, and the consumer comes back. What every move preserves holds of every run, whatever
the order of the turns: the batches are a prefix of the source, bounded and of one segment each,
nothing is lost at the end, and the generator never waits without a turn that brings it on.
-/

namespace Crewon.Verif.ModelOutputBatches

open Crewon.Js
open Crewon.Worker
open Crewon.Worker.Batching

variable {ν ε : Type}

/-- The events of a batch. -/
def eventsOf : ModelOutputBatch ν → List (KernelAgentEvent ν)
  | .output events => events.map .output
  | .event event => [.other event]

/-- What one action shows of the events the pump reads. -/
def readBy : Action ν → List (KernelAgentEvent ν)
  | .read event => [event]
  | _ => []

/-- What one action shows of the events that are yielded. -/
def deliveredBy : Action ν → List (KernelAgentEvent ν)
  | .delivered batch => eventsOf batch
  | _ => []

/-- What one action shows of the events the consumer is done with. -/
def returnedBy : Action ν → List (KernelAgentEvent ν)
  | .returned batch => eventsOf batch
  | _ => []

/-- The events the pump has read. -/
def readOf (log : List (Action ν)) : List (KernelAgentEvent ν) := log.flatMap readBy

/-- The events that have been yielded: the batches, flattened. -/
def deliveredOf (log : List (Action ν)) : List (KernelAgentEvent ν) := log.flatMap deliveredBy

/-- The events from whose yield the consumer has come back. -/
def returnedOf (log : List (Action ν)) : List (KernelAgentEvent ν) := log.flatMap returnedBy

@[simp] theorem readOf_concat (log : List (Action ν)) (action : Action ν) :
    readOf (log ++ [action]) = readOf log ++ readBy action := by
  simp [readOf]

@[simp] theorem deliveredOf_concat (log : List (Action ν)) (action : Action ν) :
    deliveredOf (log ++ [action]) = deliveredOf log ++ deliveredBy action := by
  simp [deliveredOf]

@[simp] theorem returnedOf_concat (log : List (Action ν)) (action : Action ν) :
    returnedOf (log ++ [action]) = returnedOf log ++ returnedBy action := by
  simp [returnedOf]

/-- The batch between the buffer and the return of the consumer. -/
inductive Passing (ν : Type) where
  /-- There is none. -/
  | nothing
  /-- It has left the buffer. -/
  | taken (batch : ModelOutputBatch ν)
  /-- It has been yielded. -/
  | delivered (batch : ModelOutputBatch ν)

/-- The events of the batch on its way. -/
def Passing.events : Passing ν → List (KernelAgentEvent ν)
  | .nothing => []
  | .taken batch | .delivered batch => eventsOf batch

/-- The events of the batch on its way that have been yielded. -/
def Passing.shown : Passing ν → List (KernelAgentEvent ν)
  | .delivered batch => eventsOf batch
  | _ => []

/-- The batch on its way while the generator is suspended. -/
def passing (state : Batching ν ε) : Passing ν :=
  match state.main with
  | .yielded batch => .delivered batch
  | _ => .nothing

/-- The small moves that the turns are made of. -/
inductive Move (source : Source ν ε) :
    Batching ν ε × Passing ν → Batching ν ε × Passing ν → Prop where
  /-- The source is asked. -/
  | ask {state : Batching ν ε} {away : Passing ν} (may : state.canRead = true) :
    Move source (state, away)
      ({ state with pump := .reading, log := state.log ++ [.asked] }, away)
  /-- The pump ends. -/
  | pause {state : Batching ν ε} {away : Passing ν} :
    Move source (state, away) ({ state with pump := .settling }, away)
  /-- The promise of the pump settles. -/
  | settle {state : Batching ν ε} {away : Passing ν} :
    Move source (state, away)
      ({ state with pump := .idle, main := state.main.notified }, away)
  /-- The source is at its end. -/
  | finished {state : Batching ν ε} {away : Passing ν} (reading : state.pump = .reading)
      (exhausted : state.remaining = []) (ending : source.ending = .ok ()) :
    Move source (state, away)
      ({ state with sourceFinished := true, boundary := some .done, pump := .settling,
                    main := state.main.notified }, away)
  /-- The source fails. -/
  | failed {state : Batching ν ε} {away : Passing ν} {error : ε}
      (reading : state.pump = .reading) (exhausted : state.remaining = [])
      (ending : source.ending = .error error) :
    Move source (state, away)
      ({ state with boundary := some (.error (.source error)), pump := .settling,
                    main := state.main.notified }, away)
  /-- An output that is too large is read. -/
  | refuse {state : Batching ν ε} {away : Passing ν} {event : ModelOutputDelta}
      {remaining : List (KernelAgentEvent ν)} (reading : state.pump = .reading)
      (next : state.remaining = .output event :: remaining) (large : maxBytes < event.size) :
    Move source (state, away)
      ({ state with remaining := remaining, log := state.log ++ [.read (.output event)],
                    boundary := some (.error .eventTooLarge), pump := .settling,
                    main := state.main.notified }, away)
  /-- An event that is no output is read. -/
  | holdEvent {state : Batching ν ε} {away : Passing ν} {event : ν}
      {remaining : List (KernelAgentEvent ν)} (reading : state.pump = .reading)
      (next : state.remaining = .other event :: remaining) :
    Move source (state, away)
      ({ state with remaining := remaining, log := state.log ++ [.read (.other event)],
                    boundary := some (.event event), pump := .settling,
                    main := state.main.notified }, away)
  /-- An output is read that cannot join the batch. -/
  | holdOutput {state : Batching ν ε} {away : Passing ν} {event : ModelOutputDelta}
      {remaining : List (KernelAgentEvent ν)} (reading : state.pump = .reading)
      (next : state.remaining = .output event :: remaining) (small : event.size ≤ maxBytes)
      (behind : state.events ≠ []) :
    Move source (state, away)
      ({ state with remaining := remaining, log := state.log ++ [.read (.output event)],
                    boundary := some (.output event event.size), pump := .settling,
                    main := state.main.notified }, away)
  /-- An output is read and joins the batch. -/
  | push {state : Batching ν ε} {away : Passing ν} {event : ModelOutputDelta}
      {remaining : List (KernelAgentEvent ν)} (reading : state.pump = .reading)
      (next : state.remaining = .output event :: remaining) (small : event.size ≤ maxBytes)
      (joins : ∀ first ∈ state.events.head?,
        state.bytes + event.size ≤ maxBytes ∧ first.segmentId = event.segmentId) :
    Move source (state, away)
      ({ state with
          remaining := remaining, log := state.log ++ [.read (.output event)],
          events := state.events ++ [event], bytes := state.bytes + event.size,
          prefetchAllowed :=
            if state.lastOutputSegment ≠ some event.segmentId then false
            else state.prefetchAllowed
          pump := .settling, main := state.main.notified }, away)
  /-- The main loop finds nothing and waits. -/
  | wait {state : Batching ν ε} (started : state.pump = .idle → state.canRead = false)
      (empty : state.events = []) (unbounded : state.boundary = none) :
    Move source (state, .nothing) ({ state with main := .waiting }, .nothing)
  /-- The batch leaves the buffer. -/
  | take {state : Batching ν ε} {first : ModelOutputDelta} {rest : List ModelOutputDelta}
      (filled : state.events = first :: rest) :
    Move source (state, .nothing)
      ({ state with lastOutputSegment := some first.segmentId, events := [], bytes := 0 },
        .taken (.output state.events))
  /-- The held output becomes the batch. -/
  | unhold {state : Batching ν ε} {event : ModelOutputDelta} {bytes : Nat}
      (held : state.boundary = some (.output event bytes)) (empty : state.events = []) :
    Move source (state, .nothing)
      ({ state with
          boundary := none, events := [event], bytes := bytes,
          prefetchAllowed :=
            if state.lastOutputSegment ≠ some event.segmentId then false
            else state.prefetchAllowed }, .nothing)
  /-- The held event leaves the buffer. -/
  | hand {state : Batching ν ε} {event : ν} (held : state.boundary = some (.event event))
      (empty : state.events = []) :
    Move source (state, .nothing)
      ({ state with boundary := none, prefetchAllowed := false }, .taken (.event event))
  /-- The batch is yielded. -/
  | deliver {state : Batching ν ε} {batch : ModelOutputBatch ν} :
    Move source (state, .taken batch)
      ({ state with main := .yielded batch, log := state.log ++ [.delivered batch] },
        .delivered batch)
  /-- The consumer comes back. -/
  | back {state : Batching ν ε} {batch : ModelOutputBatch ν} :
    Move source (state, .delivered batch)
      ({ state with prefetchAllowed := true, log := state.log ++ [.returned batch] }, .nothing)

/-- Moves one after the other. -/
abbrev Moves (source : Source ν ε) := Relation.ReflTransGen (Move source)

/-- The generator ends. -/
inductive Ends (source : Source ν ε) : Batching ν ε × Passing ν → Batching ν ε → Prop where
  /-- It throws the error it holds. -/
  | threw {state : Batching ν ε} {error : BatchError ε}
      (held : state.boundary = some (.error error)) (empty : state.events = []) :
    Ends source (state, .nothing) (state.finish source fun _ => .failed error)
  /-- It returns. -/
  | completed {state : Batching ν ε} (held : state.boundary = some .done)
      (empty : state.events = []) :
    Ends source (state, .nothing) (state.finish source fun _ => .completed)
  /-- Its consumer stops it at a yield. -/
  | stopped {state : Batching ν ε} {batch : ModelOutputBatch ν} :
    Ends source (state, .delivered batch) (state.finish source .stopped)
  /-- Its consumer stops it before it runs. -/
  | unstarted {state : Batching ν ε} (idle : state.pump = .idle) :
    Ends source (state, .nothing) { state with main := .ended (.stopped (.ok ())) }

/-- What the moves lead to: the state at the next suspension or the end of the generator. -/
def Leads (source : Source ν ε) (scene : Batching ν ε × Passing ν) (next : Batching ν ε) : Prop :=
  Moves source scene (next, passing next) ∨ ∃ last, Moves source scene last ∧ Ends source last next

/-- Moves in front of what leads to a state. -/
theorem Leads.behind {source : Source ν ε} {scene middle : Batching ν ε × Passing ν}
    {next : Batching ν ε} (first : Moves source scene middle) (later : Leads source middle next) :
    Leads source scene next := by
  rcases later with reached | ⟨last, reached, ended⟩
  · exact .inl (first.trans reached)
  · exact .inr ⟨last, first.trans reached, ended⟩

/-- The loop of the pump is one move. -/
theorem pumpLoop_moves (source : Source ν ε) (state : Batching ν ε) (away : Passing ν) :
    Moves source (state, away) (state.pumpLoop, away) := by
  unfold pumpLoop
  split_ifs with may
  · exact .single (.ask may)
  · exact .single .pause

/-- Starting the pump is one move or none. -/
theorem startPump_moves (source : Source ν ε) (state : Batching ν ε) (away : Passing ν) :
    Moves source (state, away) (state.startPump, away) := by
  unfold startPump
  split_ifs
  · exact pumpLoop_moves source state away
  · exact .refl

/-- A started pump that is not running may not read. -/
theorem startPump_started (state : Batching ν ε) (idle : state.startPump.pump = .idle) :
    state.startPump.canRead = false := by
  unfold startPump at idle ⊢
  split_ifs at idle ⊢ with may
  · simp [pumpLoop, may.2] at idle
  · simpa [idle] using may

@[simp] theorem startPump_events (state : Batching ν ε) :
    state.startPump.events = state.events := by
  unfold startPump pumpLoop
  split_ifs <;> rfl

@[simp] theorem pumpLoop_main (state : Batching ν ε) : state.pumpLoop.main = state.main := by
  unfold pumpLoop
  split_ifs <;> rfl

@[simp] theorem startPump_main (state : Batching ν ε) : state.startPump.main = state.main := by
  unfold startPump
  split_ifs
  · exact pumpLoop_main state
  · rfl

/-- A notification does not touch the batch with the consumer. -/
theorem passing_wake (state : Batching ν ε) : passing state.wake = passing state := by
  unfold passing wake
  cases state.main <;> rfl

/-- Taking a batch that is ready leads to its yield. -/
theorem emit_leads (source : Source ν ε) (state : Batching ν ε) {first : ModelOutputDelta}
    {rest : List ModelOutputDelta} (filled : state.events = first :: rest) :
    Leads source (state, .nothing) (state.emit first) := by
  refine .inl (.head (.take filled) ?_)
  exact (startPump_moves source _ _).tail .deliver

/-- The main loop leads to its next suspension. -/
theorem advance_leads (source : Source ν ε) (state : Batching ν ε) :
    Leads source (state, .nothing) (state.advance source) := by
  refine .behind (startPump_moves source state .nothing) ?_
  have started := startPump_started state
  unfold advance
  dsimp only
  generalize state.startPump = current at started ⊢
  split
  case h_1 first rest filled => exact emit_leads source current filled
  case h_2 empty =>
    split
    case h_1 unbounded => exact .inl (.single (.wait started empty unbounded))
    case h_2 event bytes held =>
      refine .behind (.single (.unhold held empty)) ?_
      refine .behind (startPump_moves source _ .nothing) ?_
      -- starting the pump leaves the batch as it is
      exact emit_leads source _ (startPump_events _)
    case h_3 event held => exact .inl (.head (.hand held empty) (.single .deliver))
    case h_4 error held => exact .inr ⟨_, .refl, .threw held empty⟩
    case h_5 held => exact .inr ⟨_, .refl, .completed held empty⟩

/-- Reading an output is a move, and perhaps another question to the source. -/
theorem push_moves (source : Source ν ε) (state : Batching ν ε) (away : Passing ν)
    {event : ModelOutputDelta} {remaining : List (KernelAgentEvent ν)}
    (reading : state.pump = .reading) (next : state.remaining = .output event :: remaining)
    (small : event.size ≤ maxBytes)
    (joins : ∀ first ∈ state.events.head?,
      state.bytes + event.size ≤ maxBytes ∧ first.segmentId = event.segmentId) :
    Moves source (state, away)
      ({ state with
          remaining := remaining, log := state.log ++ [Action.read (.output event)]
          }.push event event.size, away) := by
  refine .head (.push reading next small joins) ?_
  exact pumpLoop_moves source _ away

/-- An answer of the source is a move, and perhaps another question to it. -/
theorem answer_moves (source : Source ν ε) (state : Batching ν ε) (away : Passing ν)
    (opened : state.closed = false) (reading : state.pump = .reading) :
    Moves source (state, away) (state.answer source, away) := by
  unfold answer
  rw [if_neg (by simp [opened])]
  split
  case h_1 exhausted =>
    split
    case h_1 ending => exact .single (.finished reading exhausted ending)
    case h_2 error ending => exact .single (.failed reading exhausted ending)
  case h_2 event remaining next =>
    dsimp only
    split
    case h_1 event => exact .single (.holdEvent reading next)
    case h_2 event =>
      unfold receiveOutput
      dsimp only
      split_ifs with large
      · exact .single (.refuse reading next large)
      · have small : event.size ≤ maxBytes := Nat.le_of_not_lt large
        split
        case h_1 empty =>
          refine push_moves source state away reading next small ?_
          simp [empty]
        case h_2 first rest filled =>
          split_ifs with apart
          · exact .single (.holdOutput reading next small (by simp [filled]))
          · refine push_moves source state away reading next small ?_
            intro other head
            obtain rfl : first = other := by simpa [filled] using head
            simpa using apart

/-- The main loop takes at most notice of an answer. -/
theorem answer_main (source : Source ν ε) (state : Batching ν ε) :
    (state.answer source).main = state.main ∨ (state.answer source).main = state.main.notified := by
  have pushed (event : ModelOutputDelta) (size : Nat) (other : Batching ν ε) :
      (other.push event size).main = other.main.notified := by
    unfold Batching.push
    rw [pumpLoop_main]
    rfl
  unfold answer
  split_ifs
  · exact .inl rfl
  · refine .inr ?_
    split
    · split <;> rfl
    · dsimp only
      split
      · rfl
      · unfold receiveOutput
        dsimp only
        split
        · rfl
        · split
          · exact pushed _ _ _
          · split
            · rfl
            · exact pushed _ _ _

/-- An answer does not touch the batch with the consumer. -/
theorem passing_answer (source : Source ν ε) (state : Batching ν ε) :
    passing (state.answer source) = passing state := by
  unfold passing
  rcases answer_main source state with same | same <;> rw [same]
  cases state.main <;> rfl

/-- A turn of a generator that has not ended leads to the state it leaves. -/
theorem turn_leads {source : Source ν ε} {turn : Turn} {state next : Batching ν ε}
    (opened : state.closed = false) (fresh : state.main = .fresh → state.pump = .idle)
    (taken : batchModelOutputEvents source turn state = some next) :
    Leads source (state, passing state) next := by
  unfold batchModelOutputEvents at taken
  split at taken
  case h_1 started =>
    obtain rfl := Option.some.inj taken
    have nothing : passing state = .nothing := by rw [passing, started]
    exact nothing ▸ advance_leads source state
  case h_2 reading =>
    obtain rfl := Option.some.inj taken
    exact .inl (passing_answer source state ▸ answer_moves source state _ opened reading)
  case h_3 =>
    obtain rfl := Option.some.inj taken
    have same : passing state.settle = passing state := by
      rw [← passing_wake state, passing, settle, startPump_main]
      rfl
    refine .inl (same ▸ .head .settle ?_)
    exact startPump_moves source _ _
  case h_4 woken =>
    obtain rfl := Option.some.inj taken
    have nothing : passing state = .nothing := by rw [passing, woken]
    exact nothing ▸ advance_leads source state
  case h_5 batch yielded =>
    obtain rfl := Option.some.inj taken
    have delivered : passing state = .delivered batch := by rw [passing, yielded]
    exact delivered ▸ .behind (.single .back) (advance_leads source _)
  case h_6 unstarted =>
    obtain rfl := Option.some.inj taken
    have nothing : passing state = .nothing := by rw [passing, unstarted]
    exact nothing ▸ .inr ⟨_, .refl, .unstarted (fresh unstarted)⟩
  case h_7 batch yielded =>
    obtain rfl := Option.some.inj taken
    have delivered : passing state = .delivered batch := by rw [passing, yielded]
    exact delivered ▸ .inr ⟨_, .refl, .stopped⟩
  case h_8 => cases taken

/-- The permissions of the pump and of the main loop agree. -/
structure Controlled (state : Batching ν ε) (away : Passing ν) : Prop where
  opened : state.closed = false
  /-- The pump reads only while it may. -/
  reading : state.pump = .reading → state.canRead = true
  /-- With nothing buffered and nothing on its way, reading ahead is allowed. -/
  allowed : away = .nothing → state.events = [] → state.boundary = none →
    state.prefetchAllowed = true
  /-- Nothing buffered takes no room. -/
  bytes : state.events = [] → state.bytes = 0
  /-- While the main loop waits, the pump runs. -/
  asking : state.main = .waiting → state.pump ≠ .idle
  /-- The main loop has not ended. -/
  running : ∀ outcome, state.main ≠ .ended outcome

/-- What the pump needs in order to read. -/
theorem canRead_iff {state : Batching ν ε} :
    state.canRead = true ↔ state.closed = false ∧ state.prefetchAllowed = true ∧
      state.boundary = none ∧ state.events.length < maxEvents ∧ state.bytes < maxBytes := by
  simp [canRead, and_assoc]

/-- A notified main loop does not wait. -/
theorem notified_ne_waiting (main : Main ν ε) : main.notified ≠ .waiting := by
  cases main <;> simp [Main.notified]

/-- A notification ends nothing. -/
theorem notified_running {main : Main ν ε} (running : ∀ outcome, main ≠ .ended outcome) :
    ∀ outcome, main.notified ≠ .ended outcome := by
  cases main with
  | ended outcome => exact absurd rfl (running outcome)
  | _ => exact nofun

/-- Every move keeps the permissions in agreement. -/
theorem Controlled.move {source : Source ν ε} {state next : Batching ν ε} {away later : Passing ν}
    (held : Controlled state away) (move : Move source (state, away) (next, later)) :
    Controlled next later := by
  cases move with
  | ask may => exact { held with reading := fun _ => may, asking := nofun }
  | pause => exact { held with reading := nofun, asking := nofun }
  | settle =>
    exact { held with
      reading := nofun
      asking := fun waiting => absurd waiting (notified_ne_waiting _)
      running := notified_running held.running }
  | finished | failed | refuse | holdEvent | holdOutput =>
    exact { held with
      reading := nofun
      allowed := nofun
      asking := nofun
      running := notified_running held.running }
  | push =>
    exact { held with
      reading := nofun
      allowed := fun _ empty => absurd empty (by simp)
      bytes := fun empty => absurd empty (by simp)
      asking := nofun
      running := notified_running held.running }
  | wait started empty unbounded =>
    refine { held with asking := ?_, running := nofun }
    -- the pump has just been started, and nothing keeps it from reading
    intro _ idle
    have stuck := started idle
    have room := held.bytes empty
    have may := canRead_iff.mpr ⟨held.opened, held.allowed rfl empty unbounded, unbounded,
      by simp [empty, maxEvents], by simp [room, maxBytes]⟩
    rw [stuck] at may
    cases may
  | take =>
    refine { held with reading := ?_, allowed := nofun, bytes := fun _ => rfl }
    intro reading
    obtain ⟨opened, prefetch, unbounded, _, _⟩ := canRead_iff.mp (held.reading reading)
    exact canRead_iff.mpr ⟨opened, prefetch, unbounded, by simp [maxEvents], by simp [maxBytes]⟩
  | unhold held' =>
    refine { held with reading := ?_, allowed := nofun, bytes := nofun }
    intro reading
    have unbounded := (canRead_iff.mp (held.reading reading)).2.2.1
    rw [held'] at unbounded
    cases unbounded
  | hand held' =>
    refine { held with reading := ?_, allowed := nofun }
    intro reading
    have unbounded := (canRead_iff.mp (held.reading reading)).2.2.1
    rw [held'] at unbounded
    cases unbounded
  | deliver => exact { held with allowed := nofun, asking := nofun, running := nofun }
  | back =>
    refine { held with reading := ?_, allowed := fun _ _ _ => rfl }
    intro reading
    obtain ⟨opened, _, rest⟩ := canRead_iff.mp (held.reading reading)
    exact canRead_iff.mpr ⟨opened, rfl, rest⟩

/-- The event that is held as a boundary. -/
def heldBy : Option (Boundary ν ε) → List (KernelAgentEvent ν)
  | some (.event event) => [.other event]
  | some (.output event _) => [.output event]
  | _ => []

/-- What the pump has read and dropped, and how the source stands, by the boundary it holds. -/
def Dropped (source : Source ν ε) (state : Batching ν ε) (lost : List (KernelAgentEvent ν)) :
    Prop :=
  match state.boundary with
  | some .done => lost = [] ∧ state.remaining = [] ∧ source.ending = .ok ()
  | some (.error (.source error)) =>
    lost = [] ∧ state.remaining = [] ∧ source.ending = .error error
  | some (.error .eventTooLarge) => ∃ event, lost = [.output event] ∧ maxBytes < event.size
  | _ => lost = []

/-- Every event that was read is accounted for. -/
structure Accounted (source : Source ν ε) (state : Batching ν ε) (away : Passing ν) : Prop where
  given : source.events = readOf state.log ++ state.remaining
  kept : ∃ lost, readOf state.log =
      returnedOf state.log ++ away.events ++ state.events.map .output ++ heldBy state.boundary ++
        lost ∧ Dropped source state lost
  sent : deliveredOf state.log = returnedOf state.log ++ away.shown

/-- While the pump reads, nothing is dropped and nothing is held. -/
theorem Accounted.open {source : Source ν ε} {state : Batching ν ε} {away : Passing ν}
    (held : Accounted source state away) (unbounded : state.boundary = none) :
    readOf state.log = returnedOf state.log ++ away.events ++ state.events.map .output := by
  obtain ⟨lost, split, dropped⟩ := held.kept
  simp only [Dropped, unbounded] at dropped
  simpa [unbounded, heldBy, dropped] using split

/-- Every move keeps the account. -/
theorem Accounted.move {source : Source ν ε} {state next : Batching ν ε} {away later : Passing ν}
    (control : Controlled state away) (held : Accounted source state away)
    (move : Move source (state, away) (next, later)) : Accounted source next later := by
  have unbounded (reading : state.pump = .reading) : state.boundary = none :=
    (canRead_iff.mp (control.reading reading)).2.2.1
  obtain ⟨given, ⟨lost, split, dropped⟩, sent⟩ := held
  cases move with
  | ask =>
    refine ⟨?_, ⟨lost, ?_, dropped⟩, ?_⟩
    · simpa [readBy] using given
    · simpa [readBy, returnedBy] using split
    · simpa [deliveredBy, returnedBy] using sent
  | pause | settle | wait => exact ⟨given, ⟨lost, split, dropped⟩, sent⟩
  | finished reading exhausted ending =>
    refine ⟨given, ⟨lost, ?_, ?_⟩, sent⟩
    · simpa [unbounded reading, heldBy] using split
    · simp only [Dropped, unbounded reading] at dropped
      exact ⟨dropped, exhausted, ending⟩
  | failed reading exhausted ending =>
    refine ⟨given, ⟨lost, ?_, ?_⟩, sent⟩
    · simpa [unbounded reading, heldBy] using split
    · simp only [Dropped, unbounded reading] at dropped
      exact ⟨dropped, exhausted, ending⟩
  | @refuse _ _ event remaining reading next large =>
    have whole := Accounted.open ⟨given, ⟨lost, split, dropped⟩, sent⟩ (unbounded reading)
    refine ⟨?_, ⟨[.output event], ?_, event, rfl, large⟩, ?_⟩
    · simpa [readBy, next] using given
    · simp [readBy, returnedBy, heldBy, whole]
    · simpa [deliveredBy, returnedBy] using sent
  | @holdEvent _ _ event remaining reading next =>
    have whole := Accounted.open ⟨given, ⟨lost, split, dropped⟩, sent⟩ (unbounded reading)
    refine ⟨?_, ⟨[], ?_, rfl⟩, ?_⟩
    · simpa [readBy, next] using given
    · simp [readBy, returnedBy, heldBy, whole]
    · simpa [deliveredBy, returnedBy] using sent
  | @holdOutput _ _ event remaining reading next =>
    have whole := Accounted.open ⟨given, ⟨lost, split, dropped⟩, sent⟩ (unbounded reading)
    refine ⟨?_, ⟨[], ?_, rfl⟩, ?_⟩
    · simpa [readBy, next] using given
    · simp [readBy, returnedBy, heldBy, whole]
    · simpa [deliveredBy, returnedBy] using sent
  | @push _ _ event remaining reading next =>
    have whole := Accounted.open ⟨given, ⟨lost, split, dropped⟩, sent⟩ (unbounded reading)
    refine ⟨?_, ⟨[], ?_, ?_⟩, ?_⟩
    · simpa [readBy, next] using given
    · simp [readBy, returnedBy, heldBy, unbounded reading, whole]
    · simp [Dropped, unbounded reading]
    · simpa [deliveredBy, returnedBy] using sent
  | take => exact ⟨given, ⟨lost, by simpa [Passing.events, eventsOf] using split, dropped⟩, sent⟩
  | unhold held empty =>
    refine ⟨given, ⟨lost, ?_, ?_⟩, sent⟩
    · simpa [held, empty, heldBy] using split
    · simpa [Dropped, held] using dropped
  | hand held empty =>
    refine ⟨given, ⟨lost, ?_, ?_⟩, sent⟩
    · simpa [held, empty, heldBy, Passing.events, eventsOf] using split
    · simpa [Dropped, held] using dropped
  | deliver =>
    refine ⟨?_, ⟨lost, ?_, dropped⟩, ?_⟩
    · simpa [readBy] using given
    · simpa [readBy, returnedBy, Passing.events] using split
    · simpa [deliveredBy, returnedBy, Passing.shown] using sent
  | back =>
    refine ⟨?_, ⟨lost, ?_, dropped⟩, ?_⟩
    · simpa [readBy] using given
    · simpa [readBy, returnedBy, Passing.events] using split
    · simpa [deliveredBy, returnedBy, Passing.shown] using sent

/-- An output batch is not empty, of one segment and within the bounds. -/
def Bounded : ModelOutputBatch ν → Prop
  | .output events =>
    events ≠ [] ∧ (∃ segment, ∀ event ∈ events, event.segmentId = segment) ∧
      events.length ≤ maxEvents ∧ (events.map ModelOutputDelta.size).sum ≤ maxBytes
  | .event _ => True

/-- The buffer keeps the bounds of a batch. -/
structure Contained (state : Batching ν ε) (away : Passing ν) : Prop where
  bytes : state.bytes = (state.events.map ModelOutputDelta.size).sum
  fits : state.bytes ≤ maxBytes
  few : state.events.length ≤ maxEvents
  segment : ∀ first ∈ state.events.head?, ∀ event ∈ state.events, event.segmentId = first.segmentId
  held : ∀ event bytes, state.boundary = some (.output event bytes) →
    bytes = event.size ∧ event.size ≤ maxBytes
  taken : ∀ batch, away = .taken batch → Bounded batch
  delivered : ∀ batch, .delivered batch ∈ state.log → Bounded batch

/-- Every move keeps the bounds. -/
theorem Contained.move {source : Source ν ε} {state next : Batching ν ε} {away later : Passing ν}
    (control : Controlled state away) (inside : Contained state away)
    (move : Move source (state, away) (next, later)) : Contained next later := by
  have quiet {log : List (Action ν)} {action : Action ν}
      (bounded : ∀ batch, .delivered batch ∈ log → Bounded batch)
      (other : ∀ batch, action ≠ .delivered batch) :
      ∀ batch, .delivered batch ∈ log ++ [action] → Bounded batch := by
    intro batch member
    rcases List.mem_append.mp member with earlier | last
    · exact bounded batch earlier
    · exact absurd (List.mem_singleton.mp last).symm (other batch)
  cases move with
  | ask => exact { inside with delivered := quiet inside.delivered nofun }
  | pause | settle | wait => exact { inside with }
  | finished | failed => exact { inside with held := nofun }
  | refuse | holdEvent =>
    exact { inside with held := nofun, delivered := quiet inside.delivered nofun }
  | holdOutput reading next small =>
    refine { inside with held := ?_, delivered := quiet inside.delivered nofun }
    rintro event bytes ⟨⟩
    exact ⟨rfl, small⟩
  | @push _ _ event remaining reading next small joins =>
    obtain ⟨_, _, unbounded, few, _⟩ := canRead_iff.mp (control.reading reading)
    refine { inside with
      bytes := ?_, fits := ?_, few := ?_, segment := ?_
      delivered := quiet inside.delivered nofun }
    · simp [inside.bytes]
    · cases filled : state.events with
      | nil => simpa [control.bytes filled] using small
      | cons first rest => exact (joins first (by simp [filled])).1
    · simpa using Nat.succ_le_of_lt few
    · cases filled : state.events with
      | nil => simp
      | cons first rest =>
        have same := (joins first (by simp [filled])).2
        have all := inside.segment first (by simp [filled])
        rw [filled] at all
        simp only [List.cons_append, List.head?_cons, Option.mem_def, Option.some.injEq,
          forall_eq']
        intro other member
        rw [← List.cons_append, List.mem_append, List.mem_singleton] at member
        rcases member with earlier | rfl
        · exact all other earlier
        · exact same.symm
  | @take _ first rest filled =>
    refine { inside with bytes := rfl, fits := Nat.zero_le _, few := Nat.zero_le _
                         segment := nofun, taken := ?_ }
    rintro batch ⟨⟩
    refine ⟨by simp [filled], ⟨first.segmentId, inside.segment first (by simp [filled])⟩,
      inside.few, ?_⟩
    exact inside.bytes ▸ inside.fits
  | @unhold _ event bytes held empty =>
    obtain ⟨rfl, small⟩ := inside.held event bytes held
    refine { inside with bytes := ?_, fits := small, few := ?_, segment := ?_, held := nofun }
    · simp
    · simp [maxEvents]
    · simp
  | hand => exact { inside with held := nofun, taken := fun _ => by rintro ⟨⟩; trivial }
  | @deliver _ batch =>
    refine { inside with taken := nofun, delivered := ?_ }
    intro other member
    rcases List.mem_append.mp member with earlier | last
    · exact inside.delivered other earlier
    · obtain rfl : other = batch := by simpa using last
      exact inside.taken other rfl
  | back => exact { inside with taken := nofun, delivered := quiet inside.delivered nofun }

/-- A generator that has not ended. -/
structure Runs (source : Source ν ε) (state : Batching ν ε) (away : Passing ν) : Prop where
  control : Controlled state away
  account : Accounted source state away
  contained : Contained state away

/-- What holds before the moves holds after them. -/
theorem Runs.moves {source : Source ν ε} {scene next : Batching ν ε × Passing ν}
    (runs : Runs source scene.1 scene.2) (moves : Moves source scene next) :
    Runs source next.1 next.2 := by
  induction moves with
  | refl => exact runs
  | tail _ move hypothesis =>
    obtain ⟨control, account, contained⟩ := hypothesis
    exact ⟨control.move move, account.move control move, contained.move control move⟩

/-- What was read, delivered and returned are prefixes of one another and of the source, and every
batch is bounded. -/
structure Faithful (source : Source ν ε) (log : List (Action ν)) : Prop where
  read : readOf log <+: source.events
  delivered : deliveredOf log <+: readOf log
  returned : returnedOf log <+: deliveredOf log
  bounded : ∀ batch, .delivered batch ∈ log → Bounded batch

/-- The log is faithful while the generator runs. -/
theorem Runs.faithful {source : Source ν ε} {state : Batching ν ε} {away : Passing ν}
    (runs : Runs source state away) : Faithful source state.log := by
  obtain ⟨given, ⟨lost, split, _⟩, sent⟩ := runs.account
  refine ⟨⟨_, given.symm⟩, ?_, ⟨_, sent.symm⟩, runs.contained.delivered⟩
  rw [sent, split]
  cases away with
  | nothing => simp [Passing.shown, Passing.events]
  | taken => simp [Passing.shown]
  | delivered => simp [Passing.shown, Passing.events]

/-- Whatever the source had to give has been delivered, by the way the generator ended. -/
structure Complete (source : Source ν ε) (delivered : List (KernelAgentEvent ν))
    (outcome : Outcome ε) : Prop where
  completed : outcome = .completed → delivered = source.events ∧ source.ending = .ok ()
  failed : ∀ error, outcome = .failed (.source error) →
    delivered = source.events ∧ source.ending = .error error
  refused : outcome = .failed .eventTooLarge →
    ∃ event, delivered ++ [.output event] <+: source.events ∧ maxBytes < event.size

/-- A generator that has ended. -/
structure Over (source : Source ν ε) (state : Batching ν ε) (outcome : Outcome ε) : Prop where
  main : state.main = .ended outcome
  still : state.closed = true ∨ state.pump = .idle
  faithful : Faithful source state.log
  complete : Complete source (deliveredOf state.log) outcome

/-- Telling the source to return shows no event. -/
theorem finish_log (source : Source ν ε) (outcome : Except ε Unit → Outcome ε)
    (state : Batching ν ε) :
    readOf (state.finish source outcome).log = readOf state.log ∧
      deliveredOf (state.finish source outcome).log = deliveredOf state.log ∧
      returnedOf (state.finish source outcome).log = returnedOf state.log ∧
      ∀ batch, .delivered batch ∈ (state.finish source outcome).log →
        .delivered batch ∈ state.log := by
  unfold finish
  dsimp only
  split_ifs
  · exact ⟨rfl, rfl, rfl, fun _ member => member⟩
  · simp [readBy, deliveredBy, returnedBy]

/-- A log stays faithful when the source is told to return. -/
theorem Faithful.finish {source : Source ν ε} {state : Batching ν ε}
    (faithful : Faithful source state.log) (outcome : Except ε Unit → Outcome ε) :
    Faithful source (state.finish source outcome).log := by
  obtain ⟨read, delivered, returned, batches⟩ := finish_log source outcome state
  refine ⟨?_, ?_, ?_, fun batch member => faithful.bounded batch (batches batch member)⟩
  · exact read ▸ faithful.read
  · exact read ▸ delivered ▸ faithful.delivered
  · exact delivered ▸ returned ▸ faithful.returned

/-- With nothing buffered and nothing on its way, everything that was kept has been delivered. -/
theorem Accounted.emptied {source : Source ν ε} {state : Batching ν ε}
    (held : Accounted source state .nothing) (empty : state.events = [])
    (unheld : heldBy state.boundary = []) :
    ∃ lost, source.events = deliveredOf state.log ++ lost ++ state.remaining ∧
      Dropped source state lost := by
  obtain ⟨given, ⟨lost, split, dropped⟩, sent⟩ := held
  refine ⟨lost, ?_, dropped⟩
  rw [given, split, sent, empty, unheld]
  simp [Passing.events, Passing.shown]

/-- A generator that throws has delivered everything in front of the error. -/
theorem Accounted.threw {source : Source ν ε} {state : Batching ν ε} {error : BatchError ε}
    (held : Accounted source state .nothing) (empty : state.events = [])
    (bound : state.boundary = some (.error error)) :
    Complete source (deliveredOf state.log) (.failed error) := by
  obtain ⟨lost, whole, dropped⟩ := held.emptied empty (by rw [bound]; rfl)
  simp only [Dropped, bound] at dropped
  refine ⟨nofun, ?_, ?_⟩
  · rintro error ⟨⟩
    obtain ⟨rfl, exhausted, ending⟩ := dropped
    refine ⟨?_, ending⟩
    rw [whole, exhausted, List.append_nil, List.append_nil]
  · rintro ⟨⟩
    obtain ⟨event, rfl, large⟩ := dropped
    exact ⟨event, whole ▸ List.prefix_append _ _, large⟩

/-- A generator that returns has delivered everything. -/
theorem Accounted.completed {source : Source ν ε} {state : Batching ν ε}
    (held : Accounted source state .nothing) (empty : state.events = [])
    (bound : state.boundary = some .done) :
    Complete source (deliveredOf state.log) .completed := by
  obtain ⟨lost, whole, dropped⟩ := held.emptied empty (by rw [bound]; rfl)
  simp only [Dropped, bound] at dropped
  obtain ⟨rfl, exhausted, ending⟩ := dropped
  refine ⟨fun _ => ⟨?_, ending⟩, nofun, nofun⟩
  rw [whole, exhausted, List.append_nil, List.append_nil]

/-- A generator that ends leaves a faithful log. -/
theorem Runs.ends {source : Source ν ε} {state next : Batching ν ε} {away : Passing ν}
    (runs : Runs source state away) (ends : Ends source (state, away) next) :
    ∃ outcome, Over source next outcome := by
  have shows (outcome : Except ε Unit → Outcome ε) := (finish_log source outcome state).2.1
  cases ends with
  | @threw _ error held empty =>
    refine ⟨_, rfl, .inl rfl, runs.faithful.finish _, ?_⟩
    exact shows _ ▸ runs.account.threw empty held
  | completed held empty =>
    refine ⟨_, rfl, .inl rfl, runs.faithful.finish _, ?_⟩
    exact shows _ ▸ runs.account.completed empty held
  | stopped => exact ⟨_, rfl, .inl rfl, runs.faithful.finish _, nofun, nofun, nofun⟩
  | unstarted idle => exact ⟨_, rfl, .inr idle, runs.faithful, nofun, nofun, nofun⟩

/-- A state that a run reaches. -/
def Stands (source : Source ν ε) (state : Batching ν ε) : Prop :=
  (Runs source state (passing state) ∧ (state.main = .fresh → state.pump = .idle)) ∨
    ∃ outcome, Over source state outcome

/-- Before the first turn nothing has happened. -/
theorem runs_start (source : Source ν ε) : Runs source (.start source) .nothing := by
  refine ⟨?_, ?_, ?_⟩
  · exact ⟨rfl, nofun, fun _ _ _ => rfl, fun _ => rfl, nofun, nofun⟩
  · exact ⟨rfl, ⟨[], rfl, rfl⟩, rfl⟩
  · exact ⟨rfl, Nat.zero_le _, Nat.zero_le _, nofun, nofun, nofun, nofun⟩

/-- The start is a state that a run reaches. -/
theorem stands_start (source : Source ν ε) : Stands source (.start source) :=
  .inl ⟨runs_start source, fun _ => rfl⟩

/-- The main loop leaves its start for good. -/
theorem advance_main (source : Source ν ε) (state : Batching ν ε) :
    (state.advance source).main ≠ .fresh := by
  unfold advance
  dsimp only
  split
  · exact nofun
  · split <;> exact nofun

/-- A generator whose consumer has asked stays started. -/
theorem turn_started {source : Source ν ε} {turn : Turn} {state next : Batching ν ε}
    (fresh : state.main = .fresh → state.pump = .idle)
    (taken : batchModelOutputEvents source turn state = some next) : next.main ≠ .fresh := by
  have notified {main : Main ν ε} (started : main ≠ .fresh) : main.notified ≠ .fresh := by
    cases main with
    | fresh => exact absurd rfl started
    | _ => exact nofun
  have busy (running : state.pump ≠ .idle) : state.main ≠ .fresh :=
    fun start => running (fresh start)
  unfold batchModelOutputEvents at taken
  split at taken
  case h_1 | h_4 | h_5 =>
    obtain rfl := Option.some.inj taken
    exact advance_main source _
  case h_2 reading =>
    obtain rfl := Option.some.inj taken
    have started := busy (by rw [reading]; exact nofun)
    rcases answer_main source state with same | same <;> rw [same]
    · exact started
    · exact notified started
  case h_3 settling =>
    obtain rfl := Option.some.inj taken
    rw [settle, startPump_main]
    exact notified (busy (by rw [settling]; exact nofun))
  case h_6 | h_7 =>
    obtain rfl := Option.some.inj taken
    exact nofun
  case h_8 => cases taken

/-- After its end the generator does nothing that the log shows. -/
theorem Over.turn {source : Source ν ε} {turn : Turn} {state next : Batching ν ε}
    {outcome : Outcome ε} (past : Over source state outcome)
    (taken : batchModelOutputEvents source turn state = some next) :
    Over source next outcome ∧ next.log = state.log := by
  obtain ⟨main, still, faithful, complete⟩ := past
  unfold batchModelOutputEvents at taken
  split at taken
  case h_1 | h_4 | h_5 | h_6 | h_7 => rename_i other; rw [main] at other; cases other
  case h_2 reading =>
    obtain rfl := Option.some.inj taken
    have closed : state.closed = true := by
      rcases still with closed | idle
      · exact closed
      · rw [reading] at idle
        cases idle
    unfold answer
    rw [if_pos closed]
    exact ⟨⟨main, .inl closed, faithful, complete⟩, rfl⟩
  case h_3 settling =>
    obtain rfl := Option.some.inj taken
    have closed : state.closed = true := by
      rcases still with closed | idle
      · exact closed
      · rw [settling] at idle
        cases idle
    have stuck : ({ state with pump := .idle } : Batching ν ε).wake.canRead = false := by
      simp [canRead, wake, closed]
    have same : state.settle = ({ state with pump := .idle } : Batching ν ε).wake := by
      rw [settle, startPump, stuck]
      simp
    rw [same]
    refine ⟨⟨?_, .inl closed, faithful, complete⟩, rfl⟩
    rw [wake, main]
    rfl
  case h_8 => cases taken

/-- Every turn leads from a reached state to a reached state. -/
theorem Stands.turn {source : Source ν ε} {turn : Turn} {state next : Batching ν ε}
    (stands : Stands source state)
    (taken : batchModelOutputEvents source turn state = some next) : Stands source next := by
  rcases stands with ⟨runs, fresh⟩ | ⟨outcome, past⟩
  · have started := turn_started fresh taken
    rcases turn_leads runs.control.opened fresh taken with moves | ⟨last, moves, ends⟩
    · exact .inl ⟨runs.moves moves, fun start => absurd start started⟩
    · exact .inr ((runs.moves moves).ends ends)
  · exact .inr ⟨outcome, (past.turn taken).1⟩

/-- Every run reaches such a state. -/
theorem stands_of_run {source : Source ν ε} {turns : List Turn} {state : Batching ν ε}
    (reached : runBatching source turns = some state) : Stands source state :=
  Lib.runTurns_invariant (Stands source) (fun _ _ _ stands taken => stands.turn taken)
    (stands_start source) reached

/-- The consumer has asked and waits for the generator. -/
def Waits (state : Batching ν ε) : Prop := state.main = .waiting ∨ state.main = .woken


/-- The answers the source still has to give. -/
def unread (state : Batching ν ε) : Nat :=
  state.remaining.length + if state.boundary = none then 1 else 0

/-- Asking the source changes nothing that is left of it. -/
theorem unread_pumpLoop (state : Batching ν ε) : unread state.pumpLoop = unread state := by
  unfold pumpLoop
  split_ifs <;> rfl

/-- Starting the pump changes nothing that is left of the source. -/
theorem unread_startPump (state : Batching ν ε) : unread state.startPump = unread state := by
  unfold startPump
  split_ifs
  · exact unread_pumpLoop state
  · rfl

/-- An answer uses up what the source has to give. -/
theorem unread_answer {source : Source ν ε} {state : Batching ν ε} (opened : state.closed = false)
    (unbounded : state.boundary = none) : unread (state.answer source) < unread state := by
  have pushed (event : ModelOutputDelta) (size : Nat) (other : Batching ν ε) :
      unread (other.push event size) = unread other := unread_pumpLoop _
  have held (boundary : Boundary ν ε) (other : Batching ν ε) :
      unread (other.hold boundary) = other.remaining.length := rfl
  have before : unread state = state.remaining.length + 1 := by
    rw [unread, if_pos unbounded]
  unfold answer
  rw [if_neg (by simp [opened]), before]
  split
  case h_1 exhausted =>
    split <;> rw [held] <;> exact Nat.lt_succ_self _
  case h_2 event remaining next =>
    have shorter : state.remaining.length = remaining.length + 1 := by simp [next]
    dsimp only
    split
    · rw [held]
      dsimp only
      omega
    · unfold receiveOutput
      dsimp only
      split
      · rw [held]
        dsimp only
        omega
      · have joined (event : ModelOutputDelta) : unread (Batching.push event event.size
            { state with remaining := remaining,
                         log := state.log ++ [Action.read (.output event)] }) <
              state.remaining.length + 1 := by
          rw [pushed, unread]
          simp only [unbounded, ↓reduceIte]
          omega
        split
        · exact joined _
        · split
          · rw [held]
            dsimp only
            omega
          · exact joined _

/-- What is left of the work of the pump. -/
def pumpEffort : Pump → Nat
  | .reading => 1
  | .idle => 2
  | .settling => 4

/-- What is left of the work of the main loop. -/
def mainEffort : Main ν ε → Nat
  | .woken => 1
  | _ => 0

/-- What is left of the work in front of the consumer's next batch. -/
def effort (state : Batching ν ε) : Nat :=
  8 * unread state + pumpEffort state.pump + mainEffort state.main

/-- While the consumer waits, a turn of the pump or of the main loop is possible. -/
theorem Runs.possible {source : Source ν ε} {state : Batching ν ε} {away : Passing ν}
    (runs : Runs source state away) (waits : Waits state) :
    ∃ turn, (batchModelOutputEvents source turn state).isSome := by
  rcases waits with waiting | woken
  · cases pump : state.pump with
    | idle => exact absurd pump (runs.control.asking waiting)
    | reading => exact ⟨.answer, by simp [batchModelOutputEvents, pump]⟩
    | settling => exact ⟨.settle, by simp [batchModelOutputEvents, pump]⟩
  · exact ⟨.resume, by simp [batchModelOutputEvents, woken]⟩

/-- The pump takes at most the most work. -/
theorem pumpEffort_le (pump : Pump) : pumpEffort pump ≤ 4 := by
  cases pump <;> decide

/-- The main loop takes at most the most work. -/
theorem mainEffort_le (main : Main ν ε) : mainEffort main ≤ 1 := by
  cases main <;> simp [mainEffort]

/-- Starting the pump makes its work no more. -/
theorem pumpEffort_startPump (state : Batching ν ε) :
    pumpEffort state.startPump.pump ≤ pumpEffort state.pump := by
  unfold startPump
  split_ifs with may
  · simp [pumpLoop, may.1, may.2, pumpEffort]
  · exact Nat.le_refl _

/-- A main loop that waits once more has only started the pump. -/
theorem advance_waits {source : Source ν ε} {state : Batching ν ε}
    (waits : Waits (state.advance source)) :
    state.advance source = { state.startPump with main := .waiting } := by
  unfold advance at waits ⊢
  dsimp only at waits ⊢
  split at waits
  · rcases waits with waiting | woken
    · cases waiting
    · cases woken
  · split at waits
    · rfl
    all_goals
      rcases waits with waiting | woken
      · cases waiting
      · cases woken

/-- While the consumer waits, every turn leaves less work. -/
theorem Runs.lowers {source : Source ν ε} {turn : Turn} {state next : Batching ν ε}
    {away : Passing ν} (runs : Runs source state away) (waits : Waits state)
    (taken : batchModelOutputEvents source turn state = some next) (still : Waits next) :
    effort next < effort state := by
  have elsewhere {main : Main ν ε} (other : state.main = main) (waiting : main ≠ .waiting)
      (woken : main ≠ .woken) : False := by
    rcases waits with same | same
    · exact waiting (other ▸ same)
    · exact woken (other ▸ same)
  unfold batchModelOutputEvents at taken
  split at taken
  case h_1 other | h_5 other | h_6 other | h_7 other => exact (elsewhere other nofun nofun).elim
  case h_2 reading =>
    obtain rfl := Option.some.inj taken
    obtain ⟨opened, _, unbounded, _⟩ := canRead_iff.mp (runs.control.reading reading)
    have less : unread (state.answer source) < unread state := unread_answer opened unbounded
    have pump := pumpEffort_le (state.answer source).pump
    have main := mainEffort_le (state.answer source).main
    unfold effort
    omega
  case h_3 settling =>
    obtain rfl := Option.some.inj taken
    have same : unread state.settle = unread state := unread_startPump _
    have pump : pumpEffort state.settle.pump ≤ 2 := pumpEffort_startPump _
    have main := mainEffort_le state.settle.main
    have before : pumpEffort state.pump = 4 := by rw [settling, pumpEffort]
    unfold effort
    omega
  case h_4 woken =>
    obtain rfl := Option.some.inj taken
    have same := unread_startPump state
    have pump := pumpEffort_startPump state
    have before : mainEffort state.main = 1 := by rw [woken, mainEffort]
    rw [advance_waits still]
    show 8 * unread state.startPump + pumpEffort state.startPump.pump + 0 < effort state
    unfold effort
    omega
  case h_8 => cases taken

/-- A reached state in which the consumer waits has not ended. -/
theorem Stands.runs_of_waits {source : Source ν ε} {state : Batching ν ε}
    (stands : Stands source state) (waits : Waits state) : Runs source state (passing state) := by
  rcases stands with ⟨runs, _⟩ | ⟨outcome, past⟩
  · exact runs
  · rcases waits with same | same <;> rw [past.main] at same <;> cases same

/-- A reached state shows a faithful log. -/
theorem Stands.faithful {source : Source ν ε} {state : Batching ν ε}
    (stands : Stands source state) : Faithful source state.log := by
  rcases stands with ⟨runs, _⟩ | ⟨outcome, past⟩
  · exact runs.faithful
  · exact past.faithful

/-- A generator that has ended has delivered what its end calls for. -/
theorem Stands.complete {source : Source ν ε} {state : Batching ν ε} {outcome : Outcome ε}
    (stands : Stands source state) (ended : state.main = .ended outcome) :
    Complete source (deliveredOf state.log) outcome := by
  rcases stands with ⟨runs, _⟩ | ⟨other, past⟩
  · exact absurd ended (runs.control.running outcome)
  · obtain rfl : other = outcome := by simpa [past.main] using ended
    exact past.complete

/-- While the consumer waits, a turn is possible, and no run keeps it waiting for more turns than
there is work left. -/
theorem Stands.progress {source : Source ν ε} {state : Batching ν ε}
    (stands : Stands source state) (waits : Waits state) :
    (∃ turn, (batchModelOutputEvents source turn state).isSome) ∧
      ∀ turns final, Lib.runTurns (batchModelOutputEvents source) state turns = some final →
        effort state < turns.length →
          ∃ earlier middle, earlier <+: turns ∧
            Lib.runTurns (batchModelOutputEvents source) state earlier = some middle ∧
              ¬ Waits middle := by
  refine ⟨(stands.runs_of_waits waits).possible waits, ?_⟩
  intro turns final reached long
  refine Lib.runTurns_leaves (Stands source) Waits effort ?_ ?_ stands waits reached long
  · exact fun _ _ _ stands taken => stands.turn taken
  · exact fun _ _ _ stands waits taken still =>
      (stands.runs_of_waits waits).lowers waits taken still

end Crewon.Verif.ModelOutputBatches
