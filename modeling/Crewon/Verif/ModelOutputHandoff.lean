import Crewon.Lib.Places
import Crewon.Verif.ModelOutputBatches
import Mathlib

/-!
# Batches of model output: the persistence handoff

The first output of a segment and every event that is no output are handed over: the source is not
to be asked for another event before the consumer has come back from the yield that delivered them.
The generator keeps to this unless such an output is read while an earlier batch is out: coming
back from that batch, the consumer allows the next question. The sources on which this can happen
are exactly those where the first output of a segment follows, among outputs alone, an output that
continued its segment.
-/

namespace Crewon.Verif.ModelOutputHandoff

open Crewon.Js
open Crewon.Worker
open Crewon.Worker.Batching
open Crewon.Verif.ModelOutputBatches

variable {ν ε : Type}

/-- The segment of an output. -/
def segmentOf : KernelAgentEvent ν → Option JsString
  | .output event => some event.segmentId
  | .other _ => none

/-- An event that is handed over: no output, or the first output of its segment. -/
def Handoff (earlier : List (KernelAgentEvent ν)) : KernelAgentEvent ν → Prop
  | .output event => ∀ other ∈ earlier, segmentOf other ≠ some event.segmentId
  | .other _ => True

/-- All events that are handed over lie among the first ones. -/
def HandedOver (events : List (KernelAgentEvent ν)) (count : Nat) : Prop :=
  ∀ earlier event later, events = earlier ++ event :: later → Handoff earlier event →
    earlier.length < count

/-- Whenever the source is asked, the consumer has come back from the yield of every event that is
handed over and was read before. -/
def AsksInTurn (log : List (Action ν)) : Prop :=
  ∀ before after, log = before ++ .asked :: after →
    HandedOver (readOf before) (returnedOf before).length

/-- How far a reader of the events may be ahead of the consumer: the segment of the last output,
and whether, since the last event that is no output, an output continued the segment of the output
before it. -/
structure Ahead where
  last : Option JsString
  loose : Bool
deriving DecidableEq

/-- One event further. -/
def Ahead.after (ahead : Ahead) : KernelAgentEvent ν → Ahead
  | .output event =>
    ⟨some event.segmentId, ahead.loose || decide (ahead.last = some event.segmentId)⟩
  | .other _ => ⟨ahead.last, false⟩

/-- How far a reader is ahead after the events. -/
def aheadOf (events : List (KernelAgentEvent ν)) : Ahead := events.foldl Ahead.after ⟨none, false⟩

@[simp] theorem aheadOf_concat (events : List (KernelAgentEvent ν)) (event : KernelAgentEvent ν) :
    aheadOf (events ++ [event]) = (aheadOf events).after event := by
  simp [aheadOf]

/-- Every output among the events fits into a batch. -/
def Fitting (events : List (KernelAgentEvent ν)) : Prop :=
  ∀ event, .output event ∈ events → event.size ≤ maxBytes

/-- No first output of a segment comes while a reader may be ahead. -/
def Paced (events : List (KernelAgentEvent ν)) : Prop :=
  ∀ earlier event later, events = earlier ++ .output event :: later → Fitting earlier →
    event.size ≤ maxBytes → (aheadOf earlier).loose = true → ¬ Handoff earlier (.output event)

/-- The last segment is that of one of the events. -/
theorem mem_of_last {events : List (KernelAgentEvent ν)} {segment : JsString}
    (last : (aheadOf events).last = some segment) :
    ∃ event ∈ events, segmentOf event = some segment := by
  induction events using List.reverseRecOn with
  | nil => cases last
  | append_singleton earlier event hypothesis =>
    rw [aheadOf_concat] at last
    cases event with
    | output event => exact ⟨.output event, by simp, by simpa [Ahead.after, segmentOf] using last⟩
    | other event =>
      obtain ⟨found, member, same⟩ := hypothesis last
      exact ⟨found, List.mem_append_left _ member, same⟩

/-- The last output of some outputs of one segment has that segment. -/
theorem last_of_outputs {first : ModelOutputDelta} {rest : List ModelOutputDelta}
    {segment : JsString} (same : ∀ event ∈ first :: rest, event.segmentId = segment)
    (events : List (KernelAgentEvent ν)) :
    (aheadOf (events ++ (first :: rest).map .output)).last = some segment := by
  induction rest generalizing first events with
  | nil => simp [Ahead.after, same first]
  | cons second more hypothesis =>
    have later := hypothesis (fun event member => same event (List.mem_cons_of_mem _ member))
      (events ++ [.output first])
    simpa using later

/-- How far the generator reads ahead of its consumer. -/
structure Leading (state : Batching ν ε) (away : Passing ν) : Prop where
  last : (aheadOf (returnedOf state.log ++ away.events)).last = state.lastOutputSegment
  /-- A buffer that is filled behind a batch on its way was read ahead. -/
  behind : away ≠ .nothing → state.events ≠ [] → (∀ event, state.boundary ≠ some (.event event)) →
    (aheadOf (readOf state.log)).loose = true
  /-- A buffer that may still be filled was read ahead. -/
  filling : state.prefetchAllowed = true → state.events ≠ [] →
    (∀ event, state.boundary ≠ some (.event event)) → (aheadOf (readOf state.log)).loose = true
  /-- A batch on its way behind which reading is allowed was read ahead. -/
  sending : state.prefetchAllowed = true → away ≠ .nothing →
    (∀ event, state.boundary ≠ some (.event event)) → (aheadOf (readOf state.log)).loose = true
  /-- An output that is held was read ahead. -/
  holding : ∀ event bytes, state.boundary = some (.output event bytes) →
    (aheadOf (readOf state.log)).loose = true
  /-- Outputs that are too large have not been read. -/
  fitting : state.boundary ≠ some (.error .eventTooLarge) → Fitting (readOf state.log)

/-- Reading an output leaves a reader ahead. -/
theorem loose_after {ahead : Ahead} (loose : ahead.loose = true) (event : ModelOutputDelta) :
    (ahead.after (.output event : KernelAgentEvent ν)).loose = true := by
  simp [Ahead.after, loose]

/-- Fitting events and one more. -/
theorem Fitting.concat {events : List (KernelAgentEvent ν)} {event : KernelAgentEvent ν}
    (fitting : Fitting events) (small : ∀ output, event = .output output → output.size ≤ maxBytes) :
    Fitting (events ++ [event]) := by
  intro output member
  rcases List.mem_append.mp member with earlier | last
  · exact fitting output earlier
  · exact small output (List.mem_singleton.mp last).symm

/-- Every move keeps track of how far the generator reads ahead. -/
theorem Leading.move {source : Source ν ε} {state next : Batching ν ε} {away later : Passing ν}
    (runs : Runs source state away) (leading : Leading state away)
    (move : Move source (state, away) (next, later)) : Leading next later := by
  obtain ⟨control, account, contained⟩ := runs
  -- a pump that reads into a filled buffer or behind a batch on its way was ahead before
  have ahead (reading : state.pump = .reading) (more : state.events ≠ [] ∨ away ≠ .nothing) :
      (aheadOf (readOf state.log)).loose = true := by
    obtain ⟨_, prefetch, unbounded, _⟩ := canRead_iff.mp (control.reading reading)
    rcases more with filled | out
    · exact leading.filling prefetch filled (by simp [unbounded])
    · exact leading.sending prefetch out (by simp [unbounded])
  have small (reading : state.pump = .reading) : Fitting (readOf state.log) := by
    obtain ⟨_, _, unbounded, _⟩ := canRead_iff.mp (control.reading reading)
    exact leading.fitting (by simp [unbounded])
  cases move with
  | ask =>
    obtain ⟨last, behind, filling, sending, holding, fitting⟩ := leading
    constructor <;> simpa [readBy, returnedBy] using by assumption
  | pause | settle | wait => exact { leading with }
  | finished reading | failed reading =>
    refine ⟨leading.last, ?_, ?_, ?_, (by rintro _ _ ⟨⟩), fun _ => small reading⟩
    · exact fun _ filled _ => ahead reading (.inl filled)
    · exact fun _ filled _ => ahead reading (.inl filled)
    · exact fun _ out _ => ahead reading (.inr out)
  | @refuse _ _ event _ reading =>
    refine ⟨?_, ?_, ?_, ?_, (by rintro _ _ ⟨⟩), fun fits => absurd rfl fits⟩
    · simpa [returnedBy] using leading.last
    · intro _ filled _
      simpa [readBy] using loose_after (ahead reading (.inl filled)) event
    · intro _ filled _
      simpa [readBy] using loose_after (ahead reading (.inl filled)) event
    · intro _ out _
      simpa [readBy] using loose_after (ahead reading (.inr out)) event
  | @holdEvent _ _ event _ reading =>
    refine ⟨?_, ?_, ?_, ?_, (by rintro _ _ ⟨⟩), fun _ => ?_⟩
    · simpa [returnedBy] using leading.last
    · exact fun _ _ other => absurd rfl (other event)
    · exact fun _ _ other => absurd rfl (other event)
    · exact fun _ _ other => absurd rfl (other event)
    · simpa [readBy] using (small reading).concat (by rintro output ⟨⟩)
  | @holdOutput _ _ event _ reading next fits filled =>
    have loose : (aheadOf (readOf (state.log ++ [.read (.output event)]))).loose = true := by
      simpa [readBy] using loose_after (ahead reading (.inl filled)) event
    refine ⟨?_, fun _ _ _ => loose, fun _ _ _ => loose, fun _ _ _ => loose, fun _ _ _ => loose,
      fun _ => ?_⟩
    · simpa [returnedBy] using leading.last
    · simpa [readBy] using (small reading).concat (by rintro output ⟨⟩; exact fits)
  | @push _ _ event _ reading next fits joins =>
    obtain ⟨_, prefetch, unbounded, _⟩ := canRead_iff.mp (control.reading reading)
    refine ⟨?_, ?_, ?_, ?_, ?_, fun _ => ?_⟩
    · simpa [returnedBy] using leading.last
    · intro out _ _
      simpa [readBy] using loose_after (ahead reading (.inr out)) event
    · intro still _ _
      by_cases filled : state.events = []
      · -- the buffer is empty: reading on is allowed only behind an output of the same segment
        have same : state.lastOutputSegment = some event.segmentId := by
          by_contra other
          simp [other] at still
        have whole := account.open unbounded
        rw [filled, List.map_nil, List.append_nil] at whole
        have last := leading.last
        rw [← whole, same] at last
        simp [readBy, Ahead.after, last]
      · simpa [readBy] using loose_after (ahead reading (.inl filled)) event
    · intro _ out _
      simpa [readBy] using loose_after (ahead reading (.inr out)) event
    · simp [unbounded]
    · simpa [readBy] using (small reading).concat (by rintro output ⟨⟩; exact fits)
  | @take _ first rest filled =>
    refine ⟨?_, fun _ empty => absurd rfl empty, fun _ empty => absurd rfl empty, ?_,
      leading.holding, leading.fitting⟩
    · have same := contained.segment first (by simp [filled])
      have last := last_of_outputs (filled ▸ same) (returnedOf state.log)
      simpa [Passing.events, eventsOf, filled] using last
    · intro prefetch _ other
      exact leading.filling prefetch (by simp [filled]) other
  | @unhold _ event bytes held empty =>
    have loose := leading.holding event bytes held
    refine ⟨leading.last, fun _ _ _ => loose, fun _ _ _ => loose, fun _ _ _ => loose,
      (by rintro _ _ ⟨⟩), ?_⟩
    exact fun _ => leading.fitting (by simp [held])
  | @hand _ event held empty =>
    refine ⟨?_, fun _ filled => absurd empty filled, (by rintro ⟨⟩), (by rintro ⟨⟩),
      (by rintro _ _ ⟨⟩), ?_⟩
    · have last := leading.last
      simp only [Passing.events, List.append_nil] at last
      simp [Passing.events, eventsOf, Ahead.after, last]
    · exact fun _ => leading.fitting (by simp [held])
  | deliver =>
    refine ⟨?_, ?_, ?_, ?_, ?_, ?_⟩
    · simpa [returnedBy, Passing.events] using leading.last
    · simpa [readBy] using leading.behind (by rintro ⟨⟩)
    · simpa [readBy] using leading.filling
    · simpa [readBy] using fun prefetch => leading.sending prefetch (by rintro ⟨⟩)
    · simpa [readBy] using leading.holding
    · simpa [readBy] using leading.fitting
  | back =>
    refine ⟨?_, fun out => absurd rfl out, ?_, fun _ out => absurd rfl out, ?_, ?_⟩
    · simpa [returnedBy, Passing.events] using leading.last
    · simpa [readBy] using leading.behind (by rintro ⟨⟩)
    · simpa [readBy] using leading.holding
    · simpa [readBy] using leading.fitting

/-- Everything lies among everything. -/
theorem handedOver_all (events : List (KernelAgentEvent ν)) : HandedOver events events.length := by
  rintro earlier event later rfl _
  simp

/-- An event that is not handed over adds nothing. -/
theorem HandedOver.concat {events : List (KernelAgentEvent ν)} {event : KernelAgentEvent ν}
    {count : Nat} (handed : HandedOver events count) (plain : ¬ Handoff events event) :
    HandedOver (events ++ [event]) count := by
  intro earlier found later split handoff
  rcases Lib.concat_eq_append_cons split with ⟨rfl, rfl⟩ | ⟨between, inner⟩
  · exact absurd handoff plain
  · exact handed earlier found between inner handoff

/-- A log in which the source is asked in turn, and one more action. -/
theorem AsksInTurn.concat {log : List (Action ν)} {action : Action ν} (turn : AsksInTurn log)
    (now : action = .asked → HandedOver (readOf log) (returnedOf log).length) :
    AsksInTurn (log ++ [action]) := by
  intro before after split
  rcases Lib.concat_eq_append_cons split with ⟨rfl, rfl⟩ | ⟨between, inner⟩
  · exact now rfl
  · exact turn before between inner

/-- Nothing but asking needs a turn. -/
theorem AsksInTurn.other {log : List (Action ν)} {action : Action ν} (turn : AsksInTurn log)
    (other : action ≠ .asked) : AsksInTurn (log ++ [action]) :=
  turn.concat fun same => absurd same other

/-- The consumer receives what is handed over before the source is asked again. -/
structure Handing (state : Batching ν ε) (away : Passing ν) : Prop where
  turn : AsksInTurn state.log
  /-- Reading on is allowed only when nothing that is handed over is open. -/
  reading : state.prefetchAllowed = true → state.boundary = none →
    HandedOver (readOf state.log) (returnedOf state.log).length
  /-- What is handed over has left the buffer once a batch is on its way. -/
  sending : away ≠ .nothing → state.boundary = none →
    HandedOver (readOf state.log) ((returnedOf state.log).length + away.events.length)

/-- An output that continues the segment of the last one is not handed over. -/
theorem not_handoff_of_last {events : List (KernelAgentEvent ν)} {event : ModelOutputDelta}
    (last : (aheadOf events).last = some event.segmentId) : ¬ Handoff events (.output event) := by
  intro handoff
  obtain ⟨other, member, same⟩ := mem_of_last last
  exact handoff other member same

/-- On a paced source every move hands over in turn. -/
theorem Handing.move {source : Source ν ε} {state next : Batching ν ε} {away later : Passing ν}
    (paced : Paced source.events) (runs : Runs source state away) (leading : Leading state away)
    (handing : Handing state away) (move : Move source (state, away) (next, later)) :
    Handing next later := by
  obtain ⟨control, account, contained⟩ := runs
  obtain ⟨turn, mayRead, sending⟩ := handing
  cases move with
  | ask may =>
    obtain ⟨_, prefetch, unbounded, _⟩ := canRead_iff.mp may
    refine ⟨turn.concat fun _ => mayRead prefetch unbounded, ?_, ?_⟩
    · simpa [readBy, returnedBy] using mayRead
    · simpa [readBy, returnedBy] using sending
  | pause | settle | wait => exact ⟨turn, mayRead, sending⟩
  | finished | failed =>
    exact ⟨turn, fun _ bounded => absurd bounded (Option.some_ne_none _),
      fun _ bounded => absurd bounded (Option.some_ne_none _)⟩
  | refuse | holdEvent | holdOutput =>
    exact ⟨turn.other (by simp), fun _ bounded => absurd bounded (Option.some_ne_none _),
      fun _ bounded => absurd bounded (Option.some_ne_none _)⟩
  | @push _ _ event _ reading next fits joins =>
    obtain ⟨_, prefetch, unbounded, _⟩ := canRead_iff.mp (control.reading reading)
    have whole := account.open unbounded
    refine ⟨turn.other (by simp), ?_, ?_⟩
    · intro still _
      have same : state.lastOutputSegment = some event.segmentId := by
        by_contra other
        simp [other] at still
      have plain : ¬ Handoff (readOf state.log) (.output event) := by
        intro handoff
        obtain ⟨other, member, segment⟩ := mem_of_last (leading.last.trans same)
        exact handoff other (whole ▸ List.mem_append_left _ member) segment
      simpa [readBy, returnedBy] using (mayRead prefetch unbounded).concat plain
    · intro out _
      -- behind a batch on its way the pump reads ahead, where a paced source hands over nothing
      have loose := leading.sending prefetch out (by simp [unbounded])
      have small := leading.fitting (by simp [unbounded])
      have plain := paced _ event _ (next ▸ account.given) small fits loose
      simpa [readBy, returnedBy] using (sending out unbounded).concat plain
  | @take _ first rest filled =>
    refine ⟨turn, mayRead, fun _ unbounded => ?_⟩
    have whole := congrArg List.length (account.open unbounded)
    have all := handedOver_all (readOf state.log)
    rw [whole] at all
    simpa [Passing.events, eventsOf] using all
  | @unhold _ event bytes held empty =>
    refine ⟨turn, ?_, fun out => absurd rfl out⟩
    intro still _
    have same : state.lastOutputSegment = some event.segmentId := by
      by_contra other
      simp [other] at still
    obtain ⟨lost, split, dropped⟩ := account.kept
    simp only [Dropped, held] at dropped
    have whole : readOf state.log = returnedOf state.log ++ [.output event] := by
      simpa [empty, held, heldBy, dropped, Passing.events] using split
    have last := leading.last
    rw [Passing.events, List.append_nil, same] at last
    show HandedOver (readOf state.log) (returnedOf state.log).length
    rw [whole]
    exact (handedOver_all _).concat (not_handoff_of_last last)
  | @hand _ event held empty =>
    refine ⟨turn, fun still => absurd still Bool.false_ne_true, fun _ _ => ?_⟩
    obtain ⟨lost, split, dropped⟩ := account.kept
    simp only [Dropped, held] at dropped
    have whole : readOf state.log = returnedOf state.log ++ [.other event] := by
      simpa [empty, held, heldBy, dropped, Passing.events] using split
    have all := handedOver_all (readOf state.log)
    simpa [whole, Passing.events, eventsOf] using all
  | deliver =>
    refine ⟨turn.other (by simp), ?_, ?_⟩
    · simpa [readBy, returnedBy] using mayRead
    · simpa [readBy, returnedBy, Passing.events] using sending (by rintro ⟨⟩)
  | back =>
    refine ⟨turn.other (by simp), ?_, fun out => absurd rfl out⟩
    simpa [readBy, returnedBy, Passing.events] using sending (by rintro ⟨⟩)

/-- A generator that runs and hands over in turn. -/
structure Hands (source : Source ν ε) (state : Batching ν ε) (away : Passing ν) : Prop where
  runs : Runs source state away
  leading : Leading state away
  handing : Handing state away

/-- What holds before the moves holds after them. -/
theorem Hands.moves {source : Source ν ε} {scene next : Batching ν ε × Passing ν}
    (paced : Paced source.events) (hands : Hands source scene.1 scene.2)
    (moves : Moves source scene next) : Hands source next.1 next.2 := by
  induction moves with
  | refl => exact hands
  | tail _ move hypothesis =>
    obtain ⟨runs, leading, handing⟩ := hypothesis
    exact ⟨runs.moves (.single move), leading.move runs move, handing.move paced runs leading move⟩

/-- Before the first turn nothing has been read. -/
theorem hands_start (source : Source ν ε) : Hands source (.start source) .nothing := by
  refine ⟨runs_start source, ?_, ?_⟩
  · exact ⟨rfl, fun out => absurd rfl out, nofun, fun _ out => absurd rfl out, nofun, nofun⟩
  · refine ⟨?_, ?_, fun out => absurd rfl out⟩
    · intro before after split
      simp [start] at split
    · intro _ _ earlier event later split
      simp [start, readOf] at split

/-- Ending the generator asks nothing. -/
theorem AsksInTurn.ends {source : Source ν ε} {scene : Batching ν ε × Passing ν}
    {next : Batching ν ε} (turn : AsksInTurn scene.1.log) (ends : Ends source scene next) :
    AsksInTurn next.log := by
  have finished (state : Batching ν ε) (wanted : Except ε Unit → Outcome ε)
      (turn : AsksInTurn state.log) : AsksInTurn (state.finish source wanted).log := by
    unfold finish
    dsimp only
    split_ifs
    · exact turn
    · exact turn.concat nofun
  cases ends with
  | threw | completed | stopped => exact finished _ _ turn
  | unstarted => exact turn

/-- A reached state of a generator that hands over in turn. -/
structure Asks (source : Source ν ε) (state : Batching ν ε) : Prop where
  stands : Stands source state
  turn : AsksInTurn state.log
  hands : (∃ outcome, Over source state outcome) ∨ Hands source state (passing state)

/-- On a paced source every turn hands over in turn. -/
theorem Asks.turns {source : Source ν ε} {turn : Turn} {state next : Batching ν ε}
    (paced : Paced source.events) (asks : Asks source state)
    (taken : batchModelOutputEvents source turn state = some next) : Asks source next := by
  obtain ⟨stands, asked, ⟨outcome, past⟩ | hands⟩ := asks
  · obtain ⟨still, same⟩ := past.turn taken
    exact ⟨.inr ⟨outcome, still⟩, same ▸ asked, .inl ⟨outcome, still⟩⟩
  · have after := stands.turn taken
    rcases stands with ⟨runs, fresh⟩ | ⟨outcome, past⟩
    · rcases turn_leads runs.control.opened fresh taken with moves | ⟨last, moves, ends⟩
      · have later : Hands source next (passing next) := hands.moves paced moves
        exact ⟨after, later.handing.turn, .inr later⟩
      · have later := hands.moves paced moves
        exact ⟨after, later.handing.turn.ends ends, .inl (later.runs.ends ends)⟩
    · exact absurd past.main (hands.runs.control.running outcome)

/-- On a paced source the source is asked in turn, whatever the order of the turns. -/
theorem asks_in_turn {source : Source ν ε} (paced : Paced source.events) {turns : List Turn}
    {state : Batching ν ε} (reached : runBatching source turns = some state) :
    AsksInTurn state.log := by
  have start : Asks source (.start source) :=
    ⟨stands_start source, (hands_start source).handing.turn, .inr (hands_start source)⟩
  have asks := Lib.runTurns_invariant (Asks source) (fun _ _ _ asks taken => asks.turns paced taken)
    start reached
  exact asks.turn

/-- The generator waits for the source with nothing buffered. -/
def awaiting (remaining : List (KernelAgentEvent ν)) (last : Option JsString)
    (log : List (Action ν)) : Batching ν ε where
  remaining := remaining
  events := []
  bytes := 0
  boundary := none
  pump := .reading
  main := .waiting
  prefetchAllowed := true
  lastOutputSegment := last
  closed := false
  sourceFinished := false
  log := log

/-- A batch is out and the source is not asked. -/
def paused (remaining : List (KernelAgentEvent ν)) (batch : ModelOutputBatch ν)
    (last : Option JsString) (log : List (Action ν)) : Batching ν ε :=
  { awaiting remaining last log with
    pump := .idle, main := .yielded batch, prefetchAllowed := false }

/-- A batch is out and the source has been asked for more. -/
def reading (remaining : List (KernelAgentEvent ν)) (batch : ModelOutputBatch ν)
    (last : Option JsString) (log : List (Action ν)) : Batching ν ε :=
  { awaiting remaining last log with main := .yielded batch }

/-- The first question. -/
theorem next_start (source : Source ν ε) :
    batchModelOutputEvents source .next (.start source) =
      some (awaiting source.events none [.asked]) := by
  rfl

/-- The consumer comes back and the source is asked. -/
theorem back_paused (source : Source ν ε) (remaining : List (KernelAgentEvent ν))
    (batch : ModelOutputBatch ν) (last : Option JsString) (log : List (Action ν)) :
    batchModelOutputEvents source .back (paused remaining batch last log) =
      some (awaiting remaining last (log ++ [.returned batch] ++ [.asked])) := by
  rfl

/-- An event that is no output is yielded alone. -/
theorem other_awaiting (source : Source ν ε) (event : ν) (remaining : List (KernelAgentEvent ν))
    (last : Option JsString) (log : List (Action ν)) :
    Lib.runTurns (batchModelOutputEvents source)
      (awaiting (.other event :: remaining) last log) [.answer, .settle, .resume] =
        some (paused remaining (.event event) last
          (log ++ [.read (.other event)] ++ [.delivered (.event event)])) := by
  rfl

/-- An event that is no output is yielded alone behind the batch that is out. -/
theorem other_reading (source : Source ν ε) (event : ν) (remaining : List (KernelAgentEvent ν))
    (batch : ModelOutputBatch ν) (last : Option JsString) (log : List (Action ν)) :
    Lib.runTurns (batchModelOutputEvents source)
      (reading (.other event :: remaining) batch last log) [.answer, .settle, .back] =
        some (paused remaining (.event event) last
          (log ++ [.read (.other event)] ++ [.returned batch] ++ [.delivered (.event event)])) := by
  rfl

/-- The first output of a segment is yielded alone. -/
theorem output_awaiting (source : Source ν ε) {event : ModelOutputDelta}
    (small : event.size ≤ maxBytes) {last : Option JsString} (other : last ≠ some event.segmentId)
    (remaining : List (KernelAgentEvent ν)) (log : List (Action ν)) :
    Lib.runTurns (batchModelOutputEvents source)
      (awaiting (.output event :: remaining) last log) [.answer, .settle, .resume] =
        some (paused remaining (.output [event]) (some event.segmentId)
          (log ++ [.read (.output event)] ++ [.delivered (.output [event])])) := by
  have fits : ¬ maxBytes < event.size := Nat.not_lt_of_le small
  simp [Lib.runTurns_cons, batchModelOutputEvents, awaiting, paused, answer, receiveOutput, fits,
    Batching.push, wake, Main.notified, pumpLoop, canRead, other, settle, startPump, advance, emit,
    deliver]

/-- An output that continues a segment is yielded, and the source asked for more. -/
theorem continued_awaiting (source : Source ν ε) {event : ModelOutputDelta}
    (small : event.size ≤ maxBytes) (remaining : List (KernelAgentEvent ν))
    (log : List (Action ν)) :
    ∃ turns later, Lib.runTurns (batchModelOutputEvents source)
      (awaiting (.output event :: remaining) (some event.segmentId) log) turns =
        some (reading remaining (.output [event]) (some event.segmentId) later) ∧
      readOf later = readOf log ++ [.output event] ∧ returnedOf later = returnedOf log := by
  have fits : ¬ maxBytes < event.size := Nat.not_lt_of_le small
  have slot : 1 < maxEvents := by decide
  by_cases full : event.size < maxBytes
  · refine ⟨[.answer, .resume],
      log ++ [.read (.output event)] ++ [.asked] ++ [.delivered (.output [event])], ?_, ?_, ?_⟩
    · simp [Lib.runTurns_cons, batchModelOutputEvents, awaiting, reading, answer, receiveOutput,
        fits, full, Batching.push, wake, Main.notified, pumpLoop, canRead, startPump, advance, emit,
        deliver, slot]
    · simp [readOf, readBy]
    · simp [returnedOf, returnedBy]
  · -- the batch is full: the pump ends, and is started again once the batch has been taken
    have room : 0 < maxBytes := by decide
    have slots : 0 < maxEvents := by decide
    refine ⟨[.answer, .resume, .settle],
      log ++ [.read (.output event)] ++ [.delivered (.output [event])] ++ [.asked], ?_, ?_, ?_⟩
    · simp [Lib.runTurns_cons, batchModelOutputEvents, awaiting, reading, answer, receiveOutput,
        fits, full, Batching.push, wake, Main.notified, pumpLoop, canRead, startPump, advance, emit,
        deliver, settle, room, slots]
    · simp [readOf, readBy]
    · simp [returnedOf, returnedBy]

/-- An output of the segment of the last one is read behind the batch that is out. -/
theorem continued_reading (source : Source ν ε) {event : ModelOutputDelta}
    (small : event.size < maxBytes) (remaining : List (KernelAgentEvent ν))
    (batch : ModelOutputBatch ν) (log : List (Action ν)) :
    Lib.runTurns (batchModelOutputEvents source)
      (reading (.output event :: remaining) batch (some event.segmentId) log) [.answer, .back] =
        some (reading remaining (.output [event]) (some event.segmentId)
          (log ++ [.read (.output event)] ++ [.asked] ++ [.returned batch] ++
            [.delivered (.output [event])])) := by
  have fits : ¬ maxBytes < event.size := Nat.not_lt_of_le (Nat.le_of_lt small)
  have slot : 1 < maxEvents := by decide
  simp [Lib.runTurns_cons, batchModelOutputEvents, awaiting, reading, answer, receiveOutput, fits,
    small, Batching.push, wake, Main.notified, pumpLoop, canRead, startPump, advance, emit, deliver,
    slot]

/-- An output that fills the batch or is of another segment is read behind the batch that is out.
The consumer comes back from that batch, and the source is asked although the output has only just
been yielded. -/
theorem ended_reading (source : Source ν ε) {event : ModelOutputDelta}
    (small : event.size ≤ maxBytes) {last : Option JsString}
    (ended : last ≠ some event.segmentId ∨ event.size = maxBytes)
    (remaining : List (KernelAgentEvent ν)) (batch : ModelOutputBatch ν) (log : List (Action ν)) :
    Lib.runTurns (batchModelOutputEvents source)
      (reading (.output event :: remaining) batch last log) [.answer, .back, .settle] =
        some (reading remaining (.output [event]) (some event.segmentId)
          (log ++ [.read (.output event)] ++ [.returned batch] ++ [.delivered (.output [event])] ++
            [.asked])) := by
  have fits : ¬ maxBytes < event.size := Nat.not_lt_of_le small
  have room : 0 < maxBytes := by decide
  have slots : 0 < maxEvents := by decide
  rcases ended with other | full
  · simp [Lib.runTurns_cons, batchModelOutputEvents, awaiting, reading, answer, receiveOutput, fits,
      other, Batching.push, wake, Main.notified, pumpLoop, canRead, startPump, advance, emit,
      deliver, settle, room, slots]
  · simp [Lib.runTurns_cons, batchModelOutputEvents, awaiting, reading, answer, receiveOutput,
      full, Batching.push, wake, Main.notified, pumpLoop, canRead, startPump, advance, emit,
      deliver, settle, room, slots]

/-- A run takes the generator from a state to another one. -/
def Takes (source : Source ν ε) (state next : Batching ν ε) : Prop :=
  ∃ turns, Lib.runTurns (batchModelOutputEvents source) state turns = some next

/-- One run behind another. -/
theorem Takes.trans {source : Source ν ε} {state middle next : Batching ν ε}
    (first : Takes source state middle) (later : Takes source middle next) :
    Takes source state next := by
  obtain ⟨before, reached⟩ := first
  obtain ⟨after, rest⟩ := later
  exact ⟨before ++ after, Lib.runTurns_append_eq_some.mpr ⟨middle, reached, rest⟩⟩

/-- The consumer keeps up with the source: everything that was read has been delivered, the last
batch being out. The source has been asked for more when a reader may be ahead. -/
inductive KeepsUp (given remaining : List (KernelAgentEvent ν)) : Batching ν ε → Prop where
  /-- No reader is ahead. -/
  | paused {batch : ModelOutputBatch ν} {log : List (Action ν)}
      (level : (aheadOf given).loose = false) (read : readOf log = given)
      (returned : returnedOf log ++ eventsOf batch = given) :
    KeepsUp given remaining (paused remaining batch (aheadOf given).last log)
  /-- A reader may be ahead. -/
  | reading {batch : ModelOutputBatch ν} {log : List (Action ν)}
      (loose : (aheadOf given).loose = true) (read : readOf log = given)
      (returned : returnedOf log ++ eventsOf batch = given) :
    KeepsUp given remaining (reading remaining batch (aheadOf given).last log)

/-- A generator that waits for the source delivers the next event. -/
theorem awaiting_keepsUp (source : Source ν ε) {given remaining : List (KernelAgentEvent ν)}
    {event : KernelAgentEvent ν} {log : List (Action ν)} (fits : Fitting [event])
    (level : (aheadOf given).loose = false) (read : readOf log = given)
    (returned : returnedOf log = given) :
    ∃ next, Takes source (awaiting (event :: remaining) (aheadOf given).last log) next ∧
      KeepsUp (given ++ [event]) remaining next := by
  cases event with
  | other event =>
    have same : (aheadOf (given ++ [.other event])).last = (aheadOf given).last := by
      simp [Ahead.after]
    refine ⟨_, ⟨_, other_awaiting source event remaining _ log⟩, ?_⟩
    rw [← same]
    refine .paused (by simp [Ahead.after]) ?_ ?_
    · simpa [readOf, readBy] using read
    · simpa [returnedOf, returnedBy, eventsOf] using returned
  | output event =>
    have small := fits event List.mem_cons_self
    have same : (aheadOf (given ++ [.output event])).last = some event.segmentId := by
      simp [Ahead.after]
    by_cases continued : (aheadOf given).last = some event.segmentId
    · obtain ⟨turns, later, reached, readLater, returnedLater⟩ :=
        continued_awaiting source small remaining log
      refine ⟨_, ⟨turns, continued ▸ reached⟩, ?_⟩
      rw [continued, ← same]
      refine .reading (by simp [Ahead.after, continued]) ?_ ?_
      · rw [readLater, read]
      · simp [returnedLater, returned, eventsOf]
    · refine ⟨_, ⟨_, output_awaiting source small continued remaining log⟩, ?_⟩
      rw [← same]
      refine .paused (by simp [Ahead.after, level, continued]) ?_ ?_
      · simpa [readOf, readBy] using read
      · simpa [returnedOf, returnedBy, eventsOf] using returned

/-- A generator that keeps up delivers the next event. -/
theorem KeepsUp.step {source : Source ν ε} {given remaining : List (KernelAgentEvent ν)}
    {event : KernelAgentEvent ν} {state : Batching ν ε} (fits : Fitting [event])
    (keeps : KeepsUp given (event :: remaining) state) :
    ∃ next, Takes source state next ∧ KeepsUp (given ++ [event]) remaining next := by
  cases keeps with
  | @paused batch log level read returned =>
    have asked : readOf (log ++ [.returned batch] ++ [.asked]) = given := by
      simpa [readOf, readBy] using read
    have back : returnedOf (log ++ [.returned batch] ++ [.asked]) = given := by
      simpa [returnedOf, returnedBy] using returned
    obtain ⟨next, reached, later⟩ : ∃ next,
        Takes source (awaiting (event :: remaining) (aheadOf given).last
          (log ++ [.returned batch] ++ [.asked])) next ∧
        KeepsUp (given ++ [event]) remaining next :=
      awaiting_keepsUp source fits level asked back
    refine ⟨next, .trans ⟨[.back], ?_⟩ reached, later⟩
    rw [Lib.runTurns_cons, back_paused]
    rfl
  | @reading batch log loose read returned =>
    cases event with
    | other event =>
      have same : (aheadOf (given ++ [.other event])).last = (aheadOf given).last := by
        simp [Ahead.after]
      refine ⟨_, ⟨_, other_reading source event remaining batch _ log⟩, ?_⟩
      rw [← same]
      refine .paused (by simp [Ahead.after]) ?_ ?_
      · simpa [readOf, readBy] using read
      · simp [returnedOf, returnedBy, eventsOf, ← returned]
    | output event =>
      have small := fits event List.mem_cons_self
      have same : (aheadOf (given ++ [.output event])).last = some event.segmentId := by
        simp [Ahead.after]
      have ahead : (aheadOf (given ++ [.output event])).loose = true := by
        simp [Ahead.after, loose]
      by_cases ended : (aheadOf given).last ≠ some event.segmentId ∨ event.size = maxBytes
      · refine ⟨_, ⟨_, ended_reading source small ended remaining batch log⟩, ?_⟩
        rw [← same]
        refine .reading ahead ?_ ?_
        · simpa [readOf, readBy] using read
        · simp [returnedOf, returnedBy, eventsOf, ← returned]
      · have continued : (aheadOf given).last = some event.segmentId := by
          by_contra other
          exact ended (.inl other)
        have below : event.size < maxBytes :=
          Nat.lt_of_le_of_ne small fun full => ended (.inr full)
        refine ⟨_, ⟨_, continued ▸ continued_reading source below remaining batch log⟩, ?_⟩
        rw [continued, ← same]
        refine .reading ahead ?_ ?_
        · simpa [readOf, readBy] using read
        · simp [returnedOf, returnedBy, eventsOf, ← returned]

/-- From its start on, the generator delivers every event behind the other, as long as they fit. -/
theorem reaches_keepsUp (source : Source ν ε) {given remaining : List (KernelAgentEvent ν)}
    (split : source.events = given ++ remaining) (fits : Fitting given) (some : given ≠ []) :
    ∃ state, Takes source (.start source) state ∧ KeepsUp given remaining state := by
  induction given using List.reverseRecOn generalizing remaining with
  | nil => exact absurd rfl some
  | append_singleton earlier event hypothesis =>
    have whole : source.events = earlier ++ event :: remaining := by simpa using split
    have first : Fitting earlier := fun output member => fits output (List.mem_append_left _ member)
    have last : Fitting [event] := fun output member => fits output (List.mem_append_right _ member)
    by_cases none : earlier = []
    · subst none
      have asked : Takes source (.start source) (awaiting (event :: remaining) none [.asked]) := by
        refine ⟨[.next], ?_⟩
        rw [Lib.runTurns_cons, next_start, whole]
        rfl
      obtain ⟨state, reached, keeps⟩ := awaiting_keepsUp source last rfl
        (show readOf [.asked] = [] from rfl) rfl
      exact ⟨state, asked.trans reached, keeps⟩
    · obtain ⟨state, reached, keeps⟩ := hypothesis whole first none
      obtain ⟨next, later, after⟩ := keeps.step last
      exact ⟨next, reached.trans later, after⟩

/-- On a source that is not paced, some run asks for an event too early. -/
theorem asks_early {source : Source ν ε} (unpaced : ¬ Paced source.events) :
    ∃ turns state, runBatching source turns = some state ∧ ¬ AsksInTurn state.log := by
  simp only [Paced, not_forall, not_not] at unpaced
  obtain ⟨earlier, event, later, split, fitting, small, loose, handoff⟩ := unpaced
  have some : earlier ≠ [] := by
    rintro rfl
    cases loose
  obtain ⟨state, ⟨turns, reached⟩, keeps⟩ := reaches_keepsUp source split fitting some
  cases keeps with
  | paused level => rw [loose] at level; cases level
  | @reading batch log _ read returned =>
    have other : (aheadOf earlier).last ≠ .some event.segmentId :=
      fun same => not_handoff_of_last same handoff
    have ended := ended_reading source small (.inl other) later batch log
    have run := Lib.runTurns_append_eq_some.mpr ⟨_, reached, ended⟩
    refine ⟨_, _, run, ?_⟩
    -- the source is asked with the output yielded and the consumer not yet back
    intro turn
    have early := turn _ [] rfl earlier (.output event) [] ?_ handoff
    · have all : returnedOf (log ++ [.read (.output event)] ++ [.returned batch] ++
          [.delivered (.output [event])]) = earlier := by
        simpa [returnedOf, returnedBy] using returned
      rw [all] at early
      exact Nat.lt_irrefl _ early
    · simpa [readOf, readBy] using read

/-- What batching keeps in a state that a run reaches. -/
structure Keeps (source : Source ν ε) (state : Batching ν ε) : Prop where
  /-- The batches, flattened, are a prefix of what was read, and that of the source; each is
  bounded and of one segment. -/
  faithful : Faithful source state.log
  /-- At its end the generator has delivered everything, or everything in front of the error. -/
  complete : ∀ outcome, state.main = .ended outcome →
    Complete source (deliveredOf state.log) outcome
  /-- A waiting consumer does not wait for ever. -/
  progress : Waits state →
    (∃ turn, (batchModelOutputEvents source turn state).isSome) ∧
      ∀ turns final, Lib.runTurns (batchModelOutputEvents source) state turns = some final →
        effort state < turns.length →
          ∃ earlier middle, earlier <+: turns ∧
            Lib.runTurns (batchModelOutputEvents source) state earlier = some middle ∧
              ¬ Waits middle
  /-- The source is asked only when everything that is handed over has been handled. -/
  turn : AsksInTurn state.log

/-- Batching keeps the stream and the persistence handoff in every run exactly on the sources on
which no first output of a segment comes while a reader may be ahead; everything but the handoff it
keeps on every source. -/
theorem batching_keeps_iff (source : Source ν ε) :
    (∀ turns state, runBatching source turns = some state → Keeps source state) ↔
      Paced source.events := by
  constructor
  · intro keeps
    by_contra unpaced
    obtain ⟨turns, state, reached, early⟩ := asks_early unpaced
    exact early (keeps turns state reached).turn
  · intro paced turns state reached
    have stands := stands_of_run reached
    exact ⟨stands.faithful, fun _ => stands.complete, stands.progress, asks_in_turn paced reached⟩

/-- An output of a segment. -/
def sampleDelta (segmentId : String) (sequence : Int) : ModelOutputDelta :=
  ⟨js "r", js segmentId, sequence, js "x"⟩

/-- Two outputs of a segment, and the first of another one. -/
def sampleSource : Source Unit Unit where
  events := [.output (sampleDelta "a" 1), .output (sampleDelta "a" 2), .output (sampleDelta "b" 1)]
  ending := .ok ()
  release := .ok ()

/-- The first output of a segment is read while a batch of the segment before it is out. -/
def sampleTurns : List Turn :=
  [.next, .answer, .settle, .resume, .back, .answer, .resume, .answer, .settle, .back]

/-- What happens before the source is asked too early. -/
def sampleLog : List (Action Unit) :=
  [Action.asked, Action.read (.output (sampleDelta "a" 1)),
    Action.delivered (.output [sampleDelta "a" 1]), Action.returned (.output [sampleDelta "a" 1]),
    Action.asked, Action.read (.output (sampleDelta "a" 2)), Action.asked,
    Action.delivered (.output [sampleDelta "a" 2]), Action.read (.output (sampleDelta "b" 1)),
    Action.returned (.output [sampleDelta "a" 2])]

/-- The log of the sample run. -/
theorem sampleTurns_log : (runBatching sampleSource sampleTurns).map Batching.log =
    some (sampleLog ++ Action.asked :: [Action.delivered (.output [sampleDelta "b" 1])]) := by
  decide_cbv

/-- Coming back from the earlier batch, the consumer lets the source be asked before the first
output of the segment is delivered. -/
theorem asked_before_handoff :
    ¬ ∀ turns state, runBatching sampleSource turns = some state → Keeps sampleSource state := by
  intro keeps
  obtain ⟨state, reached, log⟩ := Option.map_eq_some_iff.mp sampleTurns_log
  have early := (keeps sampleTurns state reached).turn sampleLog _ log
    [.output (sampleDelta "a" 1), .output (sampleDelta "a" 2)] (.output (sampleDelta "b" 1)) [] rfl
  have first : Handoff [.output (sampleDelta "a" 1), .output (sampleDelta "a" 2)]
      (.output (sampleDelta "b" 1) : KernelAgentEvent Unit) := by
    simp only [Handoff, List.mem_cons, List.not_mem_nil, or_false]
    rintro other (rfl | rfl) <;> simp only [segmentOf] <;> decide
  exact absurd (early first) (by decide)

end Crewon.Verif.ModelOutputHandoff
