import Crewon.Lib.Trace
import Crewon.Lib.Watermarks
import Crewon.Store.RunOutput
import Crewon.Verif.RunLifecycle

/-!
# Output of a run is stored once and in order

The numbers of a segment that are stored ascend, and the head of the segment lies above them. A
batch appends entries above the head and raises the head over them, so along every run of
batches and other commits no number of a segment is stored twice. A batch that was taken in
leaves a receipt for every entry, and a batch whose entries all have receipts is replayed.
-/

namespace Crewon.Verif.RunOutput

open Crewon.Js Crewon.Checked Crewon.Domain Crewon.Lib Crewon.Replay Crewon.Store
open Crewon.Verif.RunLifecycle

/-- The contents of events. -/
abbrev contents (events : List RunLifecycleEvent) : List RunEventData := events.map (·.data)

/-- The contents of the events of entries. -/
abbrev offered (entries : List RunStreamAppendEntry) : List RunEventData :=
  entries.map (·.event.data)

section Entries

variable {runId segmentId : JsString} {mode : RunStreamMode} {lastSourceSequence : Int}
  {entries : List RunStreamAppendEntry}

/-- Validated entries belong to the segment of the batch and are numbered above the number that
was before them. -/
theorem validateRunOutputEntries_source
    (accepted : validateRunOutputEntries runId segmentId mode lastSourceSequence entries = .ok ())
    {entry : RunStreamAppendEntry} (member : entry ∈ entries) :
    ∃ number, streamSource entry.event.data = some (segmentId, number) ∧
      lastSourceSequence < number := by
  induction entries generalizing lastSourceSequence with
  | nil => exact absurd member List.not_mem_nil
  | cons first rest hypothesis =>
    rw [validateRunOutputEntries] at accepted
    cases named : streamSource first.event.data with
    | none => simp [named] at accepted
    | some origin =>
      obtain ⟨found, number⟩ := origin
      simp only [named, bind_eq_ok, exists_unit, rejectIf_eq_ok, not_or, not_not,
        Int.not_le] at accepted
      obtain ⟨⟨_, _, same, _, above, _⟩, later⟩ := accepted
      cases List.mem_cons.mp member with
      | inl here =>
        rw [here, named, same]
        exact ⟨number, rfl, above⟩
      | inr there =>
        obtain ⟨next, origin, beyond⟩ := hypothesis later there
        exact ⟨next, origin, Int.lt_trans above beyond⟩

/-- The numbers of validated entries ascend. -/
theorem validateRunOutputEntries_ascending
    (accepted : validateRunOutputEntries runId segmentId mode lastSourceSequence entries = .ok ())
    (key : JsString) : (numbersOf streamSource key (offered entries)).Pairwise (· < ·) := by
  induction entries generalizing lastSourceSequence with
  | nil => exact List.Pairwise.nil
  | cons first rest hypothesis =>
    rw [validateRunOutputEntries] at accepted
    cases named : streamSource first.event.data with
    | none => simp [named] at accepted
    | some origin =>
      obtain ⟨found, number⟩ := origin
      simp only [named, bind_eq_ok, exists_unit, rejectIf_eq_ok] at accepted
      have later := accepted.2
      apply ascending_cons (hypothesis later)
      intro own numbered next there
      obtain ⟨data, member, origin⟩ := mem_numbersOf.mp there
      obtain ⟨entry, entered, rfl⟩ := List.mem_map.mp member
      obtain ⟨other, known, above⟩ := validateRunOutputEntries_source later entered
      rw [named, Option.some.injEq, Prod.mk.injEq] at numbered
      rw [known, Option.some.injEq, Prod.mk.injEq] at origin
      rw [← origin.2, ← numbered.2]
      exact above

/-- The largest number of a batch: that of its last entry. -/
def lastNumber (entries : List RunStreamAppendEntry) : Int :=
  ((entries.getLast?.bind fun entry => streamSource entry.event.data).map Prod.snd).getD 0

/-- No number of validated entries is larger than the last one. -/
theorem validateRunOutputEntries_last
    (accepted : validateRunOutputEntries runId segmentId mode lastSourceSequence entries = .ok ())
    {entry : RunStreamAppendEntry} (member : entry ∈ entries) {key : JsString} {number : Int}
    (origin : streamSource entry.event.data = some (key, number)) :
    number ≤ lastNumber entries := by
  induction entries generalizing lastSourceSequence entry key number with
  | nil => exact absurd member List.not_mem_nil
  | cons first rest hypothesis =>
    rw [validateRunOutputEntries] at accepted
    cases named : streamSource first.event.data with
    | none => simp [named] at accepted
    | some source =>
      simp only [named, bind_eq_ok, exists_unit, rejectIf_eq_ok] at accepted
      have later := accepted.2
      cases rest with
      | nil =>
        rw [List.mem_singleton] at member
        rw [← member, origin] at named
        simp [lastNumber, ← member, origin]
      | cons second rest =>
        have last : lastNumber (first :: second :: rest) = lastNumber (second :: rest) := by
          simp [lastNumber]
        rw [last]
        cases List.mem_cons.mp member with
        | inl here =>
          rw [here, named, Option.some.injEq] at origin
          obtain ⟨next, there, above⟩ :=
            validateRunOutputEntries_source later List.mem_cons_self
          have below := hypothesis later List.mem_cons_self there
          rw [origin] at above
          exact Int.le_trans (Int.le_of_lt above) below
        | inr there => exact hypothesis later there origin

end Entries

section Plans

variable {hash : JsString → JsString} {current : RunState} {head : Int}
  {progress planned : RunOutputProgress}
  {pairs : List (RunStreamAppendEntry × Option RunOutputReceipt)}

/-- What planning entries appends: some of them in order, each numbered above the head. -/
structure Planned (head : Int) (offers : List RunEventData) (new : List RunLifecycleEvent) :
    Prop where
  taken : (contents new).Sublist offers
  above : ∀ event ∈ new, ∀ key number, streamSource event.data = some (key, number) →
    head < number

/-- What the plan of a batch does to the run of the batch. -/
structure PlanOf (current : RunState) (head : Int) (input : AppendRunStreamEventsInput)
    (prior : List (Option RunOutputReceipt)) (plan : RunOutputAppendPlan) : Prop where
  owner : current.tenantId = input.tenantId
  reduced : replayFrom reduceRunLifecycleEvent (some current) plan.appendedEvents =
    .ok (some plan.state)
  planned : Planned head (offered input.entries) plan.appendedEvents
  receipts : plan.receipts.length = input.entries.length
  replayed : (∀ receipt ∈ prior, receipt.isSome = true) →
    plan.appendedEvents = [] ∧ plan.receipts.map some = prior

end Plans

section Batches

variable {hash : JsString → JsString} {parse : JsString → Option Int}
  {input : AppendRunStreamEventsInput} {mode : RunStreamMode} {reading : Int}
  {before after : RunOutputStore}

end Batches

section Tables

variable {store : RunOutputStore} {runId other : JsString} {state : RunState}
  {new : List RunLifecycleEvent} {record : Option (JsString × QueueRecord RunEventsMessage)}

@[simp] theorem find_storeEvents :
    (store.storeEvents runId state new record).runs.find other =
      if other = runId ∧ new ≠ [] then some state else store.runs.find other := by
  cases new with
  | nil => simp [RunOutputStore.storeEvents]
  | cons first rest => simp [RunOutputStore.storeEvents, OrderedMap.find_set]

@[simp] theorem eventsOf_storeEvents :
    (store.storeEvents runId state new record).eventsOf other =
      if other = runId then store.eventsOf runId ++ new else store.eventsOf other := by
  cases new with
  | nil =>
    by_cases same : other = runId
    · simp [RunOutputStore.storeEvents, same]
    · simp [RunOutputStore.storeEvents, same]
  | cons first rest =>
    by_cases same : other = runId
    · simp [RunOutputStore.storeEvents, RunOutputStore.eventsOf, same]
    · simp [RunOutputStore.storeEvents, RunOutputStore.eventsOf, OrderedMap.find_set_of_ne, same]

@[simp] theorem receipts_storeEvents :
    (store.storeEvents runId state new record).runOutputReceipts = store.runOutputReceipts := by
  cases new <;> rfl

@[simp] theorem heads_storeEvents :
    (store.storeEvents runId state new record).runOutputHeads = store.runOutputHeads := by
  cases new <;> rfl

@[simp] theorem headOf_storeEvents (tenantId segmentId : JsString) :
    (store.storeEvents runId state new record).headOf tenantId other segmentId =
      store.headOf tenantId other segmentId := by
  rw [RunOutputStore.headOf, RunOutputStore.headOf, heads_storeEvents]

variable {input : AppendRunStreamEventsInput} {receipts : List RunOutputReceipt}

/-- The heads behind a batch. -/
theorem headOf_storeReceipts (tenantId segmentId : JsString) :
    (store.storeReceipts input receipts).headOf tenantId runId segmentId =
      if runOutputHeadKey tenantId runId segmentId =
          runOutputHeadKey input.tenantId input.runId (batchSegment input) then
        max (store.headOf input.tenantId input.runId (batchSegment input))
          (lastNumber input.entries)
      else store.headOf tenantId runId segmentId := by
  rw [RunOutputStore.headOf]
  simp only [RunOutputStore.storeReceipts, OrderedMap.find_set]
  split
  · rfl
  · rfl

/-- A batch lowers no head. -/
theorem headOf_le_storeReceipts (tenantId segmentId : JsString) :
    store.headOf tenantId runId segmentId ≤
      (store.storeReceipts input receipts).headOf tenantId runId segmentId := by
  rw [headOf_storeReceipts]
  split
  · rename_i same
    have here : store.headOf tenantId runId segmentId =
        store.headOf input.tenantId input.runId (batchSegment input) := by
      rw [RunOutputStore.headOf, same, RunOutputStore.headOf]
    omega
  · exact Int.le_refl _

/-- Events with receipts behind them lower no head. -/
theorem headOf_le_batch (tenantId segmentId : JsString) :
    store.headOf tenantId other segmentId ≤
      ((store.storeEvents runId state new record).storeReceipts input receipts).headOf tenantId
        other segmentId := by
  have rises : (store.storeEvents runId state new record).headOf tenantId other segmentId ≤
      ((store.storeEvents runId state new record).storeReceipts input receipts).headOf tenantId
        other segmentId := headOf_le_storeReceipts tenantId segmentId
  rwa [headOf_storeEvents] at rises

end Tables

section Invariant

/-- The log of a run replays to its state, and the numbers of every segment ascend below its
head. -/
structure InOrder (store : RunOutputStore) (runId : JsString) : Prop where
  replayed : replayFrom reduceRunLifecycleEvent none (store.eventsOf runId) =
    .ok (store.runs.find runId)
  marked : ∀ state, store.runs.find runId = some state →
    Marked streamSource (contents (store.eventsOf runId)) (store.headOf state.tenantId runId)

variable {before after : RunOutputStore} {runId : JsString} {state : RunState}
  {new : List RunLifecycleEvent}

/-- A run whose state and log stay is in order as long as no head falls. -/
theorem InOrder.congr (held : InOrder before runId)
    (run : after.runs.find runId = before.runs.find runId)
    (log : after.eventsOf runId = before.eventsOf runId)
    (rises : ∀ tenantId segmentId,
      before.headOf tenantId runId segmentId ≤ after.headOf tenantId runId segmentId) :
    InOrder after runId := by
  refine ⟨by rw [run, log]; exact held.replayed, ?_⟩
  intro state present
  rw [run] at present
  rw [log]
  exact (held.marked state present).raise (rises state.tenantId)

/-- The heads of the tenant that accepted events belong to lie above what is stored. -/
theorem InOrder.marked_before (held : InOrder before runId)
    (reduced : replayFrom reduceRunLifecycleEvent (before.runs.find runId) new =
      .ok (some state)) :
    Marked streamSource (contents (before.eventsOf runId)) (before.headOf state.tenantId runId) := by
  cases present : before.runs.find runId with
  | none =>
    -- a log that leads to no state is empty
    have replayed := held.replayed
    rw [present] at replayed
    cases log : before.eventsOf runId with
    | nil => exact Marked.nil
    | cons event rest =>
      simp only [log, replayFrom, bind_eq_ok] at replayed
      obtain ⟨next, _, later⟩ := replayed
      cases replayFrom_isSome later rfl
  | some current =>
    rw [present] at reduced
    rw [(identity_kept reduced).2]
    exact held.marked current present

/-- Accepted events keep a run in order when its numbers stay below the heads. -/
theorem InOrder.extend (held : InOrder before runId)
    (reduced : replayFrom reduceRunLifecycleEvent (before.runs.find runId) new =
      .ok (some state))
    (run : after.runs.find runId = some state)
    (log : after.eventsOf runId = before.eventsOf runId ++ new)
    (grows : Marked streamSource (contents (before.eventsOf runId))
        (before.headOf state.tenantId runId) →
      Marked streamSource (contents (before.eventsOf runId) ++ contents new)
        (after.headOf state.tenantId runId)) :
    InOrder after runId := by
  refine ⟨?_, ?_⟩
  · rw [log, replayFrom_append, held.replayed, ok_bind, reduced, run]
  · intro other present
    rw [run, Option.some.injEq] at present
    rw [log, contents, List.map_append, ← present]
    exact grows (held.marked_before reduced)

/-- Every run of a store is in order. -/
def Ordered (store : RunOutputStore) : Prop := ∀ runId, InOrder store runId

/-- Stored events that were accepted by their run. -/
theorem find_stored {record : Option (JsString × QueueRecord RunEventsMessage)}
    (reduced : replayFrom reduceRunLifecycleEvent (before.runs.find runId) new =
      .ok (some state)) :
    (before.storeEvents runId state new record).runs.find runId = some state := by
  rw [find_storeEvents]
  cases new with
  | nil =>
    rw [if_neg (by simp)]
    exact Except.ok.inj reduced
  | cons first rest => rw [if_pos ⟨rfl, List.cons_ne_nil first rest⟩]

/-- Another commit keeps every run in order. -/
theorem Ordered.commit (ordered : Ordered before)
    (reduced : replayFrom reduceRunLifecycleEvent (before.runs.find runId) new =
      .ok (some state))
    (sourceless : ∀ event ∈ new, streamSource event.data = none) :
    Ordered (before.storeEvents runId state new none) := by
  intro other
  by_cases same : other = runId
  · subst same
    refine (ordered other).extend reduced (find_stored reduced) (by simp) ?_
    intro marked
    have kept : (before.storeEvents other state new none).headOf state.tenantId other =
        before.headOf state.tenantId other := by
      funext segmentId
      exact headOf_storeEvents state.tenantId segmentId
    rw [kept]
    apply marked.append_sourceless
    intro data member
    obtain ⟨event, there, rfl⟩ := List.mem_map.mp member
    exact sourceless event there
  · refine (ordered other).congr (by simp [same]) (by simp [same]) ?_
    intro tenantId segmentId
    rw [headOf_storeEvents]

/-- The numbers that a batch appends lie between the head of its segment and its last number. -/
theorem Planned.between {input : AppendRunStreamEventsInput} {mode : RunStreamMode} {head : Int}
    (planned : Planned head (offered input.entries) new)
    (valid : validateRunOutputEntries input.runId (batchSegment input) mode 0 input.entries =
      .ok ())
    {segmentId : JsString} {number : Int}
    (member : number ∈ numbersOf streamSource segmentId (contents new)) :
    segmentId = batchSegment input ∧ head < number ∧ number ≤ lastNumber input.entries := by
  obtain ⟨data, there, origin⟩ := mem_numbersOf.mp member
  obtain ⟨event, appended, rfl⟩ := List.mem_map.mp there
  obtain ⟨entry, entered, same⟩ := List.mem_map.mp (planned.taken.subset there)
  rw [← same] at origin
  obtain ⟨own, named, _⟩ := validateRunOutputEntries_source valid entered
  have segment : batchSegment input = segmentId := by
    rw [named, Option.some.injEq, Prod.mk.injEq] at origin
    exact origin.1
  refine ⟨segment.symm, ?_, validateRunOutputEntries_last valid entered origin⟩
  rw [same] at origin
  exact planned.above event appended segmentId number origin

/-- A batch that was taken in keeps every run in order. -/
theorem Ordered.append {input : AppendRunStreamEventsInput} {mode : RunStreamMode}
    {current : RunState} {prior : List (Option RunOutputReceipt)} {plan : RunOutputAppendPlan}
    {record : Option (JsString × QueueRecord RunEventsMessage)} (ordered : Ordered before)
    (valid : validateRunOutputEntries input.runId (batchSegment input) mode 0 input.entries =
      .ok ())
    (present : before.runs.find input.runId = some current)
    (plans : PlanOf current (before.headOf input.tenantId input.runId (batchSegment input)) input
      prior plan) :
    Ordered ((before.storeEvents input.runId plan.state plan.appendedEvents record).storeReceipts
      input plan.receipts) := by
  intro other
  by_cases same : other = input.runId
  · subst same
    have reduced := plans.reduced
    rw [← present] at reduced
    refine (ordered input.runId).extend reduced (find_stored reduced) ?_ ?_
    · show (before.storeEvents input.runId plan.state plan.appendedEvents record).eventsOf
        input.runId = before.eventsOf input.runId ++ plan.appendedEvents
      simp
    · intro marked
      have owner : plan.state.tenantId = input.tenantId :=
        (identity_kept plans.reduced).2.trans plans.owner
      rw [owner] at marked ⊢
      apply marked.append
      · intro segmentId
        exact ascending_sublist plans.planned.taken
          (validateRunOutputEntries_ascending valid segmentId)
      · intro segmentId number member
        obtain ⟨segment, above, _⟩ := plans.planned.between valid member
        rw [segment]
        exact above
      · intro segmentId number member
        obtain ⟨segment, _, below⟩ := plans.planned.between valid member
        rw [headOf_storeReceipts, segment, if_pos rfl]
        omega
      · exact headOf_le_batch input.tenantId
  · refine (ordered other).congr ?_ ?_ headOf_le_batch
    · show (before.storeEvents input.runId plan.state plan.appendedEvents record).runs.find other =
        before.runs.find other
      simp [same]
    · show (before.storeEvents input.runId plan.state plan.appendedEvents record).eventsOf other =
        before.eventsOf other
      simp [same]

end Invariant

section Resubmission

variable {hash : JsString → JsString} {before after store : RunOutputStore}
  {input : AppendRunStreamEventsInput}

/-- The store has taken a batch in: every entry has a receipt, and the head of the segment lies
above none of them. -/
structure Received (input : AppendRunStreamEventsInput) (store : RunOutputStore) : Prop where
  receipts : ∀ entry ∈ input.entries,
    (store.runOutputReceipts.find (runOutputKey input.tenantId input.runId entry)).isSome = true
  raised : ∃ head, store.runOutputHeads.find
      (runOutputHeadKey input.tenantId input.runId (batchSegment input)) = some head ∧
    lastNumber input.entries ≤ head

/-- No receipt is lost between two stores, and no head falls. -/
structure Keeps (before after : RunOutputStore) : Prop where
  receipts : ∀ key, (before.runOutputReceipts.find key).isSome = true →
    (after.runOutputReceipts.find key).isSome = true
  heads : ∀ key head, before.runOutputHeads.find key = some head →
    ∃ higher, after.runOutputHeads.find key = some higher ∧ head ≤ higher

/-- A store keeps what it holds. -/
theorem Keeps.of_eq (receipts : after.runOutputReceipts = before.runOutputReceipts)
    (heads : after.runOutputHeads = before.runOutputHeads) : Keeps before after := by
  refine ⟨?_, ?_⟩
  · intro key present
    rw [receipts]
    exact present
  · intro key head present
    rw [heads]
    exact ⟨head, present, Int.le_refl head⟩

/-- What is kept twice is kept. -/
theorem Keeps.trans {middle : RunOutputStore} (first : Keeps before middle)
    (second : Keeps middle after) : Keeps before after := by
  refine ⟨fun key present => second.receipts key (first.receipts key present), ?_⟩
  intro key head present
  obtain ⟨higher, found, above⟩ := first.heads key head present
  obtain ⟨highest, last, higherAbove⟩ := second.heads key higher found
  exact ⟨highest, last, Int.le_trans above higherAbove⟩

/-- The receipts of a batch cover no others. -/
theorem keeps_storeReceipts {receipts : List RunOutputReceipt} :
    Keeps store (store.storeReceipts input receipts) := by
  refine ⟨?_, ?_⟩
  · intro key present
    exact OrderedMap.find_setAll_isSome.mpr (.inl present)
  · intro key head present
    by_cases same : key = runOutputHeadKey input.tenantId input.runId (batchSegment input)
    · have current : store.headOf input.tenantId input.runId (batchSegment input) = head := by
        rw [RunOutputStore.headOf, ← same, present, Option.getD_some]
      refine ⟨max head (lastNumber input.entries), ?_, by omega⟩
      simp [RunOutputStore.storeReceipts, same, current, lastNumber]
    · refine ⟨head, ?_, Int.le_refl head⟩
      rw [← present]
      exact OrderedMap.find_set_of_ne same

/-- What was received stays received. -/
theorem Received.keep (received : Received input before) (keeps : Keeps before after) :
    Received input after := by
  obtain ⟨head, present, below⟩ := received.raised
  obtain ⟨higher, found, above⟩ := keeps.heads _ head present
  refine ⟨?_, higher, found, by omega⟩
  intro entry member
  exact keeps.receipts _ (received.receipts entry member)

/-- Entries with receipts are looked up. -/
theorem priorReceipts_known {entries : List RunStreamAppendEntry}
    {prior : List (Option RunOutputReceipt)}
    (known : ∀ entry ∈ entries, (store.runOutputReceipts.find
      (runOutputKey input.tenantId input.runId entry)).isSome = true)
    (accepted : store.priorReceipts hash input entries = .ok prior) :
    prior = entries.map fun entry =>
      store.runOutputReceipts.find (runOutputKey input.tenantId input.runId entry) := by
  induction entries generalizing prior with
  | nil => exact (Except.ok.inj accepted).symm
  | cons entry rest hypothesis =>
    obtain ⟨compact, found⟩ := Option.isSome_iff_exists.mp (known entry List.mem_cons_self)
    simp only [RunOutputStore.priorReceipts, RunOutputStore.priorReceipt, found, bind_eq_ok,
      pure_eq_ok, Except.ok.injEq, exists_eq_left'] at accepted
    obtain ⟨later, looked, rfl⟩ := accepted
    have rest := hypothesis (fun other member => known other (List.mem_cons_of_mem entry member))
      looked
    rw [rest, List.map_cons, found]

/-- A received batch is replayed, and replaying it changes nothing. -/
theorem Received.replayed (received : Received input store) {current : RunState} {head : Int}
    {prior : List (Option RunOutputReceipt)} {plan : RunOutputAppendPlan}
    {record : Option (JsString × QueueRecord RunEventsMessage)}
    (looked : store.priorReceipts hash input input.entries = .ok prior)
    (plans : PlanOf current head input prior plan) :
    plan.appendedEvents = [] ∧
      (store.storeEvents input.runId plan.state plan.appendedEvents record).storeReceipts input
        plan.receipts = store := by
  have priors := priorReceipts_known received.receipts looked
  have every : ∀ receipt ∈ prior, receipt.isSome = true := by
    intro receipt member
    rw [priors] at member
    obtain ⟨entry, there, rfl⟩ := List.mem_map.mp member
    exact received.receipts entry there
  obtain ⟨nothing, receipts⟩ := plans.replayed every
  refine ⟨nothing, ?_⟩
  rw [nothing]
  show store.storeReceipts input plan.receipts = store
  have same : store.runOutputReceipts.setAll
      ((input.entries.map (runOutputKey input.tenantId input.runId)).zip plan.receipts) =
        store.runOutputReceipts := by
    apply OrderedMap.setAll_of_find
    intro pair member
    obtain ⟨place, found⟩ := List.getElem?_of_mem member
    obtain ⟨key, receipt⟩ := List.getElem?_zip_eq_some.mp found
    obtain ⟨entry, there, keyed⟩ := Option.map_eq_some_iff.mp (List.getElem?_map ▸ key)
    have known : (plan.receipts.map some)[place]? = some (some pair.2) := by
      rw [List.getElem?_map, receipt, Option.map_some]
    rw [receipts, priors, List.getElem?_map, there, Option.map_some, Option.some.injEq] at known
    rw [← keyed]
    exact known
  obtain ⟨high, present, below⟩ := received.raised
  have raised : store.runOutputHeads.set
      (runOutputHeadKey input.tenantId input.runId (batchSegment input))
      (max (store.headOf input.tenantId input.runId (batchSegment input))
        (lastNumber input.entries)) = store.runOutputHeads := by
    apply OrderedMap.set_of_find
    rw [RunOutputStore.headOf, present, Option.getD_some, Int.max_eq_left below]
  unfold RunOutputStore.storeReceipts
  show { store with
    runOutputReceipts := store.runOutputReceipts.setAll
      ((input.entries.map (runOutputKey input.tenantId input.runId)).zip plan.receipts)
    runOutputHeads := store.runOutputHeads.set
      (runOutputHeadKey input.tenantId input.runId (batchSegment input))
      (max (store.headOf input.tenantId input.runId (batchSegment input))
        (lastNumber input.entries)) } = store
  rw [same, raised]

end Resubmission

section Runs

variable {hash : JsString → JsString} {parse : JsString → Option Int}
  {store : RunOutputStore} {operation : RunOutputOperation}

/-- What an operation can do to the tables of runs. -/
inductive Effect (before : RunOutputStore) : RunOutputStore → Prop where
  | nothing : Effect before before
  | appended {input : AppendRunStreamEventsInput} {mode : RunStreamMode} {current : RunState}
      {prior : List (Option RunOutputReceipt)} {plan : RunOutputAppendPlan}
      {record : Option (JsString × QueueRecord RunEventsMessage)}
      (valid : validateRunOutputEntries input.runId (batchSegment input) mode 0 input.entries =
        .ok ())
      (present : before.runs.find input.runId = some current)
      (plans : PlanOf current (before.headOf input.tenantId input.runId (batchSegment input))
        input prior plan) :
      Effect before ((before.storeEvents input.runId plan.state plan.appendedEvents
        record).storeReceipts input plan.receipts)
  | committed {runId : JsString} {events : List RunLifecycleEvent} {next : RunState}
      (reduced : replayFrom reduceRunLifecycleEvent (before.runs.find runId) events =
        .ok (some next))
      (sourceless : ∀ event ∈ events, streamSource event.data = none) :
      Effect before (before.storeEvents runId next events none)
  | elsewhere {after : RunOutputStore} (runs : after.runs = before.runs)
      (events : after.events = before.events)
      (receipts : after.runOutputReceipts = before.runOutputReceipts)
      (heads : after.runOutputHeads = before.runOutputHeads) : Effect before after

/-- Every effect of an operation keeps every run in order. -/
theorem Effect.ordered {before after : RunOutputStore} (effect : Effect before after)
    (ordered : Ordered before) : Ordered after := by
  cases effect with
  | nothing => exact ordered
  | appended valid present plans => exact ordered.append valid present plans
  | committed reduced sourceless => exact ordered.commit reduced sourceless
  | elsewhere runs events receipts heads =>
    intro runId
    apply (ordered runId).congr
    · rw [runs]
    · rw [RunOutputStore.eventsOf, events, RunOutputStore.eventsOf]
    · intro tenantId segmentId
      rw [RunOutputStore.headOf, RunOutputStore.headOf, heads]

/-- No effect of an operation loses a receipt or lowers a head. -/
theorem Effect.keeps {before after : RunOutputStore} (effect : Effect before after) :
    Keeps before after := by
  cases effect with
  | nothing => exact Keeps.of_eq rfl rfl
  | appended valid present plans =>
    exact (Keeps.of_eq receipts_storeEvents heads_storeEvents).trans keeps_storeReceipts
  | committed reduced sourceless => exact Keeps.of_eq receipts_storeEvents heads_storeEvents
  | elsewhere runs events receipts heads => exact Keeps.of_eq receipts heads

/-- A performed operation on runs. -/
abbrev RunStep := Step RunOutputOperation Failure RunOutputStore RunOutputOutcome

/-- What a batch leaves when it was taken in. -/
def LeavesReceived (step : RunStep) (store : RunOutputStore) : Prop :=
  match step.operation with
  | .append input _ _ => step.Succeeds → Received input store
  | _ => True

/-- The stored events of a run with their output. -/
structure StoredOutput (log : List RunLifecycleEvent) (lastSequence : Int) : Prop where
  /-- No number of a segment is the source of two events. -/
  once : ((contents log).filterMap streamSource).Nodup
  /-- The numbers of every segment ascend. -/
  ascending : ∀ segmentId, (numbersOf streamSource segmentId (contents log)).Pairwise (· < ·)
  /-- The events are numbered from one on without gaps. -/
  numbered : log.map (·.sequence) =
    (List.range log.length).map fun (place : Nat) => (place : Int) + 1
  /-- The run ends with the last one. -/
  last : lastSequence = log.length

/-- A run in order has its output stored once and in order. -/
theorem InOrder.stored {runId : JsString} (held : InOrder store runId) :
    StoredOutput (store.eventsOf runId)
      (((store.runs.find runId).map (·.lastSequence)).getD 0) := by
  have replayed := held.replayed
  cases present : store.runs.find runId with
  | none =>
    rw [present] at replayed
    cases log : store.eventsOf runId with
    | nil => exact ⟨List.nodup_nil, fun _ => List.Pairwise.nil, rfl, rfl⟩
    | cons event rest =>
      simp only [log, replayFrom, bind_eq_ok] at replayed
      obtain ⟨next, _, later⟩ := replayed
      cases replayFrom_isSome later rfl
  | some state =>
    rw [present] at replayed
    have marked := held.marked state present
    exact ⟨marked.distinct, marked.ascending, reaches_numbered replayed,
      (reaches_counts replayed).2.1⟩

/-- What a step left is kept by every further operation. -/
theorem LeavesReceived.keep {step : RunStep} {before after : RunOutputStore}
    (left : LeavesReceived step before) (keeps : Keeps before after) :
    LeavesReceived step after := by
  obtain ⟨operation, start, outcome, final⟩ := step
  cases operation with
  | append input mode reading => exact fun succeeds => (left succeeds).keep keeps
  | commit runId events sourceless => trivial
  | elsewhere idempotency outbox retiredOutboxIds workItems modelHistory => trivial

/-- A batch that is sent again is received when the first one is. -/
theorem Received.again {input again : AppendRunStreamEventsInput}
    (received : Received input store) (tenant : again.tenantId = input.tenantId)
    (run : again.runId = input.runId) (entries : again.entries = input.entries) :
    Received again store := by
  have segment : batchSegment again = batchSegment input := by
    rw [batchSegment, entries, batchSegment]
  refine ⟨?_, ?_⟩
  · rw [tenant, run, entries]
    exact received.receipts
  · rw [tenant, run, segment, entries]
    exact received.raised

variable (hash parse)

end Runs

end Crewon.Verif.RunOutput
