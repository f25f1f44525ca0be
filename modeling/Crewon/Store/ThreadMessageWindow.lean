import Crewon.Store.ThreadStore

/-!
# Windows of the messages of a thread

A thread is read in windows from its newest message on. A window holds the visible messages next
to a position, as many as its count and its bytes allow, and says on which sides there are more.
-/

namespace Crewon.Store

open Crewon.Js Crewon.Checked Crewon.Domain Crewon.Lib

/-- The most bytes that the messages of a window are stored in. -/
def messageWindowByteLimit : Nat := 4 * 1024 * 1024

/-- On which side of a position a window lies. -/
inductive WindowDirection where
  | older
  | newer
deriving DecidableEq

/-- A position next to which a window lies. It is exclusive. -/
structure ThreadMessageWindowPosition where
  direction : WindowDirection
  messageSequence : Int
  threadRevision : Int
deriving DecidableEq

/-- What a window shows. -/
inductive ThreadMessageWindowView where
  | messages
  | transcript
deriving DecidableEq

/-- A request for a window. Without a position it is for the newest messages. -/
structure ThreadMessageWindowQuery where
  tenantId : JsString
  spaceId : JsString
  threadId : JsString
  position : Option ThreadMessageWindowPosition
  limit : Int
  view : Option ThreadMessageWindowView
deriving DecidableEq

/-- Where the run of a message was found. -/
inductive MessageRunSource where
  | turnStartReceipt
  | messageCompletedEvent
  | unassociated
deriving DecidableEq

/-- The run of a message. -/
structure ThreadMessageRunBinding where
  messageId : JsString
  runId : Option JsString
  source : MessageRunSource
deriving DecidableEq

/-- A window, its messages in ascending order. The runs of its messages are in a transcript only. -/
structure ThreadMessageWindow where
  thread : ThreadState
  messages : List MessageRecord
  hasOlder : Bool
  hasNewer : Bool
  runBindings : Option (List ThreadMessageRunBinding)
deriving DecidableEq

/-- The checks of a request. -/
def validateMessageWindowQuery (query : ThreadMessageWindowQuery) : Checked Unit := do
  validateThreadLocator ⟨query.tenantId, query.threadId⟩
  requireNonEmpty query.spaceId (runStoreError "space_id_invalid")
  rejectIf (isSafeInteger query.limit = false ∨ query.limit < 1 ∨ 100 < query.limit)
    (runStoreError "message_window_limit_invalid")
  whenPresent query.position fun position =>
    rejectIf (isPositiveInteger position.messageSequence = false ∨
        isPositiveInteger position.threadRevision = false)
      (runStoreError "message_window_position_invalid")

/-- The thread that a request is for, unless it is not there or has changed since. -/
def assertMessageWindowThread (thread : Option ThreadState) (query : ThreadMessageWindowQuery) :
    Checked ThreadState :=
  match thread with
  | none => .error (runStoreError "thread_not_found")
  | some thread => do
    rejectIf (thread.status = .deleted ∨ thread.tenantId ≠ query.tenantId ∨
        thread.spaceId ≠ query.spaceId ∨ thread.threadId ≠ query.threadId)
      (runStoreError "thread_not_found")
    whenPresent query.position fun position =>
      rejectIf (position.threadRevision ≠ thread.revision)
        (runStoreError "thread_message_window_changed")
    return thread

/-- What is known of a message before it is read. -/
structure MessageWindowRow where
  sequence : Int
  storedBytes : Nat
deriving DecidableEq

/-- The sequences of the first rows that fit behind others. -/
def selectMessageWindowSequencesFrom (sequences : List Int) (bytes : Nat) :
    List MessageWindowRow → Checked (List Int)
  | [] => .ok sequences
  | row :: rest =>
    if isPositiveInteger row.sequence = false ∨ maxSafeInteger < row.storedBytes then
      .error (runStoreError "stored_message_invalid")
    else if messageWindowByteLimit < bytes + row.storedBytes then
      if sequences.length = 0 then .error (runStoreError "message_window_item_too_large")
      else .ok sequences
    else
      selectMessageWindowSequencesFrom (sequences ++ [row.sequence]) (bytes + row.storedBytes) rest

/-- The sequences of the first rows that fit. -/
def selectMessageWindowSequences (rows : List MessageWindowRow) : Checked (List Int) :=
  selectMessageWindowSequencesFrom [] 0 rows

/-- What a window is read from. -/
structure MessageWindowSource where
  thread : ThreadState
  messages : List MessageRecord
  invalidations : Option (OrderedMap Int MessageInvalidation)
  runBindings : List MessageRecord → Checked (List ThreadMessageRunBinding)

namespace MessageWindowSource

/-- The message is not invalidated. -/
def visible (source : MessageWindowSource) (message : MessageRecord) : Bool :=
  !(source.invalidations.any fun invalidations => (invalidations.find message.sequence).isSome)

end MessageWindowSource

/-- The first place between two places whose message has at least the sequence. -/
def messageLowerBoundBetween (messages : List MessageRecord) (sequence : Int)
    (start stop : Nat) : Nat :=
  if start < stop then
    let middle := (start + stop) / 2
    if messages[middle]?.any (fun message => message.sequence < sequence) then
      messageLowerBoundBetween messages sequence (middle + 1) stop
    else
      messageLowerBoundBetween messages sequence start middle
  else start
termination_by stop - start

/-- The first place whose message has at least the sequence. -/
def messageLowerBound (messages : List MessageRecord) (sequence : Int) : Nat :=
  messageLowerBoundBetween messages sequence 0 messages.length

/-- The bytes that a message is stored in: its content, and its record with the content. -/
def storedBytes (message : MessageRecord) : Nat :=
  message.content.byteLength + message.json.encodedSize

/-- The first visible messages along a walk, up to a limit. -/
def collectVisible (visible : MessageRecord → Bool) : Nat → List MessageRecord → List MessageRecord
  | _, [] => []
  | 0, _ => []
  | limit + 1, message :: rest =>
    if visible message then message :: collectVisible visible limit rest
    else collectVisible visible (limit + 1) rest

/-- The messages in the order in which a request comes to them. -/
def walk (source : MessageWindowSource) (position : Option ThreadMessageWindowPosition) :
    List MessageRecord :=
  match position with
  | none => source.messages.reverse
  | some ⟨.older, sequence, _⟩ =>
    (source.messages.take (messageLowerBound source.messages sequence)).reverse
  | some ⟨.newer, sequence, _⟩ =>
    source.messages.drop (messageLowerBound source.messages (sequence + 1))

/-- What the windows of a thread of the store are read from. -/
def ThreadStore.messageWindows (store : ThreadStore)
    (runBindings : ThreadMessageWindowQuery → List MessageRecord →
      Checked (List ThreadMessageRunBinding)) (locator : ThreadMessageWindowQuery) :
    Option MessageWindowSource :=
  match store.threads.find locator.threadId with
  | none => none
  | some thread =>
    if thread.tenantId ≠ locator.tenantId ∨ thread.spaceId ≠ locator.spaceId then none
    else some ⟨thread, store.messagesOf locator.threadId,
      store.messageInvalidations.find locator.threadId, runBindings locator⟩

/-- Read a window of the thread of a locator. -/
def readWindow (read : ThreadMessageWindowQuery → Option MessageWindowSource)
    (query : ThreadMessageWindowQuery) : Checked ThreadMessageWindow := do
  validateMessageWindowQuery query
  let found := read query
  let thread ← assertMessageWindowThread (found.map (·.thread)) query
  match found with
  | none => .error (runStoreError "thread_not_found")
  | some source => do
    let metadata := collectVisible source.visible query.limit.toNat (walk source query.position)
    let selected := OrderedMap.empty.setAll
      (metadata.map fun message => (message.sequence, message))
    let sequences ← selectMessageWindowSequences
      (metadata.map fun message => ⟨message.sequence, storedBytes message⟩)
    let page := (sequences.mergeSort fun left right => left ≤ right).filterMap selected.find
    let hasOlder := page.head?.any fun first =>
      (source.messages.take (messageLowerBound source.messages first.sequence)).reverse.any
        source.visible
    let hasNewer := page.getLast?.any fun last =>
      (source.messages.drop (messageLowerBound source.messages (last.sequence + 1))).any
        source.visible
    let runBindings ← if query.view = some .transcript then
      (source.runBindings page).map some
    else .ok none
    return ⟨thread, page, hasOlder, hasNewer, runBindings⟩

end Crewon.Store
