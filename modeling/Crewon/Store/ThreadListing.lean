import Crewon.Domain.ThreadLifecycle
import Crewon.Lib.StableSort

/-!
# The list of threads

The in-memory store selects a page of threads in one pass. It holds no more threads than the page
has, in the order of the page, and places each matching thread by binary search. A page behind an
`after` cursor is selected in the opposite order and then turned round.
-/

namespace Crewon.Store

open Crewon.Js Crewon.Domain Crewon.Lib

/-- The place of a thread in the list, and the cursor of a page. -/
structure ThreadListCursor where
  updatedAt : JsString
  threadId : JsString
deriving DecidableEq

/-- Which threads are listed. -/
structure ThreadListFilter where
  status : ThreadStatus
  excludeForks : Bool
deriving DecidableEq

/-- A page of the threads of a space. -/
structure ThreadListQuery where
  tenantId : JsString
  spaceId : JsString
  before : Option ThreadListCursor
  after : Option ThreadListCursor
  filter : Option ThreadListFilter
  limit : Int
deriving DecidableEq

/-- The place of a thread. -/
def threadPosition (thread : ThreadState) : ThreadListCursor := ⟨thread.updatedAt, thread.threadId⟩

/-- Places compare by the text of the instant and then by the id. -/
def compareThreadPosition (left right : ThreadListCursor) : Int :=
  let time : Int :=
    if left.updatedAt = right.updatedAt then 0
    else if left.updatedAt.before right.updatedAt then -1
    else 1
  if time ≠ 0 then time
  else if left.threadId = right.threadId then 0
  else if left.threadId.before right.threadId then -1
  else 1

/-- A thread is listed for a query, whatever its cursor. -/
def isListed (query : ThreadListQuery) (thread : ThreadState) : Bool :=
  thread.tenantId = query.tenantId ∧ thread.spaceId = query.spaceId ∧ thread.status ≠ .deleted ∧
    query.filter.all fun filter => thread.status = filter.status ∧
      ¬ (filter.excludeForks = true ∧ thread.forkedFromThreadId ≠ none)

/-- A thread lies behind the cursor of a query. -/
def isPastCursor (query : ThreadListQuery) (thread : ThreadState) : Bool :=
  (query.after <|> query.before).all fun cursor =>
    let relative := compareThreadPosition (threadPosition thread) cursor
    if query.after.isSome then 0 < relative else relative < 0

/-- The order in which threads are selected. -/
def compareSelected (query : ThreadListQuery) (left right : ThreadState) : Int :=
  let result := compareThreadPosition (threadPosition left) (threadPosition right)
  if query.after.isSome then result else -result

/-- The place of a thread among the selected ones; halving the range by a shift is the same, as a
selection has far fewer than 2³¹ entries. -/
def selectionPoint (query : ThreadListQuery) (selected : List ThreadState) (thread : ThreadState) :
    Nat :=
  bisect (fun middle => selected[middle]?.all fun other => ¬ compareSelected query thread other < 0)
    0 selected.length

/-- Place a thread among the selected ones and keep at most the limit. -/
def placeThread (query : ThreadListQuery) (selected : List ThreadState) (thread : ThreadState) :
    List ThreadState :=
  let low := selectionPoint query selected thread
  if query.limit ≤ low then selected
  else
    let placed := selected.insertIdx low thread
    if query.limit < placed.length then placed.dropLast else placed

/-- Look at one more thread. -/
def selectThread (query : ThreadListQuery) (selected : List ThreadState) (thread : ThreadState) :
    List ThreadState :=
  if isListed query thread && isPastCursor query thread then placeThread query selected thread
  else selected

/-- A page of threads. -/
def selectMemoryThreadList (threads : List ThreadState) (query : ThreadListQuery) :
    List ThreadState :=
  let selected := threads.foldl (selectThread query) []
  if query.after.isSome then selected.reverse else selected

end Crewon.Store
