import Crewon.Js.Text
import Crewon.Lib.BalancedTree

/-!
# The index of scheduled automations

The in-memory store keeps the keys of its scheduled automations in a balanced tree, so that a page of
them is read without sorting all. Inserting a key rotates the nodes above it where needed; reading a
page walks from a cursor towards the smaller keys with a stack of the nodes still to visit.
-/

namespace Crewon.Store.AutomationScheduleIndex

open Crewon.Js Crewon.Lib

/-- The key of an automation, and the cursor of a page. -/
structure AutomationListCursor where
  automationId : JsString
  updatedAt : JsString
deriving DecidableEq

/-- The tree of keys. -/
abbrev Node := SearchTree AutomationListCursor

/-- Keys compare by the instant and then by the id. -/
def compareKeys (left right : AutomationListCursor) : Int :=
  if left.updatedAt ≠ right.updatedAt then
    if left.updatedAt.before right.updatedAt then -1 else 1
  else if left.automationId = right.automationId then 0
  else if left.automationId.before right.automationId then -1
  else 1

/-- The node with the height of its subtrees. -/
def updateHeight : Node → Node
  | .nil => .nil
  | .node left key right _ => .join left key right

/-- Lift the right child above its parent; every caller has made sure that there is one. -/
def rotateLeft : Node → Node
  | .node left key (.node middle next right _) _ => .join (.join left key middle) next right
  | root => root

/-- Lift the left child above its parent; every caller has made sure that there is one. -/
def rotateRight : Node → Node
  | .node (.node left next middle _) key right _ => .join left next (.join middle key right)
  | root => root

/-- The key is greater than that of a node. -/
def isAbove (key : AutomationListCursor) : Node → Bool
  | .nil => false
  | .node _ other _ _ => 0 < compareKeys key other

/-- The key is less than that of a node. -/
def isBelow (key : AutomationListCursor) : Node → Bool
  | .nil => false
  | .node _ other _ _ => compareKeys key other < 0

/-- Rotate a node whose subtrees differ too much in height after the insertion of a key. -/
def rebalance (key : AutomationListCursor) : Node → Node
  | .nil => .nil
  | .node left nodeKey right height =>
    let balance : Int := left.height - right.height
    if 1 < balance then
      rotateRight (.node (if isAbove key left then rotateLeft left else left) nodeKey right height)
    else if balance < -1 then
      rotateLeft (.node left nodeKey (if isBelow key right then rotateRight right else right) height)
    else .node left nodeKey right height

/-- Insert a key. -/
protected def insert (key : AutomationListCursor) : Node → Node
  | .nil => .node .nil key .nil 1
  | .node left nodeKey right height =>
    let order := compareKeys key nodeKey
    if order = 0 then .node left nodeKey right height
    else if order < 0 then
      rebalance key
        (updateHeight (.node (AutomationScheduleIndex.insert key left) nodeKey right height))
    else
      rebalance key
        (updateHeight (.node left nodeKey (AutomationScheduleIndex.insert key right) height))

/-- The nodes still to visit, the next one first; of a node its key and its left subtree are read. -/
abbrev Stack := List (AutomationListCursor × Node)

/-- Push the nodes on the way to the right. -/
def pushRight : Node → Stack → Stack
  | .nil, stack => stack
  | .node left key right _, stack => pushRight right ((key, left) :: stack)

/-- Push the nodes with smaller keys on the way to the cursor. -/
def seek (before : Option AutomationListCursor) : Node → Stack → Stack
  | .nil, stack => stack
  | .node left key right _, stack =>
    if before.any fun cursor => 0 ≤ compareKeys key cursor then seek before left stack
    else seek before right ((key, left) :: stack)

/-- Visit so many nodes. -/
def visit : Nat → Stack → List AutomationListCursor
  | 0, _ => []
  | _ + 1, [] => []
  | limit + 1, (key, left) :: stack => key :: visit limit (pushRight left stack)

/-- A page of keys in front of a cursor. -/
def list (root : Node) (before : Option AutomationListCursor) (limit : Int) :
    List AutomationListCursor :=
  visit limit.toNat (seek before root [])

end Crewon.Store.AutomationScheduleIndex
