import Mathlib.Data.Multiset.AddSub

/-! # The rank-ordered tree of `LocHeap`

A node keeps the size of its subtree, two optional children and a pointer to the client's object.
The C++ methods move objects between nodes and leave the links in place, except for the one leaf
that is detached; here the new tree is returned instead. Objects are compared by address, which is
equality of `α`, and ranked by the client's `ranks`. The translation follows
`gps/utils/LocHeap.cpp`; nothing below assumes that `ranks` is an order.
-/

namespace Cypfr.LocHeap

variable {α : Type*}

/-- A `LocHeapNode*`, `NULL` included. -/
inductive Tree (α : Type*) where
  | null
  | node (mSize : ℤ) (mLeft mRight : Tree α) (mData : α)
deriving DecidableEq, Repr

namespace Tree

/-- The object at the top, which is also `LocHeap::peek`. -/
def peek : Tree α → Option α
  | null => none
  | node _ _ _ d => some d

def size : Tree α → ℤ
  | null => 0
  | node s _ _ _ => s

/-- The node a fresh `LocHeapNode(data)` is. -/
def leaf (x : α) : Tree α := node 1 null null x

/-- The number of nodes, as opposed to the size field the code maintains. -/
def nodes : Tree α → ℕ
  | null => 0
  | node _ l r _ => l.nodes + r.nodes + 1

/-- All objects below a pointer, with multiplicity. -/
def elems : Tree α → Multiset α
  | null => 0
  | node _ l r d => d ::ₘ (l.elems + r.elems)

end Tree

/-- `LocRankable::outRanks`. -/
def outRanks (ranks : α → α → ℤ) (a b : α) : Bool := decide (0 < ranks a b)

section

variable (ranks : α → α → ℤ)

/-- The conditional `swap` of `push`: the object that stays, then the one that is passed down. -/
def settle (x d : α) : α × α := if outRanks ranks x d then (x, d) else (d, x)

/-- `LocHeapNode::push`: the higher ranked of the two objects stays, the other goes to an empty
child or else to the smaller subtree. At `NULL` it is `LocHeap::push` on the empty heap. -/
def push : Tree α → α → Tree α
  | .null, x => .leaf x
  | .node s .null r d, x => .node (s + 1) (.leaf (settle ranks x d).2) r (settle ranks x d).1
  | .node s l .null d, x => .node (s + 1) l (.leaf (settle ranks x d).2) (settle ranks x d).1
  | .node s l r d, x =>
    if l.size ≤ r.size then .node (s + 1) (push l (settle ranks x d).2) r (settle ranks x d).1
    else .node (s + 1) l (push r (settle ranks x d).2) (settle ranks x d).1

/-- `LocHeapNode::pop` on a node whose object has just been swapped for `x`. The object travels to
the leaf level along the higher ranked children, and the leaf that carries it is detached. -/
def popSwapped (x : α) : Tree α → α × Tree α
  | .null => (x, .null)
  | .node s l r _ =>
    match l.peek, r.peek with
    | none, none => (x, .null)
    | none, some dr =>
      let popped := popSwapped x r
      (popped.1, .node (s - 1) l popped.2 dr)
    | some dl, none =>
      let popped := popSwapped x l
      (popped.1, .node (s - 1) popped.2 r dl)
    | some dl, some dr =>
      if outRanks ranks dl dr then
        let popped := popSwapped x l
        (popped.1, .node (s - 1) popped.2 r dl)
      else
        let popped := popSwapped x r
        (popped.1, .node (s - 1) l popped.2 dr)

/-- `LocHeap::pop`: the object of the detached node, `NULL` on the empty heap. -/
def pop : Tree α → Option α × Tree α
  | .null => (none, .null)
  | .node s l r d =>
    let popped := popSwapped ranks d (.node s l r d)
    (some popped.1, popped.2)

/-- `LocHeap::remove`: a search by address, cut at every node that `x` outranks. -/
def remove [DecidableEq α] (x : α) : Tree α → Option α × Tree α
  | .null => (none, .null)
  | .node s l r d =>
    if x = d then
      let popped := popSwapped ranks d (.node s l r d)
      (some popped.1, popped.2)
    else if outRanks ranks x d then (none, .node s l r d)
    else
      match remove x l with
      | (some y, l') => (some y, .node (s - 1) l' r d)
      | (none, l') =>
        match remove x r with
        | (some y, r') => (some y, .node (s - 1) l' r' d)
        | (none, r') => (none, .node s l' r' d)

/-- The child check of `checkNodes`: not outranked from below, and itself consistent. -/
def childOk (checked : Bool) (parent : α) (child : Tree α) : Bool :=
  match child.peek with
  | none => true
  | some c => !outRanks ranks c parent && checked

/-- `LocHeapNode::checkNodes`, true of `NULL` as in `LocHeap::checkTree`. -/
def checkNodes : Tree α → Bool
  | .null => true
  | .node s l r d =>
    childOk ranks (checkNodes l) d l && childOk ranks (checkNodes r) d r &&
      decide (s - l.size - r.size = 1)

end

end Cypfr.LocHeap
