import Mathlib.Data.Nat.Notation
import Mathlib.Logic.Function.Basic

/-! # The log buffer

`gps/utils/SkipList.h` and `gps/utils/LogBuffer.cpp`: one list of all entries, in which those of each level are linked.
An append trims its level to a time depth and a capacity, for which the number of its entries is kept beside the list.
-/

namespace Cypfr.Log

/-- `SkipNode`; an iterator is the address of its node, and none is `end()`. -/
structure SkipNode (T : Type) (levels : ℕ) where
  address : ℕ
  mLevel : Fin levels
  mData : T
  mNextInLevel : Option ℕ

/-- `SkipList`; each node is made at an address of its own. -/
structure SkipList (T : Type) (levels : ℕ) where
  mMainList : List (SkipNode T levels)
  mHeadVec : Fin levels → Option ℕ
  mTailVec : Fin levels → Option ℕ
  made : ℕ

namespace SkipList

variable {T : Type} {levels : ℕ}

def empty : SkipList T levels := ⟨[], fun _ => none, fun _ => none, 0⟩

/-- The node at an address. -/
def node? (l : SkipList T levels) (address : ℕ) : Option (SkipNode T levels) :=
  l.mMainList.find? fun node => node.address == address

/-- `SkipList::append`. -/
def append (l : SkipList T levels) (data : T) (level : Fin levels) : SkipList T levels where
  mMainList :=
    match l.mHeadVec level with
    | none => l.mMainList ++ [⟨l.made, level, data, none⟩]
    | some _ => (l.mMainList.map fun node =>
        if some node.address = l.mTailVec level then { node with mNextInLevel := some l.made } else node) ++
          [⟨l.made, level, data, none⟩]
  mHeadVec := if l.mHeadVec level = none then Function.update l.mHeadVec level (some l.made) else l.mHeadVec
  mTailVec := Function.update l.mTailVec level (some l.made)
  made := l.made + 1

/-- `SkipList::pop`. -/
def pop (l : SkipList T levels) (level : Fin levels) : SkipList T levels :=
  match l.mHeadVec level with
  | none => l
  | some head =>
    let next := (l.node? head).bind (·.mNextInLevel)
    { l with
      mMainList := l.mMainList.filter fun node => node.address != head
      mHeadVec := Function.update l.mHeadVec level next
      mTailVec := if next = none then Function.update l.mTailVec level none else l.mTailVec }

/-- `SkipList::append` at a level that need not be one. -/
def appendAt (l : SkipList T levels) (data : T) (level : Int32) : SkipList T levels :=
  if inRange : 0 ≤ level.toInt ∧ level.toInt.toNat < levels then l.append data ⟨level.toInt.toNat, inRange.2⟩ else l

/-- `SkipList::pop` without a level; none is the front of an empty list. -/
def popFront (l : SkipList T levels) : Option (SkipList T levels) := l.mMainList.head?.map fun node => l.pop node.mLevel

/-- `SkipList::front`; none is the data of `end()`. -/
def front (l : SkipList T levels) (level : Fin levels) : Option T :=
  ((l.mHeadVec level).bind l.node?).map (·.mData)

/-- `SkipList::flush`. -/
def flush (l : SkipList T levels) : SkipList T levels :=
  { l with mMainList := [], mHeadVec := fun _ => none, mTailVec := fun _ => none }

/-- `SkipList::dump`. -/
def dump (l : SkipList T levels) : List (T × Fin levels) := l.mMainList.map fun node => (node.mData, node.mLevel)

/-- The loop of `SkipList::dump` for a level; none if it reads an erased node or takes more rounds than there are
nodes. -/
def dumpFrom (l : SkipList T levels) : ℕ → Option ℕ → Option (List (T × Fin levels))
  | _, none => some []
  | 0, some _ => none
  | rounds + 1, some head =>
    (l.node? head).bind fun node => (l.dumpFrom rounds node.mNextInLevel).map fun later =>
      (node.mData, node.mLevel) :: later

/-- `SkipList::dump` for a level. -/
def dumpLevel (l : SkipList T levels) (level : Fin levels) : Option (List (T × Fin levels)) :=
  l.dumpFrom l.mMainList.length (l.mHeadVec level)

end SkipList

/-- `ConfigsInLevel`. -/
structure ConfigsInLevel where
  mTimeDepthThres : UInt32
  mMaxNumThres : UInt32
  mCurrentSize : Int32

/-- A time and a text. -/
abbrev Item := UInt64 × String

/-- `LogBuffer`. -/
structure LogBuffer (levels : ℕ) where
  mLogList : SkipList Item levels
  mConfigVec : Fin levels → ConfigsInLevel

namespace LogBuffer

variable {levels : ℕ}

/-- An empty buffer with a time depth and a capacity for each level. -/
def initial (limits : Fin levels → UInt32 × UInt32) : LogBuffer levels where
  mLogList := .empty
  mConfigVec level := ⟨(limits level).1, (limits level).2, 0⟩

def setCurrentSize (b : LogBuffer levels) (level : Fin levels) (size : Int32) : LogBuffer levels :=
  { b with mConfigVec := Function.update b.mConfigVec level { b.mConfigVec level with mCurrentSize := size } }

/-- The condition of the loop of `append`, for the time of the oldest entry. -/
def exceeds (b : LogBuffer levels) (level : Fin levels) (timestamp oldest : UInt64) : Bool :=
  decide ((b.mConfigVec level).mTimeDepthThres.toUInt64 < timestamp - oldest) ||
    decide ((b.mConfigVec level).mMaxNumThres < (b.mConfigVec level).mCurrentSize.toUInt32)

/-- The loop of `append`; none is the front of an empty level. -/
def trim (level : Fin levels) (timestamp : UInt64) : ℕ → LogBuffer levels → Option (LogBuffer levels)
  | 0, _ => none
  | rounds + 1, b =>
    match b.mLogList.front level with
    | none => none
    | some oldest =>
      if b.exceeds level timestamp oldest.1 then
        trim level timestamp rounds
          ({ b with mLogList := b.mLogList.pop level }.setCurrentSize level ((b.mConfigVec level).mCurrentSize - 1))
      else some b

/-- `LogBuffer::append`; each round of its loop takes an entry out. -/
def append (b : LogBuffer levels) (data : String) (level : Fin levels) (timestamp : UInt64) :
    Option (LogBuffer levels) :=
  trim level timestamp (b.mLogList.mMainList.length + 2)
    ({ b with mLogList := b.mLogList.append (timestamp, data) level }.setCurrentSize level
      ((b.mConfigVec level).mCurrentSize + 1))

/-- `LogBuffer::flush`. -/
def flush (b : LogBuffer levels) : LogBuffer levels := { b with mLogList := b.mLogList.flush }

/-- The entries of a level in the list. -/
def entries (b : LogBuffer levels) (level : Fin levels) : List Item :=
  (b.mLogList.mMainList.filter fun node => node.mLevel == level).map (·.mData)

end LogBuffer

inductive LogCall (levels : ℕ) where
  | append (data : String) (level : Fin levels) (timestamp : UInt64)
  | flush

/-- A buffer and what was appended to each level since it was flushed, the time of the last append, and whether the
front of an empty level was taken. -/
structure LogRun (levels : ℕ) where
  buffer : LogBuffer levels
  since : Fin levels → List Item
  clock : UInt64
  frontOfEmpty : Bool

namespace LogRun

variable {levels : ℕ}

def start (limits : Fin levels → UInt32 × UInt32) : LogRun levels := ⟨.initial limits, fun _ => [], 0, false⟩

def step (r : LogRun levels) : LogCall levels → LogRun levels
  | .append data level timestamp =>
    { buffer := (r.buffer.append data level timestamp).getD r.buffer
      since := Function.update r.since level (r.since level ++ [(timestamp, data)])
      clock := timestamp
      frontOfEmpty := r.frontOfEmpty || (r.buffer.append data level timestamp).isNone }
  | .flush => { r with buffer := r.buffer.flush, since := fun _ => [] }

end LogRun

end Cypfr.Log
