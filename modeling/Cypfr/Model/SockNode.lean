import Cypfr.Model.CNumber
import Cypfr.ToMathlib.BackwardScan

/-! # Socket node names

A client of the location service is known by the name of its socket: a prefix and two ids, joined by
dots. The translation follows `SockNode` of
`location/location_api_msg_proto/src/LocationApiMsg.h`; a `size_t` has 64 bits.
-/

namespace Cypfr

structure SockNode where
  id1 : Int32
  id2 : Int32
  nodePathnamePrefix : Bytes
deriving DecidableEq

namespace SockNode

/-- `sscanf(s, "%d.%d", &id1, &id2)` on ids that are both `-1` before. -/
def scanIds (s : Bytes) : Int32 × Int32 :=
  match scanD s with
  | none => (-1, -1)
  | some (id1, 46 :: rest) => (id1, ((scanD rest).map (·.1)).getD (-1))
  | some (id1, _) => (id1, -1)

/-- Where the loop of `create` begins, as an `int32_t`. -/
def startIndx (fullPathName : Bytes) (length : Int32) : Int32 :=
  if length < 0 then (UInt64.ofNat (strlen fullPathName) - 1).toUInt32.toInt32 else length

/-- The loop of `create`: the dots counted, and one more than the index it leaves behind. The byte behind
the name is a NUL, which is no dot. -/
def countDots (fullPathName : Bytes) (indx : Int32) : ℕ × ℕ :=
  scanBack (· == 46) 2 fullPathName (indx.toInt + 1).toNat 0

/-- `create(const char*, int32_t)`, where `none` is a null pointer. -/
def create (fullPathName : Option Bytes) (length : Int32) : SockNode :=
  let fullPathName := fullPathName.getD []
  let (count, indx) := countDots fullPathName (startIndx fullPathName length)
  if count = 2 then
    let (id1, id2) := scanIds (fullPathName.drop (indx + 1))
    ⟨id1, id2, fullPathName.take indx⟩
  else ⟨-1, -1, fullPathName.take 0⟩

/-- `create(const string)`, which passes the length on as an `int32_t`. -/
def createString (fullPathName : Bytes) : SockNode :=
  create (some fullPathName) (UInt64.ofNat fullPathName.length).toUInt32.toInt32

/-- `create(const char*)`, which leaves the length to its default. -/
def createMeasured (fullPathName : Bytes) : SockNode := create (some fullPathName) (-1)

def getNodePathname (node : SockNode) : Bytes :=
  node.nodePathnamePrefix ++ [46] ++ stdToString node.id1 ++ [46] ++ stdToString node.id2

example : createString (ascii "/data/a.7/loc.-12.0") = ⟨-12, 0, ascii "/data/a.7/loc"⟩ := by decide

end SockNode

end Cypfr
