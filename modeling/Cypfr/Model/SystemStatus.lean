import Mathlib.Data.Finset.Basic
import Mathlib.Data.Nat.Notation

/-! # The cache of the system status

`gps/core/SystemStatus.h` and `gps/core/SystemStatus.cpp`: the reports of a kind of item, of which the last is the
latest, and the item of the networks, which carries the table of all connected handles from one report to the next.
-/

namespace Cypfr.SystemStatus

/-- An item, the time it was made at and the time it was last reported at. -/
structure Reported (T : Type) where
  item : T
  mUtcTime : ℕ
  mUtcReported : ℕ

/-- `SystemStatusItemBase::maxItem`. -/
def maxItem : ℕ := 5

/-- `setDefaultIteminReport`, and the end of `setIteminReport`. -/
def setDefaultIteminReport {T : Type} (report : List (Reported T)) (s : Reported T) : List (Reported T) :=
  let pushed := report ++ [s]
  if maxItem < pushed.length then pushed.tail else pushed

/-- `SystemStatus::setIteminReport`. -/
def setIteminReport {T : Type} (ignore : T → Bool) (equals : T → T → Bool) (collate : T → T → T)
    (report : List (Reported T)) (s : Reported T) : List (Reported T) × Bool :=
  if ignore s.item then (report, false)
  else
    match report.getLast? with
    | none => (setDefaultIteminReport report s, true)
    | some back =>
      let s := { s with item := collate s.item back.item }
      if equals back.item s.item then
        (report.dropLast ++ [{ back with mUtcReported := s.mUtcReported }], false)
      else (setDefaultIteminReport report s, true)

/-- `NETWORK_HANDLE_UNKNOWN`. -/
def networkHandleUnknown : UInt64 := ~~~0

/-- `TYPE_MOBILE` and `TYPE_UNKNOWN`. -/
def typeMobile : Int32 := 0
def typeUnknown : Int32 := 10

/-- `MAX_NETWORK_HANDLES`. -/
def maxNetworkHandles : ℕ := 10

/-- `NetworkInfoType`; a type is the number of its `NetworkType`. -/
structure NetworkInfoType where
  networkHandle : UInt64
  networkType : Int32
  deriving DecidableEq

/-- `NetworkInfoType()`. -/
def NetworkInfoType.unknown : NetworkInfoType := ⟨networkHandleUnknown, typeUnknown⟩

/-- `NetworkInfoDataItemBase::typeToAllTypes`. -/
def typeToAllTypes (type : Int32) : UInt64 :=
  if typeUnknown ≤ type ∨ type < typeMobile then 0 else 1 <<< UInt64.ofNat type.toNatClampNeg

/-- `SystemStatusNetworkInfo`. -/
structure SystemStatusNetworkInfo where
  mAllTypes : UInt64
  mType : Int32
  mConnected : Bool
  mNetworkHandle : UInt64
  mApn : String
  mAllNetworkHandles : List NetworkInfoType

namespace SystemStatusNetworkInfo

/-- `NetworkInfoDataItemBase::NetworkInfoDataItemBase`. -/
def ofType (type : Int32) (connected : Bool) (networkHandle : UInt64) (apn : String) : SystemStatusNetworkInfo where
  mAllTypes := typeToAllTypes type
  mType := type
  mConnected := connected
  mNetworkHandle := networkHandle
  mApn := apn
  mAllNetworkHandles := ⟨networkHandle, type⟩ :: List.replicate (maxNetworkHandles - 1) .unknown

/-- `SystemStatusNetworkInfo::equals`. -/
def equals (info peer : SystemStatusNetworkInfo) : Bool :=
  peer.mConnected == info.mConnected && info.mAllNetworkHandles == peer.mAllNetworkHandles && peer.mApn == info.mApn

/-- The loop of `collate` for a connected handle. -/
def insertHandle (networkHandle : UInt64) (mType : Int32) : List NetworkInfoType → List NetworkInfoType
  | [] => []
  | entry :: rest =>
    if networkHandle = entry.networkHandle then entry :: rest
    else if networkHandleUnknown = entry.networkHandle then ⟨networkHandle, mType⟩ :: rest
    else entry :: insertHandle networkHandle mType rest

/-- `deletedIndex`, `lastValidIndex` and `typeCount`. -/
structure Scan where
  deletedIndex : ℕ
  lastValidIndex : ℕ
  typeCount : ℕ

/-- The loop of `collate` for a handle that is no longer connected. -/
def scan (networkHandle : UInt64) (mType : Int32) : List NetworkInfoType → Scan → Scan
  | [], found => found
  | entry :: rest, found =>
    if networkHandleUnknown = entry.networkHandle then found
    else scan networkHandle mType rest
      (if mType = entry.networkType then
        if networkHandle = entry.networkHandle then
          { found with deletedIndex := found.lastValidIndex, lastValidIndex := found.lastValidIndex + 1 }
        else { found with typeCount := found.typeCount + 1, lastValidIndex := found.lastValidIndex + 1 }
      else { found with lastValidIndex := found.lastValidIndex + 1 })

/-- The last valid entry is moved to the deleted one. -/
def deleteHandle (table : List NetworkInfoType) (deletedIndex lastValidIndex : ℕ) : List NetworkInfoType :=
  if deletedIndex = maxNetworkHandles then table
  else (table.set deletedIndex (table.getD lastValidIndex .unknown)).set lastValidIndex .unknown

/-- `SystemStatusNetworkInfo::collate`; the object that was notified takes the mask and the table of the item. -/
def collate (info curInfo : SystemStatusNetworkInfo) : SystemStatusNetworkInfo :=
  let info :=
    { info with
      mAllNetworkHandles := curInfo.mAllNetworkHandles
      mApn := if typeMobile ≠ info.mType ∧ curInfo.mApn ≠ "" then curInfo.mApn else info.mApn }
  if info.mConnected then
    { info with
      mAllTypes := info.mAllTypes ||| curInfo.mAllTypes
      mAllNetworkHandles := insertHandle info.mNetworkHandle info.mType info.mAllNetworkHandles }
  else if info.mAllTypes ≠ 0 then
    let found := scan info.mNetworkHandle info.mType info.mAllNetworkHandles ⟨maxNetworkHandles, 0, 0⟩
    { info with
      mAllNetworkHandles := deleteHandle info.mAllNetworkHandles found.deletedIndex (found.lastValidIndex - 1)
      mAllTypes := if found.typeCount = 0 then curInfo.mAllTypes &&& ~~~info.mAllTypes else info.mAllTypes }
  else info

end SystemStatusNetworkInfo

/-- A notification of a network. -/
structure NetworkNotice where
  type : Int32
  connected : Bool
  networkHandle : UInt64
  apn : String
  utc : ℕ

/-- `SystemStatus::eventDataItemNotify` for a network. -/
def eventDataItemNotify (mNetworkInfo : List (Reported SystemStatusNetworkInfo)) (notice : NetworkNotice) :
    List (Reported SystemStatusNetworkInfo) × Bool :=
  setIteminReport (fun _ => false) SystemStatusNetworkInfo.equals SystemStatusNetworkInfo.collate mNetworkInfo
    ⟨.ofType notice.type notice.connected notice.networkHandle notice.apn, notice.utc, notice.utc⟩

/-- The cached items of the networks and the handles that are connected. -/
structure NetworkRun where
  mNetworkInfo : List (Reported SystemStatusNetworkInfo)
  connected : Finset UInt64

namespace NetworkRun

def start : NetworkRun := ⟨[], ∅⟩

def step (r : NetworkRun) (notice : NetworkNotice) : NetworkRun where
  mNetworkInfo := (eventDataItemNotify r.mNetworkInfo notice).1
  connected :=
    if notice.connected then insert notice.networkHandle r.connected else r.connected.erase notice.networkHandle

end NetworkRun

end Cypfr.SystemStatus
