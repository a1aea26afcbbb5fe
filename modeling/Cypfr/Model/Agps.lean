import Cypfr.Machine.Emit
import Cypfr.Model.CString

/-! # Data connections for assisted positioning

`gnss/Agps.cpp`: the modem asks for a data connection by handle; a state machine for each of two network
interfaces shares one connection between its subscribers and asks the framework for it. Requests and
reports are messages to one task.

A machine refers to the subscriber whose request it is processing by a pointer, which for a release
points into its list; here the events carry that subscriber.
-/

namespace Cypfr.Agps

/-- `AgpsSubscriber`. -/
structure AgpsSubscriber where
  connHandle : Int32
  waitForCloseComplete : Bool
  isInactive : Bool
  apnTypeMask : UInt32
deriving DecidableEq

inductive AgpsState where
  | released
  | pending
  | acquired
  | releasing
deriving DecidableEq

inductive AgpsEvent where
  | subscribe
  | unsubscribe
  | granted
  | released
  | denied
deriving DecidableEq

inductive AgpsNotificationType where
  | forAllSubscribers
  | forInactiveSubscribers
  | forActiveSubscribers
deriving DecidableEq

/-- `AgpsStateMachine`, without the callback and the pointer to the manager. -/
structure AgpsStateMachine where
  subscriberList : List AgpsSubscriber
  state : AgpsState
  agpsType : Int8
  apnTypeMask : UInt32
  apn : Option Bytes
  apnLen : UInt32
  bearer : Int16

inductive AgpsStatusValue where
  | requestAgpsDataConn
  | releaseAgpsDataConn
deriving DecidableEq

/-- The callbacks that a machine makes. -/
inductive AgpsCall where
  | atlOpenStatus (handle : Int32) (isSuccess : Bool) (apn : Option Bytes) (apnLen : UInt32) (bearerType : Int16)
      (agpsType : Int8) (mask : UInt32)
  | atlCloseStatus (handle : Int32) (isSuccess : Bool)
  | frameworkStatus (status : AgpsStatusValue) (agpsType : Int8) (apnTypeMask : UInt32)
deriving DecidableEq

abbrev agpsTypeInvalid : Int8 := -1
abbrev agpsTypeSupl : Int8 := 1
abbrev agpsTypeWwanAny : Int8 := 3
abbrev agpsTypeSuplEs : Int8 := 5

abbrev apnTypeMaskSupl : UInt32 := 0x10
abbrev apnTypeMaskEmergency : UInt32 := 0x200

abbrev agpsApnBearerInvalid : Int16 := 0

def maxApnLen : UInt32 := 100

namespace AgpsStateMachine

/-- The constructor, which leaves the APN type mask as it finds it. -/
def create (agpsType : Int8) (apnTypeMask : UInt32) : AgpsStateMachine :=
  { subscriberList := [], state := .released, agpsType, apnTypeMask, apn := none, apnLen := 0,
    bearer := agpsApnBearerInvalid }

/-- `setAPN`. -/
def setAPN (sm : AgpsStateMachine) (apn : Option Bytes) (len : UInt32) : AgpsStateMachine :=
  match apn with
  | none => { sm with apn := none, apnLen := 0 }
  | some apn =>
    if len > maxApnLen || strlen apn != len.toNat then { sm with apn := none, apnLen := 0 }
    else { sm with apn := some (apn.take len.toNat), apnLen := len }

/-- `getSubscriber`. -/
def getSubscriber (sm : AgpsStateMachine) (connHandle : Int32) : Option AgpsSubscriber :=
  sm.subscriberList.find? fun subscriber => subscriber.connHandle == connHandle

/-- `anyActiveSubscribers`. -/
def anyActiveSubscribers (sm : AgpsStateMachine) : Bool :=
  sm.subscriberList.any fun subscriber => !subscriber.isInactive

/-- `addSubscriber`, which does not add a handle twice. -/
def addSubscriber (sm : AgpsStateMachine) (subscriberToAdd : AgpsSubscriber) : AgpsStateMachine :=
  if sm.subscriberList.any fun subscriber => subscriber.connHandle == subscriberToAdd.connHandle then sm
  else { sm with subscriberList := sm.subscriberList ++ [subscriberToAdd] }

/-- `deleteSubscriber`. -/
def deleteSubscriber (sm : AgpsStateMachine) (subscriberToDelete : AgpsSubscriber) : AgpsStateMachine :=
  { sm with
    subscriberList := sm.subscriberList.filter fun subscriber =>
      !(subscriber.connHandle == subscriberToDelete.connHandle) }

/-- `dropAllSubscribers`. -/
def dropAllSubscribers (sm : AgpsStateMachine) : AgpsStateMachine := { sm with subscriberList := [] }

/-- Mark the subscriber that `getSubscriber` finds as inactive. -/
def markInactive (connHandle : Int32) : List AgpsSubscriber → List AgpsSubscriber
  | [] => []
  | subscriber :: rest =>
    if subscriber.connHandle == connHandle then { subscriber with isInactive := true } :: rest
    else subscriber :: markInactive connHandle rest

end AgpsStateMachine

open AgpsStateMachine

abbrev MachineM := Emit AgpsStateMachine AgpsCall

/-- `transitionState`. -/
def transitionState (newState : AgpsState) : MachineM Unit := Emit.modify fun sm => { sm with state := newState }

/-- `requestOrReleaseDataConn`. -/
def requestOrReleaseDataConn (request : Bool) : MachineM Unit := do
  let sm ← Emit.get
  Emit.emit (.frameworkStatus (if request then .requestAgpsDataConn else .releaseAgpsDataConn) sm.agpsType sm.apnTypeMask)

/-- `notifyEventToSubscriber`. -/
def notifyEventToSubscriber (event : AgpsEvent) (subscriber : AgpsSubscriber) (deleteSubscriberPostNotify : Bool) :
    MachineM Unit := do
  let sm ← Emit.get
  match event with
  | .granted =>
    Emit.emit (.atlOpenStatus subscriber.connHandle true sm.apn sm.apnLen sm.bearer sm.agpsType sm.apnTypeMask)
  | .denied =>
    Emit.emit (.atlOpenStatus subscriber.connHandle false sm.apn sm.apnLen sm.bearer sm.agpsType sm.apnTypeMask)
  | .unsubscribe => Emit.emit (.atlCloseStatus subscriber.connHandle true)
  | .released => Emit.emit (.atlCloseStatus subscriber.connHandle true)
  | .subscribe => pure ()
  if deleteSubscriberPostNotify then Emit.modify fun sm => sm.deleteSubscriber subscriber else pure ()

/-- Whether a notification is meant for a subscriber. -/
def AgpsNotificationType.covers (notificationType : AgpsNotificationType) (subscriber : AgpsSubscriber) : Bool :=
  match notificationType with
  | .forAllSubscribers => true
  | .forInactiveSubscribers => subscriber.isInactive
  | .forActiveSubscribers => !subscriber.isInactive

/-- The loop of `notifyAllSubscribers` from some subscriber on, with what it leaves of the list. -/
def notifyFrom (event : AgpsEvent) (deleteSubscriberPostNotify : Bool) (notificationType : AgpsNotificationType) :
    List AgpsSubscriber → MachineM (List AgpsSubscriber)
  | [] => pure []
  | subscriber :: rest =>
    if notificationType.covers subscriber then do
      notifyEventToSubscriber event subscriber false
      let left ← notifyFrom event deleteSubscriberPostNotify notificationType rest
      pure (if deleteSubscriberPostNotify then left else subscriber :: left)
    else do
      let left ← notifyFrom event deleteSubscriberPostNotify notificationType rest
      pure (subscriber :: left)

/-- `notifyAllSubscribers`. -/
def notifyAllSubscribers (event : AgpsEvent) (deleteSubscriberPostNotify : Bool)
    (notificationType : AgpsNotificationType) : MachineM Unit := do
  let sm ← Emit.get
  let left ← notifyFrom event deleteSubscriberPostNotify notificationType sm.subscriberList
  Emit.modify fun sm => { sm with subscriberList := left }

/-- `processAgpsEventSubscribe`. -/
def processAgpsEventSubscribe (currentSubscriber : AgpsSubscriber) : MachineM Unit := do
  let sm ← Emit.get
  match sm.state with
  | .released => do
    Emit.modify fun sm => sm.addSubscriber currentSubscriber
    requestOrReleaseDataConn true
    transitionState .pending
  | .pending => Emit.modify fun sm => sm.addSubscriber currentSubscriber
  | .acquired => do
    notifyEventToSubscriber .granted currentSubscriber false
    Emit.modify fun sm => sm.addSubscriber currentSubscriber
  | .releasing => Emit.modify fun sm => sm.addSubscriber currentSubscriber

/-- The current subscriber waits for the close, or is told and deleted. -/
def leave (currentSubscriber : AgpsSubscriber) : MachineM Unit :=
  if currentSubscriber.waitForCloseComplete then
    Emit.modify fun sm => { sm with subscriberList := markInactive currentSubscriber.connHandle sm.subscriberList }
  else notifyEventToSubscriber .unsubscribe currentSubscriber true

/-- `processAgpsEventUnsubscribe`. -/
def processAgpsEventUnsubscribe (currentSubscriber : AgpsSubscriber) : MachineM Unit := do
  let sm ← Emit.get
  match sm.state with
  | .released => notifyEventToSubscriber .unsubscribe currentSubscriber false
  | .pending | .acquired => do
    leave currentSubscriber
    let sm ← Emit.get
    if sm.subscriberList.isEmpty then do
      transitionState .released
      requestOrReleaseDataConn false
    else if !sm.anyActiveSubscribers then do
      transitionState .releasing
      requestOrReleaseDataConn false
    else pure ()
  | .releasing => do
    leave currentSubscriber
    let sm ← Emit.get
    if sm.subscriberList.isEmpty then transitionState .released else pure ()

/-- `processAgpsEventGranted`. -/
def processAgpsEventGranted : MachineM Unit := do
  let sm ← Emit.get
  match sm.state with
  | .pending => do
    transitionState .acquired
    notifyAllSubscribers .granted false .forActiveSubscribers
  | .released | .acquired | .releasing => pure ()

/-- The connection is gone: the inactive subscribers are told, the active ones wait for a new one. -/
def closeReleasing : MachineM Unit := do
  notifyAllSubscribers .released true .forInactiveSubscribers
  let sm ← Emit.get
  if sm.anyActiveSubscribers then do
    transitionState .pending
    requestOrReleaseDataConn true
  else transitionState .released

/-- `processAgpsEventReleased`. -/
def processAgpsEventReleased : MachineM Unit := do
  let sm ← Emit.get
  match sm.state with
  | .released => pure ()
  | .acquired => do
    transitionState .released
    notifyAllSubscribers .released true .forAllSubscribers
  | .releasing => closeReleasing
  | .pending => pure ()

/-- `processAgpsEventDenied`. -/
def processAgpsEventDenied : MachineM Unit := do
  let sm ← Emit.get
  match sm.state with
  | .released => pure ()
  | .acquired => pure ()
  | .releasing => closeReleasing
  | .pending => do
    transitionState .released
    notifyAllSubscribers .denied true .forAllSubscribers

/-- The two network interfaces that have a machine. -/
inductive Nif where
  | agnss
  | internet
deriving DecidableEq

/-- `AgpsManager`, with the machine of each interface. -/
structure AgpsManager where
  agnssNif : Option AgpsStateMachine
  internetNif : Option AgpsStateMachine

namespace AgpsManager

def nif (m : AgpsManager) : Nif → Option AgpsStateMachine
  | .agnss => m.agnssNif
  | .internet => m.internetNif

def setNif (m : AgpsManager) (sm : AgpsStateMachine) : Nif → AgpsManager
  | .agnss => { m with agnssNif := some sm }
  | .internet => { m with internetNif := some sm }

/-- `createAgpsStateMachines`; the masks are what the constructors find in memory. -/
def createAgpsStateMachines (m : AgpsManager) (capabilities atlType : UInt32) (masks : Nif → UInt32) : AgpsManager :=
  let agpsCapable := capabilities &&& 4 != 0 || capabilities &&& 2 != 0
  { agnssNif :=
      if agpsCapable && m.agnssNif.isNone && atlType &&& 1 != 0 && atlType &&& 2 != 0 then
        some (.create agpsTypeSupl (masks .agnss))
      else m.agnssNif
    internetNif :=
      if m.internetNif.isNone && atlType &&& 4 != 0 then some (.create agpsTypeWwanAny (masks .internet))
      else m.internetNif }

end AgpsManager

/-- A program of the manager; each callback is listed with the interface it is about. -/
abbrev ManagerM := Emit AgpsManager (Nif × AgpsCall)

/-- `getAgpsStateMachine`: the interface of a type. -/
def getAgpsStateMachine (agpsType : Int8) : Nif :=
  if agpsType = agpsTypeInvalid ∨ agpsType = agpsTypeSupl ∨ agpsType = agpsTypeSuplEs then .agnss
  else .internet

/-- Run a program of the machine of an interface. Without a machine nothing happens, where the code may
dereference the null pointer. -/
def onMachine (nif : Nif) (p : MachineM Unit) : ManagerM Unit := fun m =>
  match m.nif nif with
  | none => ((), m, [])
  | some sm => ((), m.setNif (p.next sm) nif, (p.emitted sm).map fun call => (nif, call))

/-- The type and the mask of a request, without emergency when the configuration does not use it. -/
def withoutEmergency (useEmergencyPdn : UInt32) (agpsType : Int8) (apnTypeMask : UInt32) : Int8 × UInt32 :=
  if useEmergencyPdn = 0 ∧ agpsType = agpsTypeSuplEs then
    (agpsTypeSupl, (apnTypeMask &&& ~~~apnTypeMaskEmergency) ||| apnTypeMaskSupl)
  else (agpsType, apnTypeMask)

/-- A request that has found its machine. -/
def subscribeTo (connHandle : Int32) (agpsType : Int8) (apnTypeMask : UInt32) : MachineM Unit := do
  Emit.modify fun sm => { sm with agpsType, apnTypeMask }
  processAgpsEventSubscribe { connHandle, waitForCloseComplete := true, isInactive := false, apnTypeMask }

/-- `requestATL`, with the value of `USE_EMERGENCY_PDN_FOR_EMERGENCY_SUPL` at the time. -/
def requestATL (useEmergencyPdn : UInt32) (connHandle : Int32) (agpsType : Int8) (apnTypeMask : UInt32) :
    ManagerM Unit := do
  let request := withoutEmergency useEmergencyPdn agpsType apnTypeMask
  let nif := getAgpsStateMachine request.1
  let m ← Emit.get
  if (m.nif nif).isNone then
    Emit.emit (nif, .atlOpenStatus connHandle false none 0 agpsApnBearerInvalid request.1 request.2)
  else onMachine nif (subscribeTo connHandle request.1 request.2)

/-- The subscriber with a handle, in the machine of an interface. -/
def AgpsManager.findSubscriber (m : AgpsManager) (connHandle : Int32) (nif : Nif) : Option AgpsSubscriber :=
  (m.nif nif).bind fun sm => sm.getSubscriber connHandle

/-- `releaseATL`. -/
def releaseATL (connHandle : Int32) : ManagerM Unit := do
  let m ← Emit.get
  match m.findSubscriber connHandle .agnss with
  | some subscriber => onMachine .agnss (processAgpsEventUnsubscribe subscriber)
  | none =>
    match m.findSubscriber connHandle .internet with
    | some subscriber => onMachine .internet (processAgpsEventUnsubscribe subscriber)
    | none => pure ()

/-- A success report that has found its machine. -/
def openWith (apnName : Option Bytes) (apnLen : UInt32) (bearerType : Int16) : MachineM Unit := do
  Emit.modify fun sm => ({ sm with bearer := bearerType } : AgpsStateMachine).setAPN apnName apnLen
  processAgpsEventGranted

/-- `reportAtlOpenSuccess`. -/
def reportAtlOpenSuccess (agpsType : Int8) (apnName : Option Bytes) (apnLen : UInt32) (bearerType : Int16) :
    ManagerM Unit :=
  onMachine (getAgpsStateMachine agpsType) (openWith apnName apnLen bearerType)

/-- `reportAtlOpenFailed`. -/
def reportAtlOpenFailed (agpsType : Int8) : ManagerM Unit :=
  onMachine (getAgpsStateMachine agpsType) processAgpsEventDenied

/-- `reportAtlClosed`. -/
def reportAtlClosed (agpsType : Int8) : ManagerM Unit :=
  onMachine (getAgpsStateMachine agpsType) processAgpsEventReleased

/-- `handleModemSSR`. -/
def handleModemSSR : ManagerM Unit := do
  onMachine .agnss (Emit.modify dropAllSubscribers)
  onMachine .internet (Emit.modify dropAllSubscribers)

/-- The messages to the manager. -/
inductive AtlMsg where
  | requestATL (useEmergencyPdn : UInt32) (connHandle : Int32) (agpsType : Int8) (apnTypeMask : UInt32)
  | releaseATL (connHandle : Int32)
  | reportAtlOpenSuccess (agpsType : Int8) (apnName : Option Bytes) (apnLen : UInt32) (bearerType : Int16)
  | reportAtlOpenFailed (agpsType : Int8)
  | reportAtlClosed (agpsType : Int8)
  | handleModemSSR
deriving DecidableEq

/-- The processing of a message. -/
def AtlMsg.proc : AtlMsg → ManagerM Unit
  | .requestATL useEmergencyPdn connHandle agpsType apnTypeMask =>
    Agps.requestATL useEmergencyPdn connHandle agpsType apnTypeMask
  | .releaseATL connHandle => Agps.releaseATL connHandle
  | .reportAtlOpenSuccess agpsType apnName apnLen bearerType =>
    Agps.reportAtlOpenSuccess agpsType apnName apnLen bearerType
  | .reportAtlOpenFailed agpsType => Agps.reportAtlOpenFailed agpsType
  | .reportAtlClosed agpsType => Agps.reportAtlClosed agpsType
  | .handleModemSSR => Agps.handleModemSSR

end Cypfr.Agps
