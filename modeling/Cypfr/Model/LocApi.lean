import Cypfr.Machine.Emit
import Cypfr.Machine.Ledger
import Cypfr.ToMathlib.PackedTable

/-! # Events of the modem

`core/LocApiBase.cpp` keeps the adapters and what events they ask for; `LocApiV02.cpp` registers for these events with
the modem, fewer of them while no session is on, and sends it requests. A request that the modem is too busy for is kept
and sent again when the modem says that its engine is off.

Adapters come and go and change their masks on their own threads. What they ask for is done by one task, which takes
one message at a time. Of the requests only those that the modem answers at once are here, without what they carry.
-/

namespace Cypfr.LocApi

/-- `LOC_API_ADAPTER_EVENT_MASK_T` and `locClientEventMaskType`. -/
abbrev Mask := BitVec 64

/-- The adapters' events, numbered in this order. -/
inductive AdapterBit where
  | reportPosition
  | reportSatellite
  | reportNmea1Hz
  | reportNmeaPosition
  | requestNiNotifyVerify
  | requestAssistanceData
  | requestLocationServer
  | reportIoctl
  | reportStatus
  | requestWifi
  | sensorStatus
  | requestTimeSync
  | reportSpi
  | reportNiGeofence
  | geofenceGenAlert
  | reportGenfenceBreach
  | pedometerCtrl
  | motionCtrl
  | requestWifiApData
  | batchFull
  | batchedPositionReport
  | batchedGenfenceBreachReport
  | gnssMeasurementReport
  | gnssSvPolynomialReport
  | gdtUploadBeginReq
  | gdtUploadEndReq
  | gnssMeasurement
  | requestTimezone
  | reportGenfenceDwellReport
  | requestSrnData
  | requestPositionInjection
  | batchStatus
  | fdclServiceReq
  | reportUnpropagatedPosition
  | bsObsDataServiceReq
  | gnssSvEphemerisReport
  | locSystemInfo
  | gnssNhzMeasurementReport
  | eventReportInfo
  | latencyInformationReport
deriving DecidableEq

/-- `LOC_API_ADAPTER_BIT_PARSED_POSITION_REPORT` and its siblings. -/
def AdapterBit.mask (bit : AdapterBit) : Mask := BitVec.twoPow 64 bit.ctorIdx

/-- The events of the modem that an adapter's event stands for. -/
inductive QmiEvent where
  | positionReport
  | gnssSvInfo
  | nmea
  | niNotifyVerifyReq
  | injectTimeReq
  | injectPredictedOrbitsReq
  | injectPositionReq
  | engineState
  | wifiReq
  | sensorStreamingReadyStatus
  | timeSyncReq
  | setSpiStreamingReport
  | locationServerConnectionReq
  | niGeofenceNotification
  | geofenceGenAlert
  | geofenceBreachNotification
  | pedometerControl
  | motionDataControl
  | batchFullNotification
  | liveBatchedPositionReport
  | injectWifiApDataReq
  | geofenceBatchBreachNotification
  | gnssMeasurementReport
  | gnssSvPolynomialReport
  | gdtUploadBeginReq
  | gdtUploadEndReq
  | geofenceBatchDwellNotification
  | getTimeZoneReq
  | batchingStatus
  | injectSrnApDataReq
  | fdclServiceReq
  | unpropagatedPositionReport
  | bsObsDataServiceReq
  | ephemerisReport
  | nextLsInfoReport
  | gnssNhzMeasurementReport
  | gnssEventReport
  | latencyInformationReport
deriving DecidableEq

/-- `QMI_LOC_EVENT_MASK_POSITION_REPORT_V02` and its siblings. -/
def QmiEvent.mask : QmiEvent → Mask
  | .positionReport => 0x1
  | .gnssSvInfo => 0x2
  | .nmea => 0x4
  | .niNotifyVerifyReq => 0x8
  | .injectTimeReq => 0x10
  | .injectPredictedOrbitsReq => 0x20
  | .injectPositionReq => 0x40
  | .engineState => 0x80
  | .wifiReq => 0x200
  | .sensorStreamingReadyStatus => 0x400
  | .timeSyncReq => 0x800
  | .setSpiStreamingReport => 0x1000
  | .locationServerConnectionReq => 0x2000
  | .niGeofenceNotification => 0x4000
  | .geofenceGenAlert => 0x8000
  | .geofenceBreachNotification => 0x10000
  | .pedometerControl => 0x20000
  | .motionDataControl => 0x40000
  | .batchFullNotification => 0x80000
  | .liveBatchedPositionReport => 0x100000
  | .injectWifiApDataReq => 0x200000
  | .geofenceBatchBreachNotification => 0x400000
  | .gnssMeasurementReport => 0x1000000
  | .gnssSvPolynomialReport => 0x2000000
  | .gdtUploadBeginReq => 0x8000000
  | .gdtUploadEndReq => 0x10000000
  | .geofenceBatchDwellNotification => 0x20000000
  | .getTimeZoneReq => 0x40000000
  | .batchingStatus => 0x80000000
  | .injectSrnApDataReq => 0x200000000
  | .fdclServiceReq => 0x800000000
  | .unpropagatedPositionReport => 0x4000000000
  | .bsObsDataServiceReq => 0x8000000000
  | .ephemerisReport => 0x10000000000
  | .nextLsInfoReport => 0x20000000000
  | .gnssNhzMeasurementReport => 0x80000000000
  | .gnssEventReport => 0x100000000000
  | .latencyInformationReport => 0x800000000000

/-- The adapters' events in the order of `convertMask`. Where the modem reports breaches in batches, these are asked
for. -/
def conversions (batchedBreach : Bool) : List (AdapterBit × List QmiEvent) :=
  [(.reportPosition, [.positionReport]), (.reportUnpropagatedPosition, [.unpropagatedPositionReport]),
    (.reportSatellite, [.gnssSvInfo]), (.reportNmeaPosition, [.nmea, .engineState]),
    (.reportNmea1Hz, [.nmea, .engineState]), (.requestNiNotifyVerify, [.niNotifyVerifyReq]),
    (.requestAssistanceData, [.injectPredictedOrbitsReq, .injectTimeReq]),
    (.requestPositionInjection, [.injectPositionReq]), (.reportStatus, [.engineState]),
    (.requestLocationServer, [.locationServerConnectionReq]), (.requestWifi, [.wifiReq]),
    (.sensorStatus, [.sensorStreamingReadyStatus]), (.requestTimeSync, [.timeSyncReq]),
    (.reportSpi, [.setSpiStreamingReport]), (.reportNiGeofence, [.niGeofenceNotification]),
    (.geofenceGenAlert, [.geofenceGenAlert]), (.reportGenfenceBreach, [.geofenceBreachNotification]),
    (.batchedGenfenceBreachReport,
      [if batchedBreach then .geofenceBatchBreachNotification else .geofenceBreachNotification]),
    (.pedometerCtrl, [.pedometerControl]), (.reportGenfenceDwellReport, [.geofenceBatchDwellNotification]),
    (.motionCtrl, [.motionDataControl]), (.requestWifiApData, [.injectWifiApDataReq]),
    (.batchFull, [.batchFullNotification]), (.batchStatus, [.batchingStatus]),
    (.batchedPositionReport, [.liveBatchedPositionReport]), (.gnssMeasurementReport, [.gnssMeasurementReport]),
    (.gnssSvPolynomialReport, [.gnssSvPolynomialReport]), (.gnssSvEphemerisReport, [.ephemerisReport]),
    (.gdtUploadBeginReq, [.gdtUploadBeginReq]), (.gdtUploadEndReq, [.gdtUploadEndReq]),
    (.gnssMeasurement, [.gnssMeasurementReport]), (.requestTimezone, [.getTimeZoneReq]),
    (.requestSrnData, [.injectSrnApDataReq]), (.fdclServiceReq, [.fdclServiceReq]),
    (.bsObsDataServiceReq, [.bsObsDataServiceReq]), (.locSystemInfo, [.nextLsInfoReport]),
    (.eventReportInfo, [.gnssEventReport]), (.gnssNhzMeasurementReport, [.gnssNhzMeasurementReport]),
    (.latencyInformationReport, [.latencyInformationReport])]

/-- The events of the modem for a mask of the adapters. -/
def convertMask (batchedBreach : Bool) (mask : Mask) : Mask :=
  (conversions batchedBreach).foldl (fun eventMask conversion =>
    if mask &&& conversion.1.mask ≠ 0 then
      conversion.2.foldl (fun eventMask event => eventMask ||| event.mask) eventMask
    else eventMask) 0

/-- The events that are not asked for while no session is on. -/
def sessionEvents : Mask :=
  QmiEvent.mask .positionReport ||| QmiEvent.mask .unpropagatedPositionReport ||| QmiEvent.mask .gnssSvInfo |||
    QmiEvent.mask .nmea ||| QmiEvent.mask .engineState ||| QmiEvent.mask .gnssMeasurementReport |||
    QmiEvent.mask .gnssNhzMeasurementReport ||| QmiEvent.mask .gnssSvPolynomialReport |||
    QmiEvent.mask .ephemerisReport ||| QmiEvent.mask .gnssEventReport ||| QmiEvent.mask .nextLsInfoReport |||
    QmiEvent.mask .latencyInformationReport

/-- A request that is sent with `locSyncSendReq`: whether the modem is busy, whether registering for its engine's state
then succeeds, and whether there is memory to keep the request. -/
structure SyncReq (Request : Type) where
  request : Request
  busy : Bool
  registers : Bool
  copied : Bool

/-- How the modem does while the task is at one message: whether it can be opened, the requests sent to it then and
whether it said what messages it supports, whether it takes the registration for events, the requests that go with that,
and whether it takes the request to stop. -/
structure Modem (Request : Type) where
  opens : Bool
  checks : List (SyncReq Request)
  supportChecked : Bool
  registers : Bool
  wifiStatus : SyncReq Request
  constellation : SyncReq Request
  stops : Bool

/-- `loc_registration_mask_status`. -/
inductive MaskStatus where
  | enabled
  | disabled
  | set

/-- The messages of the task. -/
inductive LocMsg (Adapter Request : Type) where
  | open (mAdapter : Option Adapter)
  | ssr
  | close
  | startTimeBasedTracking (setOperationMode : SyncReq Request)
  | stopFix
  | stopTimeBasedTracking
  | updateEngineState (engineOn : Bool)
  | send (req : SyncReq Request)

/-- The calls of the adapters and the requests that are sent again. -/
inductive Output (Adapter Request : Type) where
  | handleEngineUpEvent (adapter : Adapter)
  | handleEngineDownEvent (adapter : Adapter)
  | resend (request : Request)
deriving DecidableEq

/-- `LocApiV02` with the adapters. An open `clientHandle` has the events that it is registered for. -/
structure System (Adapter Request : Type) where
  mLocAdapters : List (Option Adapter)
  mEvtMask : Adapter → Mask
  msgs : List (LocMsg Adapter Request)
  clientHandle : Option Mask
  mMask : Mask
  mQmiMask : Mask
  mInSession : Bool
  mEngineOn : Bool
  mResenders : List Request

/-- What stays the same: which adapter is the master, the events left to others, and whether the modem reports breaches
in batches. -/
structure Setup (Adapter : Type) where
  mIsMaster : Adapter → Bool
  mExcludedMask : Mask
  batchedBreach : Bool

/-- What happens. An adapter has its first mask before it is added. -/
inductive Event (Adapter Request : Type) where
  | construct (adapter : Adapter) (mask : Mask)
  | addAdapter (adapter : Adapter)
  | removeAdapter (adapter : Adapter)
  | updateEvtMask (adapter : Adapter) (event : Mask) (status : MaskStatus)
  | startTimeBasedTracking (setOperationMode : SyncReq Request)
  | stopFix
  | stopTimeBasedTracking
  | send (req : SyncReq Request)
  | reportEngineState (engineOn : Bool)
  | serviceUnavailable
  | proc (modem : Modem Request)

variable {Adapter Request : Type}

abbrev LocApiM (Adapter Request : Type) := Emit (System Adapter Request) (Output Adapter Request)

def MAX_ADAPTERS : ℕ := 10

namespace System

def initial (Adapter Request : Type) : System Adapter Request :=
  { mLocAdapters := List.replicate MAX_ADAPTERS none, mEvtMask := fun _ => 0, msgs := [], clientHandle := none,
    mMask := 0, mQmiMask := 0, mInSession := false, mEngineOn := false, mResenders := [] }

/-- The adapters that are called for an event. -/
def adapters (s : System Adapter Request) : List Adapter := PackedTable.filled s.mLocAdapters

/-- `LocApiBase::getEvtMask`. -/
def getEvtMask (setup : Setup Adapter) (s : System Adapter Request) : Mask :=
  s.adapters.foldl (fun mask adapter => mask ||| s.mEvtMask adapter) 0 &&& ~~~ setup.mExcludedMask

def isMaster (setup : Setup Adapter) (s : System Adapter Request) : Bool := s.adapters.any setup.mIsMaster

def sendMsg (s : System Adapter Request) (msg : LocMsg Adapter Request) : System Adapter Request :=
  { s with msgs := s.msgs ++ [msg] }

section Adapters

variable [DecidableEq Adapter]

def addAdapter (adapter : Adapter) (s : System Adapter Request) : System Adapter Request :=
  let entered := PackedTable.enter adapter s.mLocAdapters
  let s := { s with mLocAdapters := entered.1 }
  if entered.2 then s.sendMsg (.open (some adapter)) else s

def removeAdapter (adapter : Adapter) (s : System Adapter Request) : System Adapter Request :=
  match PackedTable.find? adapter s.mLocAdapters with
  | none => s
  | some i =>
    let removed := PackedTable.removeAt s.mLocAdapters i
    System.sendMsg { s with mLocAdapters := removed.1 } (if removed.2 = 0 then .close else .open none)

/-- `LocAdapterBase::updateEvtMask`. -/
def updateEvtMask (adapter : Adapter) (event : Mask) (status : MaskStatus) (s : System Adapter Request) :
    System Adapter Request :=
  let mask :=
    match status with
    | .enabled => s.mEvtMask adapter ||| event
    | .disabled => s.mEvtMask adapter &&& ~~~ event
    | .set => event
  System.sendMsg { s with mEvtMask := Function.update s.mEvtMask adapter mask } (.open none)

end Adapters

/-- `locClientRegisterEventMask`, which needs an open client. -/
def register (mask : Mask) (accepted : Bool) (s : System Adapter Request) : System Adapter Request :=
  if accepted then { s with clientHandle := s.clientHandle.map fun _ => mask } else s

def registered (accepted : Bool) (s : System Adapter Request) : Bool := accepted && s.clientHandle.isSome

/-- Register for the state of the engine, unless that is done. -/
def registerEngineState (accepted : Bool) (s : System Adapter Request) : System Adapter Request :=
  if s.mResenders.isEmpty && s.mQmiMask &&& QmiEvent.mask .engineState == 0 then
    s.register (s.mQmiMask ||| QmiEvent.mask .engineState) accepted
  else s

/-- Keep a request. -/
def cache (request : Request) (s : System Adapter Request) : System Adapter Request :=
  { s with mResenders := s.mResenders ++ [request] }

def locSyncSendReq (req : SyncReq Request) (s : System Adapter Request) : System Adapter Request :=
  if req.busy && s.clientHandle.isSome then
    let heard := s.registerEngineState req.registers
    if req.copied then heard.cache req.request else heard
  else s

def adjustMaskIfNoSessionOrEngineOff (qmiMask : Mask) (s : System Adapter Request) : Mask :=
  if !s.mInSession then qmiMask &&& ~~~ sessionEvents
  else if !s.mEngineOn then qmiMask &&& ~~~ QmiEvent.mask .nmea
  else qmiMask

/-- Tell the modem that there is Wi-Fi when it is new to ask for that. -/
def informWifi (modem : Modem Request) (maskDiff qmiMask : Mask) (s : System Adapter Request) :
    System Adapter Request :=
  if maskDiff &&& qmiMask &&& QmiEvent.mask .wifiReq ≠ 0 then s.locSyncSendReq modem.wifiStatus else s

/-- The master sets the constellation when the reports of polynomials are turned on or off. -/
def setConstellation (setup : Setup Adapter) (modem : Modem Request) (maskDiff : Mask) (s : System Adapter Request) :
    System Adapter Request :=
  if s.isMaster setup && maskDiff &&& QmiEvent.mask .gnssSvPolynomialReport != 0 then
    s.locSyncSendReq modem.constellation
  else s

def registerEventMask (setup : Setup Adapter) (modem : Modem Request) (adapterMask : Mask)
    (s : System Adapter Request) : System Adapter Request :=
  let qmiMask := s.adjustMaskIfNoSessionOrEngineOff (convertMask setup.batchedBreach adapterMask)
  let s :=
    if qmiMask ≠ s.mQmiMask then
      let asked := s.register qmiMask modem.registers
      if s.registered modem.registers then
        let maskDiff := qmiMask ^^^ s.mQmiMask
        { (asked.informWifi modem maskDiff qmiMask).setConstellation setup modem maskDiff with mQmiMask := qmiMask }
      else asked
    else s
  { s with mMask := adapterMask }

/-- `open`, and whether it succeeds. It does when the modem does not say what messages it supports. -/
def openClient (setup : Setup Adapter) (modem : Modem Request) (mask : Mask) (s : System Adapter Request) :
    System Adapter Request × Bool :=
  let newMask := mask &&& ~~~ setup.mExcludedMask
  match s.clientHandle with
  | some _ => (s.registerEventMask setup modem newMask, true)
  | none =>
    if modem.opens then
      let opened := modem.checks.foldl (fun s req => s.locSyncSendReq req) { s with clientHandle := some 0 }
      (if modem.supportChecked then opened.registerEventMask setup modem newMask else opened, true)
    else ({ s with mMask := 0, mQmiMask := 0 }, false)

/-- `close`. -/
def closeClient (s : System Adapter Request) : System Adapter Request :=
  { s with clientHandle := none, mMask := 0, mQmiMask := 0, mInSession := false }

/-- The end of a session. -/
def stopSession (setup : Setup Adapter) (modem : Modem Request) (s : System Adapter Request) : System Adapter Request :=
  let stopped := { s with mInSession := false }
  if !stopped.mEngineOn then stopped.registerEventMask setup modem stopped.mMask else stopped

end System

/-- The `proc` of the messages. -/
def LocMsg.proc (setup : Setup Adapter) (modem : Modem Request) :
    LocMsg Adapter Request → LocApiM Adapter Request Unit
  | .open mAdapter => do
    let s ← Emit.get
    let opened := s.openClient setup modem (s.getEvtMask setup)
    Emit.modify fun _ => opened.1
    match mAdapter with
    | none => pure ()
    | some adapter => if opened.2 then Emit.emit (.handleEngineUpEvent adapter) else pure ()
  | .ssr => do
    Emit.modify System.closeClient
    let s ← Emit.get
    let opened := s.openClient setup modem (s.getEvtMask setup)
    Emit.modify fun _ => opened.1
    if opened.2 then s.adapters.forM fun adapter => Emit.emit (.handleEngineUpEvent adapter) else pure ()
  | .close => Emit.modify System.closeClient
  | .startTimeBasedTracking setOperationMode =>
    Emit.modify fun s =>
      let started := { s with mInSession := true }
      (started.registerEventMask setup modem started.mMask).locSyncSendReq setOperationMode
  | .stopFix => Emit.modify (System.stopSession setup modem)
  | .stopTimeBasedTracking => Emit.modify fun s => if modem.stops then s.stopSession setup modem else s
  | .updateEngineState engineOn => do
    Emit.modify fun s => System.registerEventMask setup modem s.mMask { s with mEngineOn := engineOn }
    if engineOn then pure ()
    else do
      let s ← Emit.get
      s.mResenders.forM fun request => Emit.emit (.resend request)
      Emit.modify fun s => { s with mResenders := [] }
  | .send req => Emit.modify fun s => s.locSyncSendReq req

namespace System

/-- The task takes a message. -/
def runTask (setup : Setup Adapter) (modem : Modem Request) : LocApiM Adapter Request Unit := do
  let s ← Emit.get
  match s.msgs with
  | [] => pure ()
  | msg :: rest => do
    Emit.modify fun s => { s with msgs := rest }
    msg.proc setup modem

/-- Whether the modem says when its engine is on or off. -/
def hearsEngineState (s : System Adapter Request) : Bool :=
  s.clientHandle.any fun mask => mask &&& QmiEvent.mask .engineState != 0

end System

variable [DecidableEq Adapter]

/-- An event. -/
def Event.happen (setup : Setup Adapter) : Event Adapter Request → LocApiM Adapter Request Unit
  | .construct adapter mask =>
    Emit.modify fun s =>
      if adapter ∈ s.adapters then s else { s with mEvtMask := Function.update s.mEvtMask adapter mask }
  | .addAdapter adapter => Emit.modify (System.addAdapter adapter)
  | .removeAdapter adapter => Emit.modify (System.removeAdapter adapter)
  | .updateEvtMask adapter event status => Emit.modify (System.updateEvtMask adapter event status)
  | .startTimeBasedTracking setOperationMode =>
    Emit.modify fun s => s.sendMsg (.startTimeBasedTracking setOperationMode)
  | .stopFix => Emit.modify fun s => s.sendMsg .stopFix
  | .stopTimeBasedTracking => Emit.modify fun s => s.sendMsg .stopTimeBasedTracking
  | .send req => Emit.modify fun s => s.sendMsg (.send req)
  | .reportEngineState engineOn =>
    Emit.modify fun s => if s.hearsEngineState then s.sendMsg (.updateEngineState engineOn) else s
  | .serviceUnavailable => do
    Emit.modify fun s => s.sendMsg .ssr
    let s ← Emit.get
    s.adapters.forM fun adapter => Emit.emit (.handleEngineDownEvent adapter)
  | .proc modem => System.runTask setup modem

/-- The state after an event. -/
def System.step (setup : Setup Adapter) (s : System Adapter Request) (e : Event Adapter Request) :
    System Adapter Request :=
  (e.happen setup).next s

/-- What is called and sent again in a run. -/
def System.outputs (setup : Setup Adapter) :
    System Adapter Request → List (Event Adapter Request) → List (Output Adapter Request) :=
  Machine.gathered (step setup) fun s e => (e.happen setup).emitted s

end Cypfr.LocApi
