import Cypfr.Model.LocHalDaemon
import Cypfr.ToMathlib.UnorderedSet

/-! # The location daemon

`location_hal_daemon/LocationApiService.cpp`: the registered clients with their handlers, the power state, and the
clients that wait for a single fix of the network. What `LocationAPI` returns to a start is an argument.

A client to which a message cannot be sent is purged like one that leaves; this is left out.
-/

namespace Cypfr.HalDaemon

open Tracking Batching Geofence ClientBase

inductive PowerStateType where
  | POWER_STATE_UNKNOWN
  | POWER_STATE_SUSPEND
  | POWER_STATE_RESUME
  | POWER_STATE_SHUTDOWN
deriving DecidableEq

/-- Tracking does not run while the device is suspended or shut down. -/
def PowerStateType.isDown (state : PowerStateType) : Prop := state = .POWER_STATE_SUSPEND ∨ state = .POWER_STATE_SHUTDOWN

instance PowerStateType.decidableIsDown (state : PowerStateType) : Decidable state.isDown :=
  inferInstanceAs (Decidable (_ ∨ _))

structure LocationApiService (Client : Type) where
  mClients : AList fun _ : Client => LocHalDaemonClientHandler
  mPositionMode : GnssSuplMode
  mPowerState : PowerStateType
  mOptInTerrestrialService : ℤ
  mTerrestrialFixReqs : UnorderedSet Client

/-- What the service does: through the handler of a client, with the engines and with the network location. The use of
a handler that is not there is `nullClient`. -/
inductive ServiceOutput (Client : Type) where
  | handler (client : Client) (output : HandlerOutput)
  | gnssDeleteAidingData
  | updateSystemPowerState (state : PowerStateType)
  | startTimer (client : Client) (timeoutMsec : UInt32)
  | startNetworkLocation
  | stopNetworkLocation
  | nullClient
deriving DecidableEq

abbrev ServiceM (Client : Type) := Emit (LocationApiService Client) (ServiceOutput Client)

namespace LocationApiService

variable {Client : Type} [DecidableEq Client]

/-- The service after a start without a default client. -/
def initial (mode : GnssSuplMode) : LocationApiService Client :=
  { mClients := ∅, mPositionMode := mode, mPowerState := .POWER_STATE_UNKNOWN, mOptInTerrestrialService := -1,
    mTerrestrialFixReqs := .empty }

/-- `getClient`. -/
def getClient (s : LocationApiService Client) (client : Client) : Option LocHalDaemonClientHandler :=
  s.mClients.lookup client

/-- Use the handler of a client, if it is registered. -/
def onClient {α : Type} (client : Client) (p : HandlerM α) : ServiceM Client (Option α) := fun s =>
  match s.getClient client with
  | none => (none, s, [])
  | some h =>
    (some (p.result h), { s with mClients := s.mClients.insert client (p.next h) }, (p.emitted h).map (.handler client))

def newClient (client : Client) (isClientApi : Bool) : ServiceM Client Unit :=
  Emit.modify fun s =>
    if client ∈ s.mClients then s
    else { s with mClients := s.mClients.insert client (LocHalDaemonClientHandler.construct isClientApi) }

def deleteClient (client : Client) : ServiceM Client Unit :=
  Emit.modify fun s =>
    if client ∈ s.mClients then
      { s with mClients := s.mClients.erase client, mTerrestrialFixReqs := s.mTerrestrialFixReqs.erase client }
    else
      s

section Tracking

open LocHalDaemonClientHandler

/-- The branches of `startTracking` on a handler. -/
def startTrackingHandler (locationOption : LocationOptions) (id : UInt32) : HandlerM Unit := do
  let sessionId ← startTrackingWith locationOption id
  if sessionId = 0 then
    pure ()
  else do
    Emit.modify fun h => { h with mTracking := true }
    push .E_LOCAPI_START_TRACKING_MSG_ID

def startTracking (client : Client) (locOptions : LocationOptions) (id : UInt32) : ServiceM Client Unit := do
  let s ← Emit.get
  let _ ← onClient client (startTrackingHandler { locOptions with mode := s.mPositionMode } id)

def stopTrackingHandler : HandlerM Unit := do
  Emit.modify fun h => { h with mTracking := false }
  unsubscribeLocationSessionCb
  LocHalDaemonClientHandler.stopTracking
  push .E_LOCAPI_STOP_TRACKING_MSG_ID

def stopTracking (client : Client) : ServiceM Client Unit := do
  let _ ← onClient client stopTrackingHandler

def updateTrackingOptionsHandler (locationOption : LocationOptions) : HandlerM Unit := do
  LocHalDaemonClientHandler.updateTrackingOptions locationOption
  push .E_LOCAPI_UPDATE_TRACKING_OPTIONS_MSG_ID

def updateTrackingOptions (client : Client) (locOptions : LocationOptions) : ServiceM Client Unit := do
  let s ← Emit.get
  let _ ← onClient client (updateTrackingOptionsHandler { locOptions with mode := s.mPositionMode })

/-- The body of the loop of `suspendAllTrackingSessions`. -/
def suspendHandler : HandlerM Unit := do
  let h ← Emit.get
  if h.mTracking then do
    LocHalDaemonClientHandler.stopTracking
    push .E_LOCAPI_STOP_TRACKING_MSG_ID
  else
    pure ()

def suspendAllTrackingSessions : ServiceM Client Unit := do
  let s ← Emit.get
  s.mClients.keys.forM fun client => do
    let _ ← onClient client suspendHandler

/-- The body of the loop of `resumeAllTrackingSessions`, with whether the loop goes on. -/
def resumeHandler (id : UInt32) : HandlerM Bool := do
  let h ← Emit.get
  if h.mTracking then do
    let sessionId ← LocHalDaemonClientHandler.startTracking id
    if sessionId = 0 then
      return false
    else do
      push .E_LOCAPI_START_TRACKING_MSG_ID
      return true
  else
    return true

/-- Resume clients one after the other, until one cannot be. -/
def resumeClients (ids : Client → UInt32) : List Client → ServiceM Client Unit
  | [] => pure ()
  | client :: rest => do
    let resumed ← onClient client (resumeHandler (ids client))
    if resumed = some false then pure () else resumeClients ids rest

def resumeAllTrackingSessions (ids : Client → UInt32) : ServiceM Client Unit := do
  let s ← Emit.get
  resumeClients ids s.mClients.keys

def configAidingDataDeletion (ids : Client → UInt32) : ServiceM Client Unit := do
  suspendAllTrackingSessions
  Emit.emit .gnssDeleteAidingData
  let s ← Emit.get
  if s.mPowerState.isDown then pure () else resumeAllTrackingSessions ids

def onPowerEvent (powerState : PowerStateType) (ids : Client → UInt32) : ServiceM Client Unit := do
  Emit.modify fun s => { s with mPowerState := powerState }
  (if powerState.isDown then suspendAllTrackingSessions
   else if powerState = .POWER_STATE_RESUME then resumeAllTrackingSessions ids
   else pure ())
  Emit.emit (.updateSystemPowerState powerState)

end Tracking

section Batching

open LocHalDaemonClientHandler

def startBatchingHandler (intervalInMs distanceInMeters : ℕ) (batchingMode : BatchingMode) (id : UInt32) :
    HandlerM Unit := do
  let batchingId ← LocHalDaemonClientHandler.startBatching intervalInMs distanceInMeters batchingMode id
  if batchingId = 0 then
    pure ()
  else do
    Emit.modify fun h => { h with mBatching := true, mBatchingMode := batchingMode }
    push .E_LOCAPI_START_BATCHING_MSG_ID

def stopBatchingHandler : HandlerM Unit := do
  Emit.modify fun h => { h with mBatching := false, mBatchingMode := .noAutoReport }
  updateSubscription 0
  LocHalDaemonClientHandler.stopBatching
  push .E_LOCAPI_STOP_BATCHING_MSG_ID

def updateBatchingOptionsHandler (intervalInMs distanceInMeters : ℕ) (batchingMode : BatchingMode) : HandlerM Unit := do
  LocHalDaemonClientHandler.updateBatchingOptions intervalInMs distanceInMeters batchingMode
  push .E_LOCAPI_UPDATE_BATCHING_OPTIONS_MSG_ID

def startBatching (client : Client) (intervalInMs distanceInMeters : ℕ) (batchingMode : BatchingMode) (id : UInt32) :
    ServiceM Client Unit := do
  let _ ← onClient client (startBatchingHandler intervalInMs distanceInMeters batchingMode id)

def stopBatching (client : Client) : ServiceM Client Unit := do
  let _ ← onClient client stopBatchingHandler

def updateBatchingOptions (client : Client) (intervalInMs distanceInMeters : ℕ) (batchingMode : BatchingMode) :
    ServiceM Client Unit := do
  let _ ← onClient client (updateBatchingOptionsHandler intervalInMs distanceInMeters batchingMode)

end Batching

section Geofences

open LocHalDaemonClientHandler

/-- A geofence as a client sends it. -/
structure GeofencePayload where
  gfClientId : UInt32
  gfOption : GeofenceOption
  gfInfo : GeofenceInfo
deriving DecidableEq

def MAX_GEOFENCE_COUNT : ℕ := 20

/-- The body of `addGeofences`, with the identifiers that `LocationAPI` returns. -/
def addGeofencesHandler (gfPayload : List GeofencePayload) (ids : Option (List UInt32)) : HandlerM Unit := do
  if gfPayload.length > MAX_GEOFENCE_COUNT then
    pure ()
  else do
    let clientIds := gfPayload.map (·.gfClientId)
    let sessions ← LocHalDaemonClientHandler.addGeofences (gfPayload.map (·.gfOption)) (gfPayload.map (·.gfInfo)) ids
    match sessions with
    | none => pure ()
    | some sessions => do
      setGeofenceIds clientIds sessions
      pushGf .E_LOCAPI_ADD_GEOFENCES_MSG_ID

/-- The common body of the requests for geofences that were added. -/
def geofencesHandler (call : List UInt32 → HandlerM Unit) (msgId : ELocMsgID) (gfIds : List UInt32) : HandlerM Unit := do
  let sessions ← getSessionIds gfIds
  match sessions with
  | none => pure ()
  | some sessions => do
    call sessions
    pushGf msgId

def removeGeofencesHandler : List UInt32 → HandlerM Unit :=
  geofencesHandler LocHalDaemonClientHandler.removeGeofences .E_LOCAPI_REMOVE_GEOFENCES_MSG_ID

def modifyGeofencesHandler (gfPayload : List GeofencePayload) : HandlerM Unit := do
  if gfPayload.length > MAX_GEOFENCE_COUNT then
    pure ()
  else
    geofencesHandler (LocHalDaemonClientHandler.modifyGeofences · (gfPayload.map (·.gfOption)))
      .E_LOCAPI_MODIFY_GEOFENCES_MSG_ID (gfPayload.map (·.gfClientId))

def pauseGeofencesHandler : List UInt32 → HandlerM Unit :=
  geofencesHandler LocHalDaemonClientHandler.pauseGeofences .E_LOCAPI_PAUSE_GEOFENCES_MSG_ID

def resumeGeofencesHandler : List UInt32 → HandlerM Unit :=
  geofencesHandler LocHalDaemonClientHandler.resumeGeofences .E_LOCAPI_RESUME_GEOFENCES_MSG_ID

end Geofences

section Terrestrial

open LocHalDaemonClientHandler

def getSingleTerrestrialPos (client : Client) (timeoutMsec : UInt32) : ServiceM Client Unit := do
  let s ← Emit.get
  if s.mOptInTerrestrialService ≠ 1 then do
    let _ ← onClient client (sendTerrestrialFix .notSupported)
  else do
    Emit.modify fun s => { s with mTerrestrialFixReqs := s.mTerrestrialFixReqs.insert client }
    Emit.emit (.startTimer client timeoutMsec)
    let s ← Emit.get
    if s.mTerrestrialFixReqs.elems.length = 1 then Emit.emit .startNetworkLocation else pure ()

def gtpFixRequestTimeout (client : Client) : ServiceM Client Unit := do
  let s ← Emit.get
  if client ∈ s.mTerrestrialFixReqs then do
    let _ ← onClient client (sendTerrestrialFix .timeout)
    Emit.modify fun s => { s with mTerrestrialFixReqs := s.mTerrestrialFixReqs.erase client }
    let s ← Emit.get
    if s.mTerrestrialFixReqs.elems.length = 1 then Emit.emit .stopNetworkLocation else pure ()
  else
    pure ()

/-- The fix for one of the clients that wait, whose handler is not tested. -/
def sendFix (client : Client) : ServiceM Client Unit := do
  let sent ← onClient client (sendTerrestrialFix .success)
  if sent = none then Emit.emit .nullClient else pure ()

def onGtpWwanTrackingCallback (hasLatLong : Bool) : ServiceM Client Unit := do
  let s ← Emit.get
  if s.mTerrestrialFixReqs.elems.length ≠ 0 ∧ hasLatLong = true ∧ s.mOptInTerrestrialService = 1 then do
    s.mTerrestrialFixReqs.elems.forM sendFix
    Emit.modify fun s => { s with mTerrestrialFixReqs := .empty }
    Emit.emit .stopNetworkLocation
  else
    pure ()

end Terrestrial

end LocationApiService

end Cypfr.HalDaemon
