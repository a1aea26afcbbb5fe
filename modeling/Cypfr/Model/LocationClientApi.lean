import Cypfr.Model.LocationApiService

/-! # The client library

`location/client_api/src/LocationClientApiImpl.cpp`: a client object keeps the session that its user asked for and
tells the daemon of it. What the user calls and what the daemon sends are messages of one task, which takes them in
order. Here are the registration with the daemon, the position session and its callbacks; batching, geofences and
the reports are left out.
-/

namespace Cypfr.ClientApi

open Tracking HalDaemon

section CallbackBits

def E_LOC_CB_DISTANCE_BASED_TRACKING_BIT : UInt32 := (1 : UInt32) <<< 0
def E_LOC_CB_GNSS_LOCATION_INFO_BIT : UInt32 := (1 : UInt32) <<< 1
def E_LOC_CB_GNSS_SV_BIT : UInt32 := (1 : UInt32) <<< 2
def E_LOC_CB_GNSS_NMEA_BIT : UInt32 := (1 : UInt32) <<< 3
def E_LOC_CB_GNSS_DATA_BIT : UInt32 := (1 : UInt32) <<< 4
def E_LOC_CB_SYSTEM_INFO_BIT : UInt32 := (1 : UInt32) <<< 5
def E_LOC_CB_BATCHING_BIT : UInt32 := (1 : UInt32) <<< 6
def E_LOC_CB_BATCHING_STATUS_BIT : UInt32 := (1 : UInt32) <<< 7
def E_LOC_CB_GEOFENCE_BREACH_BIT : UInt32 := (1 : UInt32) <<< 8
def E_LOC_CB_ENGINE_LOCATIONS_INFO_BIT : UInt32 := (1 : UInt32) <<< 9
def E_LOC_CB_SIMPLE_LOCATION_INFO_BIT : UInt32 := (1 : UInt32) <<< 10
def E_LOC_CB_GNSS_MEAS_BIT : UInt32 := (1 : UInt32) <<< 11

end CallbackBits

/-- The callbacks of a call: whether each is set. -/
structure LocationCallbacks extends Tracking.LocationCallbacks where
  batchingCb : Bool
  batchingStatusCb : Bool
  geofenceBreachCb : Bool

inductive LocationResponse where
  | LOCATION_RESPONSE_SUCCESS
  | LOCATION_RESPONSE_UNKOWN_FAILURE
  | LOCATION_RESPONSE_NOT_SUPPORTED
  | LOCATION_RESPONSE_TIMEOUT
deriving DecidableEq

def parseLocationError : LocationError → LocationResponse
  | .success => .LOCATION_RESPONSE_SUCCESS
  | .notSupported => .LOCATION_RESPONSE_NOT_SUPPORTED
  | .timeout => .LOCATION_RESPONSE_TIMEOUT
  | _ => .LOCATION_RESPONSE_UNKOWN_FAILURE

/-- A message of the client to the daemon. -/
inductive ClientMsg where
  | clientRegister
  | updateCallbacks (locationCallbacks : UInt32)
  | startTracking (locOptions : LocationOptions)
  | updateTrackingOptions (locOptions : LocationOptions)
  | stopTracking
deriving DecidableEq

/-- A message of the client's task: a call of the user, the registration, or a message of the daemon. -/
inductive Task where
  | updateCallbackFunctions (responsecb locationcb : Bool)
  | updateCallbacks (callbacks : LocationCallbacks)
  | updateLocationSystemInfoListener (sysInfoCb : Bool)
  | startTracking (option : TrackingOptions)
  | stopTracking
  | clientRegister
  | capabilities
  | halReady
  | genericResp (msgId : ELocMsgID) (err : LocationError)

/-- A client object. The callbacks are kept as whether they are set; the identifier of the client, which is also that
of its session, is not the invalid one. -/
structure LocationClientApiImpl where
  mClientId : UInt32
  mSessionId : UInt32
  mHalRegistered : Bool
  mCallbacksMask : UInt32
  mLocationOptions : LocationOptions
  mPositionSessionResponseCbPending : Bool
  mResponseCb : Bool
  mLocationCb : Bool
  mLocationSysInfoCb : Bool
  valid : mClientId ≠ 0

/-- What a client does when its task takes a message: it sends to the daemon, posts to its own task, and calls back. -/
inductive ClientOutput where
  | send (msg : ClientMsg)
  | post (task : Task)
  | responseCb (response : LocationResponse)

abbrev ClientM := Emit LocationClientApiImpl ClientOutput

/-- Neither an interval nor a distance: the session only listens to the fixes of others. -/
def IsPassive (options : LocationOptions) : Prop := options.minInterval = 0 ∧ options.minDistance = 0

instance (options : LocationOptions) : Decidable (IsPassive options) := inferInstanceAs (Decidable (_ ∧ _))

/-- `isOptionUpdated`. -/
def IsOptionUpdated (kept option : LocationOptions) : Prop :=
  kept.minInterval ≠ option.minInterval ∨ kept.minDistance ≠ option.minDistance ∨
    kept.locReqEngTypeMask ≠ option.locReqEngTypeMask

instance (kept option : LocationOptions) : Decidable (IsOptionUpdated kept option) :=
  inferInstanceAs (Decidable (_ ∨ _))

namespace LocationClientApiImpl

/-- A client object as it is constructed. -/
def construct (clientId : UInt32) (valid : clientId ≠ 0) : LocationClientApiImpl :=
  { mClientId := clientId, mSessionId := 0, mHalRegistered := false, mCallbacksMask := 0,
    mLocationOptions := TrackingOptions.zero.toLocationOptions, mPositionSessionResponseCbPending := false,
    mResponseCb := false, mLocationCb := false, mLocationSysInfoCb := false, valid := valid }

def updateCallbackFunctions (responsecb locationcb : Bool) : ClientM Unit :=
  Emit.modify fun impl => { impl with mResponseCb := responsecb, mLocationCb := locationcb }

/-- The mask for the callbacks of a call, and for the one that is not related to a session. -/
def callBacksMask (impl : LocationClientApiImpl) (callbacks : LocationCallbacks) : UInt32 :=
  (if callbacks.trackingCb then E_LOC_CB_DISTANCE_BASED_TRACKING_BIT else 0) |||
  (if callbacks.gnssLocationInfoCb then
    if impl.mLocationCb then E_LOC_CB_SIMPLE_LOCATION_INFO_BIT else E_LOC_CB_GNSS_LOCATION_INFO_BIT
   else 0) |||
  (if callbacks.engineLocationsInfoCb then E_LOC_CB_ENGINE_LOCATIONS_INFO_BIT else 0) |||
  (if callbacks.gnssSvCb then E_LOC_CB_GNSS_SV_BIT else 0) |||
  (if callbacks.gnssNmeaCb then E_LOC_CB_GNSS_NMEA_BIT else 0) |||
  (if callbacks.gnssDataCb then E_LOC_CB_GNSS_DATA_BIT else 0) |||
  (if callbacks.gnssMeasurementsCb then E_LOC_CB_GNSS_MEAS_BIT else 0) |||
  (if impl.mLocationSysInfoCb then E_LOC_CB_SYSTEM_INFO_BIT else 0) |||
  (if callbacks.batchingCb then E_LOC_CB_BATCHING_BIT else 0) |||
  (if callbacks.batchingStatusCb then E_LOC_CB_BATCHING_STATUS_BIT else 0) |||
  (if callbacks.geofenceBreachCb then E_LOC_CB_GEOFENCE_BREACH_BIT else 0)

/-- Send to the daemon if the client is registered. -/
def sendIfRegistered (msg : LocationClientApiImpl → ClientMsg) : ClientM Unit := do
  let impl ← Emit.get
  if impl.mHalRegistered then Emit.emit (.send (msg impl)) else pure ()

def updateCallbacks (callbacks : LocationCallbacks) : ClientM Unit := do
  Emit.modify fun impl => { impl with mPositionSessionResponseCbPending := true }
  let impl ← Emit.get
  if impl.mCallbacksMask ≠ impl.callBacksMask callbacks then do
    Emit.modify fun impl => { impl with mCallbacksMask := impl.callBacksMask callbacks }
    sendIfRegistered fun impl => .updateCallbacks impl.mCallbacksMask
  else
    pure ()

def updateLocationSystemInfoListener (sysInfoCb : Bool) : ClientM Unit := do
  let impl ← Emit.get
  if sysInfoCb ≠ impl.mLocationSysInfoCb then do
    Emit.modify fun impl => { impl with
      mCallbacksMask :=
        if sysInfoCb then impl.mCallbacksMask ||| E_LOC_CB_SYSTEM_INFO_BIT
        else impl.mCallbacksMask &&& ~~~ E_LOC_CB_SYSTEM_INFO_BIT
      mLocationSysInfoCb := sysInfoCb }
    sendIfRegistered fun impl => .updateCallbacks impl.mCallbacksMask
  else
    pure ()

def invokePositionSessionResponseCb (responseCode : LocationResponse) : ClientM Unit := do
  let impl ← Emit.get
  if impl.mPositionSessionResponseCbPending then do
    (if impl.mResponseCb then Emit.emit (.responseCb responseCode) else pure ())
    Emit.modify fun impl => { impl with mPositionSessionResponseCbPending := false }
  else
    pure ()

/-- A session that only listens has none at the daemon: with the change to or from it that of the daemon is stopped or
started. -/
def updateTrackingOptionsSync (option : LocationOptions) : ClientM Unit := do
  let impl ← Emit.get
  (if IsPassive option ∧ ¬ IsPassive impl.mLocationOptions then
    Emit.emit (.send .stopTracking)
  else if ¬ IsPassive option ∧ IsPassive impl.mLocationOptions then
    Emit.emit (.send (.startTracking option))
  else
    Emit.emit (.send (.updateTrackingOptions option)))
  Emit.modify fun impl => { impl with mLocationOptions := option }

/-- Keep the options and take the identifier of the client as that of the session. -/
def keepSession (option : LocationOptions) : ClientM Unit :=
  Emit.modify fun impl => { impl with mLocationOptions := option, mSessionId := impl.mClientId }

def startTracking (option : LocationOptions) : ClientM Unit := do
  let impl ← Emit.get
  if impl.mHalRegistered = false then
    keepSession option
  else if impl.mSessionId = 0 then do
    keepSession option
    if IsPassive option then pure () else Emit.emit (.send (.startTracking option))
  else if IsOptionUpdated impl.mLocationOptions option then
    updateTrackingOptionsSync option
  else
    invokePositionSessionResponseCb .LOCATION_RESPONSE_SUCCESS

def stopTracking : ClientM Unit := do
  let impl ← Emit.get
  (if impl.mSessionId = impl.mClientId then do
    (if impl.mHalRegistered = true ∧ ¬ IsPassive impl.mLocationOptions then Emit.emit (.send .stopTracking)
     else pure ())
    Emit.modify fun impl => { impl with
      mLocationOptions := { impl.mLocationOptions with minInterval := 0, minDistance := 0 }
      mCallbacksMask := if impl.mLocationSysInfoCb then E_LOC_CB_SYSTEM_INFO_BIT else 0 }
  else
    pure ())
  Emit.modify fun impl => { impl with mSessionId := 0 }

/-- The session is started again by a message to the client itself. -/
def capabilitesCallback : ClientM Unit := do
  Emit.modify fun impl => { impl with mHalRegistered := true }
  let impl ← Emit.get
  (if impl.mCallbacksMask ≠ 0 then Emit.emit (.send (.updateCallbacks impl.mCallbacksMask)) else pure ())
  if impl.mSessionId ≠ 0 then do
    Emit.modify fun impl => { impl with mSessionId := 0 }
    Emit.emit (.post (.startTracking (TrackingOptions.zero.setLocationOptions impl.mLocationOptions)))
  else
    pure ()

/-- The daemon has restarted: the client registers again. -/
def onHalReady : ClientM Unit := do
  Emit.modify fun impl => { impl with mHalRegistered := false }
  Emit.emit (.post .clientRegister)

end LocationClientApiImpl

open LocationClientApiImpl

/-- What the client does with a message of its task. -/
def Task.proc : Task → ClientM Unit
  | .updateCallbackFunctions responsecb locationcb =>
    LocationClientApiImpl.updateCallbackFunctions responsecb locationcb
  | .updateCallbacks callbacks => LocationClientApiImpl.updateCallbacks callbacks
  | .updateLocationSystemInfoListener sysInfoCb => LocationClientApiImpl.updateLocationSystemInfoListener sysInfoCb
  | .startTracking option => LocationClientApiImpl.startTracking option.toLocationOptions
  | .stopTracking => LocationClientApiImpl.stopTracking
  | .clientRegister => Emit.emit (.send .clientRegister)
  | .capabilities => capabilitesCallback
  | .halReady => onHalReady
  | .genericResp msgId err =>
    if msgId = .E_LOCAPI_STOP_TRACKING_MSG_ID then pure ()
    else invokePositionSessionResponseCb (parseLocationError err)

/-- `sizeof(LocationOptions)`. -/
def sizeofLocationOptions : UInt32 := 20

/-- Options as the daemon reads them from a message: of the engines the message has the bits of three. -/
def overWire (options : LocationOptions) : LocationOptions :=
  { options with size := sizeofLocationOptions, locReqEngTypeMask := options.locReqEngTypeMask &&& 7 }

section System

variable {Client : Type} [DecidableEq Client]

/-- What the service does with a message of a client; `id` is what `LocationAPI` returns to a start. -/
def ClientMsg.serve (client : Client) (id : UInt32) : ClientMsg → ServiceM Client Unit
  | .clientRegister => LocationApiService.newClient client true
  | .updateCallbacks locationCallbacks => do
    let _ ← LocationApiService.onClient client (LocHalDaemonClientHandler.updateSubscription locationCallbacks)
  | .startTracking locOptions => LocationApiService.startTracking client (overWire locOptions) id
  | .updateTrackingOptions locOptions => LocationApiService.updateTrackingOptions client (overWire locOptions)
  | .stopTracking => LocationApiService.stopTracking client

/-- The session that `LocationAPI` runs for a handler, after a call of the handler. -/
def apiSession (session : Option TrackingOptions) : HandlerOutput → Option TrackingOptions
  | .startTracking options => some options
  | .updateTrackingOptions _ options => some options
  | .stopTracking _ => none
  | _ => session

/-- The session of the client after an output of the service. -/
def clientSession (client : Client) (session : Option TrackingOptions) : ServiceOutput Client → Option TrackingOptions
  | .handler other output => if other = client then apiSession session output else session
  | _ => session

/-- The clients and the daemon. Between them are the messages that the daemon has not yet read and those that the task
of a client has not yet taken; `owed` says that `LocationAPI` has yet to tell a new handler its capabilities. -/
structure System (Client : Type) where
  impl : Client → LocationClientApiImpl
  tasks : Client → List Task
  toDaemon : Client → List ClientMsg
  service : LocationApiService Client
  session : Client → Option TrackingOptions
  owed : Client → Bool

/-- A call of the user of a client. -/
inductive UserCall where
  | updateCallbackFunctions (responsecb locationcb : Bool)
  | updateCallbacks (callbacks : LocationCallbacks)
  | updateLocationSystemInfoListener (sysInfoCb : Bool)
  | startTracking (option : TrackingOptions)
  | stopTracking

def UserCall.task : UserCall → Task
  | .updateCallbackFunctions responsecb locationcb => .updateCallbackFunctions responsecb locationcb
  | .updateCallbacks callbacks => .updateCallbacks callbacks
  | .updateLocationSystemInfoListener sysInfoCb => .updateLocationSystemInfoListener sysInfoCb
  | .startTracking option => .startTracking option
  | .stopTracking => .stopTracking

/-- The identifiers of clients and sessions: zero is the invalid one. -/
abbrev ValidId := { id : UInt32 // id ≠ 0 }

/-- One step: a user calls, the task of a client takes a message, the daemon reads one, `LocationAPI` tells a handler
its capabilities or answers it, or the daemon restarts. -/
inductive Event (Client : Type) where
  | call (client : Client) (c : UserCall)
  | proc (client : Client)
  | read (client : Client) (id : ValidId)
  | capabilities (client : Client)
  | answer (client : Client) (err : LocationError)
  | restart

def sentMsgs (outputs : List ClientOutput) : List ClientMsg :=
  outputs.filterMap fun
    | .send msg => some msg
    | _ => none

def postedTasks (outputs : List ClientOutput) : List Task :=
  outputs.filterMap fun
    | .post task => some task
    | _ => none

/-- The answers to the client among the outputs of the service. -/
def answers (client : Client) (outputs : List (ServiceOutput Client)) : List Task :=
  outputs.filterMap fun
    | .handler other (.genericResp msgId err) => if other = client then some (.genericResp msgId err) else none
    | _ => none

namespace System

/-- The clients have been constructed, each about to register, and the daemon runs. -/
def initial (mode : GnssSuplMode) (clientId : Client → ValidId) : System Client :=
  { impl := fun client => .construct (clientId client).val (clientId client).property,
    tasks := fun _ => [.clientRegister], toDaemon := fun _ => [], service := .initial mode,
    session := fun _ => none, owed := fun _ => false }

/-- The task of the client takes its oldest message. -/
def proc (s : System Client) (client : Client) : System Client :=
  match s.tasks client with
  | [] => s
  | task :: rest =>
    { s with
      impl := Function.update s.impl client (task.proc.next (s.impl client))
      tasks := Function.update s.tasks client (rest ++ postedTasks (task.proc.emitted (s.impl client)))
      toDaemon :=
        Function.update s.toDaemon client (s.toDaemon client ++ sentMsgs (task.proc.emitted (s.impl client))) }

/-- The daemon reads the oldest message of the client. A handler that is new is owed the capabilities. -/
def read (s : System Client) (client : Client) (id : UInt32) : System Client :=
  match s.toDaemon client with
  | [] => s
  | msg :: rest =>
    { s with
      toDaemon := Function.update s.toDaemon client rest
      service := (msg.serve client id).next s.service
      session := Function.update s.session client
        (((msg.serve client id).emitted s.service).foldl (clientSession client) (s.session client))
      owed := Function.update s.owed client
        (s.owed client || (msg == .clientRegister && (s.service.getClient client).isNone)) }

/-- `onCapabilitiesCallback`, for a handler that is there. -/
def capabilities (s : System Client) (client : Client) : System Client :=
  if (s.service.getClient client).isSome then
    { s with
      tasks := Function.update s.tasks client (s.tasks client ++ [.capabilities])
      owed := Function.update s.owed client false }
  else
    s

/-- `LocationAPI` answers a call of the handler. -/
def answer (s : System Client) (client : Client) (err : LocationError) : System Client :=
  let program : ServiceM Client Unit := do
    let _ ← LocationApiService.onClient client (LocHalDaemonClientHandler.onResponseCb err)
  { s with
    service := program.next s.service
    tasks := Function.update s.tasks client
      (s.tasks client ++ answers client (program.emitted s.service)) }

/-- The daemon restarts: what it has not read is lost, and it tells every client that it is ready. -/
def restart (s : System Client) : System Client :=
  { s with
    tasks := fun client => s.tasks client ++ [.halReady]
    toDaemon := fun _ => []
    service := .initial s.service.mPositionMode
    session := fun _ => none
    owed := fun _ => false }

def step (s : System Client) : Event Client → System Client
  | .call client c => { s with tasks := Function.update s.tasks client (s.tasks client ++ [c.task]) }
  | .proc client => s.proc client
  | .read client id => s.read client id.val
  | .capabilities client => s.capabilities client
  | .answer client err => s.answer client err
  | .restart => s.restart

end System

end System

end Cypfr.ClientApi
