import Cypfr.Model.Batching
import Cypfr.Model.Geofence
import Mathlib.Data.List.AList

/-! # Clients of the location daemon

`location_hal_daemon/LocHalDaemonClientHandler.cpp`: the daemon keeps a handler for each client, which uses
`LocationAPI` for the client and sends it the answers. Of the answers to tracking and batching the handler
knows only their order: the service notes the message of every request in a queue.

All of it runs under one mutex, so each request and each answer is processed as a whole.
-/

namespace Cypfr.HalDaemon

open Tracking Batching Geofence ClientBase

inductive ELocMsgID where
  | E_LOCAPI_UNDEFINED_MSG_ID
  | E_LOCAPI_START_TRACKING_MSG_ID
  | E_LOCAPI_STOP_TRACKING_MSG_ID
  | E_LOCAPI_UPDATE_TRACKING_OPTIONS_MSG_ID
  | E_LOCAPI_START_BATCHING_MSG_ID
  | E_LOCAPI_STOP_BATCHING_MSG_ID
  | E_LOCAPI_UPDATE_BATCHING_OPTIONS_MSG_ID
  | E_LOCAPI_ADD_GEOFENCES_MSG_ID
  | E_LOCAPI_REMOVE_GEOFENCES_MSG_ID
  | E_LOCAPI_MODIFY_GEOFENCES_MSG_ID
  | E_LOCAPI_PAUSE_GEOFENCES_MSG_ID
  | E_LOCAPI_RESUME_GEOFENCES_MSG_ID
deriving DecidableEq

/-- The messages whose answers are generic. -/
def ELocMsgID.isGeneric : ELocMsgID → Bool
  | .E_LOCAPI_START_TRACKING_MSG_ID | .E_LOCAPI_STOP_TRACKING_MSG_ID | .E_LOCAPI_UPDATE_TRACKING_OPTIONS_MSG_ID
  | .E_LOCAPI_START_BATCHING_MSG_ID | .E_LOCAPI_STOP_BATCHING_MSG_ID | .E_LOCAPI_UPDATE_BATCHING_OPTIONS_MSG_ID => true
  | _ => false

/-- The geofences of a client: the identifiers of the client and those of `LocationAPI`. -/
abbrev IdsMap := AList fun _ : UInt32 => UInt32

/-- An order in which a map is iterated over. -/
structure IterationOrder where
  entries : IdsMap → List (Σ _ : UInt32, UInt32)
  perm : ∀ m, (entries m).Perm m.entries

/-- The order in which the entries are kept. -/
def IterationOrder.kept : IterationOrder := ⟨AList.entries, fun _ => .rfl⟩

/-- A handler, with whether it has a `LocationAPI` and can still send to its client. -/
structure LocHalDaemonClientHandler where
  mTracking : Bool
  mBatching : Bool
  mBatchingMode : BatchingMode
  mPendingMessages : List ELocMsgID
  mSessionId : UInt32
  mBatchingId : UInt32
  mLocationApi : Bool
  mOptions : TrackingOptions
  mBatchOptions : BatchingOptions
  mSubscriptionMask : UInt32
  mGfPendingMessages : List ELocMsgID
  mGeofenceIds : Option (List UInt32)
  mGfIdsMap : IdsMap
  mIpcSender : Bool
deriving DecidableEq

/-- The calls of `LocationAPI`, and what is sent to the client. -/
inductive HandlerOutput where
  | startTracking (options : TrackingOptions)
  | stopTracking (id : UInt32)
  | updateTrackingOptions (id : UInt32) (options : TrackingOptions)
  | startBatching (options : BatchingOptions)
  | stopBatching (id : UInt32)
  | updateBatchingOptions (id : UInt32) (options : BatchingOptions)
  | updateCallbacks (mask : UInt32)
  | addGeofences (options : List GeofenceOption) (infos : List GeofenceInfo)
  | removeGeofences (ids : List UInt32)
  | modifyGeofences (ids : List UInt32) (options : List GeofenceOption)
  | pauseGeofences (ids : List UInt32)
  | resumeGeofences (ids : List UInt32)
  | genericResp (msgId : ELocMsgID) (err : LocationError)
  | collectiveResp (msgId : ELocMsgID) (resp : List (UInt32 × LocationError))
  | terrestrialFix (err : LocationError)
deriving DecidableEq

abbrev HandlerM := Emit LocHalDaemonClientHandler HandlerOutput

/-- `LOCATION_SESSON_ALL_INFO_MASK`: the bits 0 to 4 and 9 to 11. -/
def LOCATION_SESSON_ALL_INFO_MASK : UInt32 := 0xe1f

/-- `getSupportedTbf`. -/
def getSupportedTbf (tbfMsec : ℕ) : ℕ :=
  if tbfMsec < 200 then 100
  else if tbfMsec < 500 then 200
  else if tbfMsec < 1000 then 500
  else if tbfMsec > 2 ^ 32 - 1 - 999 then (2 ^ 32 - 1) / 1000 * 1000
  else (tbfMsec + 999) / 1000 * 1000

/-- `TrackingOptions` from the options of a location request. -/
def ofLocationOptions (options : LocationOptions) : TrackingOptions :=
  { options with powerMode := .invalid, tbm := 0 }

/-- Options with an interval that the engines support. -/
def supported (options : TrackingOptions) : TrackingOptions :=
  { options with minInterval := getSupportedTbf options.minInterval }

namespace LocHalDaemonClientHandler

/-- A handler as it is constructed; only clients of the client API have a `LocationAPI`. -/
def construct (isClientApi : Bool) : LocHalDaemonClientHandler :=
  { mTracking := false, mBatching := false, mBatchingMode := .noAutoReport, mPendingMessages := [], mSessionId := 0,
    mBatchingId := 0, mLocationApi := isClientApi, mOptions := .zero, mBatchOptions := .initial, mSubscriptionMask := 0,
    mGfPendingMessages := [], mGeofenceIds := none, mGfIdsMap := ∅, mIpcSender := true }

def updateSubscription (mask : UInt32) : HandlerM Unit := do
  Emit.modify fun h => { h with mSubscriptionMask := mask }
  let h ← Emit.get
  if h.mLocationApi then Emit.emit (.updateCallbacks mask) else pure ()

def unsubscribeLocationSessionCb : HandlerM Unit := do
  let h ← Emit.get
  updateSubscription (h.mSubscriptionMask &&& ~~~ LOCATION_SESSON_ALL_INFO_MASK)

/-- `startTracking` with the options kept, and the identifier that `LocationAPI` returns. -/
def startTracking (id : UInt32) : HandlerM UInt32 := do
  let h ← Emit.get
  (if h.mSessionId = 0 ∧ h.mLocationApi = true then do
    Emit.emit (.startTracking h.mOptions)
    Emit.modify fun h => { h with mSessionId := id }
  else
    pure ())
  let h ← Emit.get
  return h.mSessionId

/-- `startTracking` with new options. -/
def startTrackingWith (locOptions : LocationOptions) (id : UInt32) : HandlerM UInt32 := do
  let h ← Emit.get
  (if h.mSessionId = 0 ∧ h.mLocationApi = true then do
    let options := supported (ofLocationOptions locOptions)
    Emit.emit (.startTracking options)
    Emit.modify fun h => { h with mOptions := options, mSessionId := id }
  else
    pure ())
  let h ← Emit.get
  return h.mSessionId

def stopTracking : HandlerM Unit := do
  let h ← Emit.get
  if h.mSessionId ≠ 0 ∧ h.mLocationApi = true then do
    Emit.emit (.stopTracking h.mSessionId)
    Emit.modify fun h => { h with mSessionId := 0 }
  else
    pure ()

def updateTrackingOptions (locOptions : LocationOptions) : HandlerM Unit := do
  let h ← Emit.get
  if h.mSessionId ≠ 0 ∧ h.mLocationApi = true then do
    let trackingOption := supported (TrackingOptions.zero.setLocationOptions locOptions)
    Emit.emit (.updateTrackingOptions h.mSessionId trackingOption)
    Emit.modify fun h => { h with mOptions := ofLocationOptions locOptions }
  else
    pure ()

/-- The batching options for an interval and a distance: the type mask of the engines stays as it was. -/
def batchOptions (old : BatchingOptions) (minInterval minDistance : ℕ) (batchMode : BatchingMode) : BatchingOptions :=
  { old with size := sizeofBatchingOptions, batchingMode := batchMode, minInterval := minInterval,
             minDistance := minDistance, mode := .standalone }

def startBatching (minInterval minDistance : ℕ) (batchMode : BatchingMode) (id : UInt32) : HandlerM UInt32 := do
  let h ← Emit.get
  (if h.mBatchingId = 0 ∧ h.mLocationApi = true then do
    let options := batchOptions h.mBatchOptions minInterval minDistance batchMode
    Emit.emit (.startBatching options)
    Emit.modify fun h => { h with mBatchOptions := options, mBatchingId := id }
  else
    pure ())
  let h ← Emit.get
  return h.mBatchingId

def stopBatching : HandlerM Unit := do
  let h ← Emit.get
  if h.mBatchingId ≠ 0 ∧ h.mLocationApi = true then do
    Emit.emit (.stopBatching h.mBatchingId)
    Emit.modify fun h => { h with mBatchingId := 0 }
  else
    pure ()

def updateBatchingOptions (minInterval minDistance : ℕ) (batchMode : BatchingMode) : HandlerM Unit := do
  let h ← Emit.get
  if h.mBatchingId ≠ 0 ∧ h.mLocationApi = true then do
    let options := batchOptions h.mBatchOptions minInterval minDistance batchMode
    Emit.modify fun h => { h with mBatchOptions := options }
    Emit.emit (.updateBatchingOptions h.mBatchingId options)
  else
    pure ()

/-- `mPendingMessages.push`. -/
def push (msgId : ELocMsgID) : HandlerM Unit :=
  Emit.modify fun h => { h with mPendingMessages := h.mPendingMessages ++ [msgId] }

def onResponseCb (err : LocationError) : HandlerM Unit := do
  let h ← Emit.get
  if h.mIpcSender then do
    let pendingMsgId := h.mPendingMessages.head?.getD .E_LOCAPI_UNDEFINED_MSG_ID
    Emit.modify fun h => { h with mPendingMessages := h.mPendingMessages.tail }
    if pendingMsgId.isGeneric then Emit.emit (.genericResp pendingMsgId err) else pure ()
  else
    pure ()

def setGeofenceIds (clientIds sessionIds : List UInt32) : HandlerM Unit :=
  Emit.modify fun h => { h with
    mGfIdsMap := (clientIds.zip sessionIds).foldl (fun m ids => m.insert ids.1 ids.2) h.mGfIdsMap }

def eraseGeofenceIds (clientIds : List UInt32) : HandlerM Unit :=
  Emit.modify fun h => { h with mGfIdsMap := clientIds.foldl (fun m clientId => m.erase clientId) h.mGfIdsMap }

/-- `mGfIdsMap[clientId]`, which inserts an identifier that is not there. -/
def sessionIdOf (m : IdsMap) (clientId : UInt32) : IdsMap × UInt32 :=
  match m.lookup clientId with
  | some sessionId => (m, sessionId)
  | none => (m.insert clientId 0, 0)

/-- The loop of `getSessionIds`. -/
def sessionIdsOf (m : IdsMap) : List UInt32 → IdsMap × List UInt32
  | [] => (m, [])
  | clientId :: rest =>
    let found := sessionIdOf m clientId
    let later := sessionIdsOf found.1 rest
    (later.1, found.2 :: later.2)

def getSessionIds (clientIds : List UInt32) : HandlerM (Option (List UInt32)) := do
  if clientIds.length > 0 then do
    let h ← Emit.get
    Emit.modify fun h => { h with mGfIdsMap := (sessionIdsOf h.mGfIdsMap clientIds).1 }
    return some (sessionIdsOf h.mGfIdsMap clientIds).2
  else
    return none

/-- The client identifier for a session: that of the last entry, or zero. -/
def clientIdOf (order : IterationOrder) (m : IdsMap) (sessionId : UInt32) : UInt32 :=
  (order.entries m).foldl (fun clientId entry => if entry.2 = sessionId then entry.1 else clientId) 0

/-- `getClientIds`. -/
def getClientIds (order : IterationOrder) (m : IdsMap) (sessionIds : List UInt32) : List UInt32 :=
  sessionIds.map (clientIdOf order m)

/-- `addGeofences`, with the identifiers that `LocationAPI` returns. -/
def addGeofences (options : List GeofenceOption) (infos : List GeofenceInfo) (ids : Option (List UInt32)) :
    HandlerM (Option (List UInt32)) := do
  let h ← Emit.get
  (if options.length > 0 ∧ h.mLocationApi = true then do
    Emit.emit (.addGeofences options infos)
    Emit.modify fun h => { h with mGeofenceIds := ids }
  else
    pure ())
  let h ← Emit.get
  return h.mGeofenceIds

/-- A call of `LocationAPI` for geofences that were added. -/
def callGeofences (call : List UInt32 → HandlerOutput) (ids : List UInt32) : HandlerM Unit := do
  let h ← Emit.get
  if ids.length > 0 ∧ h.mLocationApi = true then Emit.emit (call ids) else pure ()

def removeGeofences : List UInt32 → HandlerM Unit := callGeofences .removeGeofences

def modifyGeofences (ids : List UInt32) (options : List GeofenceOption) : HandlerM Unit :=
  callGeofences (.modifyGeofences · options) ids

def pauseGeofences : List UInt32 → HandlerM Unit := callGeofences .pauseGeofences

def resumeGeofences : List UInt32 → HandlerM Unit := callGeofences .resumeGeofences

/-- `mGfPendingMessages.push`. -/
def pushGf (msgId : ELocMsgID) : HandlerM Unit :=
  Emit.modify fun h => { h with mGfPendingMessages := h.mGfPendingMessages ++ [msgId] }

/-- The messages whose answers are collective. -/
def isCollective : ELocMsgID → Bool
  | .E_LOCAPI_ADD_GEOFENCES_MSG_ID | .E_LOCAPI_REMOVE_GEOFENCES_MSG_ID | .E_LOCAPI_MODIFY_GEOFENCES_MSG_ID
  | .E_LOCAPI_PAUSE_GEOFENCES_MSG_ID | .E_LOCAPI_RESUME_GEOFENCES_MSG_ID => true
  | _ => false

def onCollectiveResponseCallback (order : IterationOrder) (errs : List LocationError) (ids : List UInt32) :
    HandlerM Unit := do
  let h ← Emit.get
  if h.mIpcSender then do
    let pendingMsgId := h.mGfPendingMessages.head?.getD .E_LOCAPI_UNDEFINED_MSG_ID
    Emit.modify fun h => { h with mGfPendingMessages := h.mGfPendingMessages.tail }
    if ids.length = 0 then pure ()
    else do
      let clientIds := getClientIds order h.mGfIdsMap ids
      let resp := clientIds.zip errs
      eraseGeofenceIds ((resp.filter fun item => item.2 ≠ .success).map Prod.fst)
      (if pendingMsgId = .E_LOCAPI_REMOVE_GEOFENCES_MSG_ID then eraseGeofenceIds clientIds else pure ())
      if isCollective pendingMsgId then Emit.emit (.collectiveResp pendingMsgId resp) else pure ()
  else
    pure ()

def sendTerrestrialFix (err : LocationError) : HandlerM Unit := Emit.emit (.terrestrialFix err)

end LocHalDaemonClientHandler

end Cypfr.HalDaemon
