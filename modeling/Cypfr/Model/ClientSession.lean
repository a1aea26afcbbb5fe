import Cypfr.Model.Batching
import Cypfr.Model.BiDict

/-! # Sessions of a client

`gps/location/LocationAPIClientBase.cpp`: a client starts, updates and stops sessions under identifiers of its
own. Each call queues a request; `onResponseCb` takes the request that comes next and lets it tell the client.

A call and the taking of a request hold the mutex of the client, what the request then does holds it no longer.
-/

namespace Cypfr.ClientBase

open Tracking Batching

def sessionModeOnFull : UInt32 := 1

def sessionModeOnFix : UInt32 := 2

def sessionModeOnTripCompleted : UInt32 := 3

/-- The classes of requests about sessions. -/
inductive RequestType where
  | startTracking
  | stopTracking
  | updateTrackingOptions
  | startBatching
  | stopBatching
  | updateBatchingOptions
  | getBatchedLocations
deriving DecidableEq

/-- `LocationAPIRequest`, with the number of its allocation. -/
structure LocationAPIRequest where
  number : ℕ
  type : RequestType
deriving DecidableEq

/-- `RequestQueue`. -/
structure RequestQueue where
  session : UInt32
  queue : List LocationAPIRequest

namespace RequestQueue

def setSession (q : RequestQueue) (session : UInt32) : RequestQueue := { q with session := session }

def push (q : RequestQueue) (request : LocationAPIRequest) : RequestQueue := { q with queue := q.queue ++ [request] }

def pop (q : RequestQueue) : Option LocationAPIRequest × RequestQueue := (q.queue.head?, { q with queue := q.queue.tail })

end RequestQueue

/-- `SessionEntity`. -/
structure SessionEntity where
  id : UInt32
  trackingSession : UInt32
  batchingSession : UInt32
  sessionMode : UInt32

instance : Inhabited SessionEntity := ⟨⟨0, 0, 0, 0⟩⟩

/-- The operations of the location API, each with its session. -/
inductive LocationCall where
  | startTracking (session : UInt32) (options : TrackingOptions)
  | stopTracking (session : UInt32)
  | updateTrackingOptions (session : UInt32) (options : TrackingOptions)
  | startBatching (session : UInt32) (options : BatchingOptions)
  | stopBatching (session : UInt32)
  | updateBatchingOptions (session : UInt32) (options : BatchingOptions)
  | getBatchedLocations (session : UInt32) (count : ℕ)

/-- The callbacks of a client that answer its calls. -/
inductive ResponseCallback where
  | onStartTrackingCb (error : LocationError)
  | onStopTrackingCb (error : LocationError)
  | onUpdateTrackingOptionsCb (error : LocationError)
  | onStartBatchingCb (error : LocationError)
  | onStopBatchingCb (error : LocationError)
  | onUpdateBatchingOptionsCb (error : LocationError)
  | onGetBatchedLocationsCb (error : LocationError)
deriving DecidableEq

/-- What the calls for sessions use of `LocationAPIClientBase`: the queues that answers with one identifier look
at, the dictionary, and how many requests were allocated. -/
structure SessionClient where
  hasLocationAPI : Bool
  requestTracking : RequestQueue
  requestSession : RequestQueue
  requestNiResponse : RequestQueue
  sessionBiDict : BiDict SessionEntity
  allocated : ℕ

/-- A client after its constructor. -/
def SessionClient.initial (hasLocationAPI : Bool) : SessionClient :=
  ⟨hasLocationAPI, ⟨0, []⟩, ⟨0, []⟩, ⟨0, []⟩, .empty, 0⟩

abbrev SessionM := Emit SessionClient LocationCall

abbrev ResponseM := Emit SessionClient ResponseCallback

def setSession (session : UInt32) : SessionM Unit :=
  Emit.modify fun c => { c with requestSession := c.requestSession.setSession session }

/-- Allocate a request and queue it. -/
def pushRequest (type : RequestType) : SessionM Unit :=
  Emit.modify fun c =>
    { c with requestSession := c.requestSession.push ⟨c.allocated, type⟩, allocated := c.allocated + 1 }

def getExtById (id : UInt32) : SessionM SessionEntity := do
  let c ← Emit.get
  let found := c.sessionBiDict.getExtById id
  Emit.modify fun c => { c with sessionBiDict := found.2 }
  pure found.1

/-- The batching mode of a session mode. -/
def batchingMode (sessionMode : UInt32) : BatchingMode :=
  if sessionMode = sessionModeOnFull then .routine
  else if sessionMode = sessionModeOnTripCompleted then .trip
  else .noAutoReport

/-- The options with only the batching mode set. -/
def batchOptions (sessionMode : UInt32) : BatchingOptions :=
  { BatchingOptions.initial with size := sizeofBatchingOptions, batchingMode := batchingMode sessionMode }

/-- The options with the location options set as well. -/
def filledOptions (sessionMode : UInt32) (options : TrackingOptions) : BatchingOptions :=
  { batchOptions sessionMode with
    minDistance := options.minDistance, minInterval := options.minInterval, mode := options.mode }

/-- `locAPIStartSession`; `newSession` is what the location API returns. -/
def locAPIStartSession (id sessionMode : UInt32) (options : TrackingOptions) (newSession : UInt32) :
    SessionM LocationError := do
  let c ← Emit.get
  if !c.hasLocationAPI then pure .generalFailure
  else if c.sessionBiDict.hasId id then pure .alreadyStarted
  else do
    if sessionMode = sessionModeOnFix then do
      Emit.emit (.startTracking newSession options)
      pushRequest .startTracking
      Emit.modify fun c =>
        { c with sessionBiDict := c.sessionBiDict.set id newSession ⟨id, newSession, 0, sessionMode⟩ }
    else do
      Emit.emit (.startBatching newSession (filledOptions sessionMode options))
      setSession newSession
      pushRequest .startBatching
      Emit.modify fun c =>
        { c with sessionBiDict := c.sessionBiDict.set id newSession ⟨id, 0, newSession, sessionMode⟩ }
    pure .success

/-- `locAPIStopSession`. -/
def locAPIStopSession (id : UInt32) : SessionM LocationError := do
  let c ← Emit.get
  if !c.hasLocationAPI then pure .generalFailure
  else if c.sessionBiDict.hasId id then do
    let entity ← getExtById id
    if entity.sessionMode = sessionModeOnFix then do
      pushRequest .stopTracking
      Emit.emit (.stopTracking entity.trackingSession)
    else do
      pushRequest .stopBatching
      Emit.emit (.stopBatching entity.batchingSession)
    pure .success
  else pure .idUnknown

/-- The operations of an update and the sessions it leaves in the entity. -/
def updateOperations (entity : SessionEntity) (sessionMode : UInt32) (options : TrackingOptions)
    (newSession : UInt32) : SessionM (UInt32 × UInt32) := do
  if sessionMode = sessionModeOnFix then do
    pushRequest .updateTrackingOptions
    if entity.sessionMode = sessionModeOnFix then do
      Emit.emit (.updateTrackingOptions entity.trackingSession options)
      pure (entity.trackingSession, entity.batchingSession)
    else do
      Emit.emit (.stopBatching entity.batchingSession)
      setSession 0
      Emit.emit (.startTracking newSession options)
      pure (newSession, 0)
  else do
    pushRequest .updateBatchingOptions
    if entity.sessionMode = sessionModeOnFix then do
      Emit.emit (.stopTracking entity.trackingSession)
      Emit.emit (.startBatching newSession (filledOptions sessionMode options))
      setSession newSession
      pure (0, newSession)
    else do
      Emit.emit (.updateBatchingOptions entity.batchingSession (batchOptions sessionMode))
      pure (entity.trackingSession, entity.batchingSession)

/-- `locAPIUpdateSessionOptions`; `newSession` is what the location API returns if the update starts a session. -/
def locAPIUpdateSessionOptions (id sessionMode : UInt32) (options : TrackingOptions) (newSession : UInt32) :
    SessionM LocationError := do
  let c ← Emit.get
  if !c.hasLocationAPI then pure .generalFailure
  else if c.sessionBiDict.hasId id then do
    let entity ← getExtById id
    let (trackingSession, batchingSession) ← updateOperations entity sessionMode options newSession
    let session := if sessionMode ≠ sessionModeOnFix then batchingSession else trackingSession
    let updated : SessionEntity := ⟨entity.id, trackingSession, batchingSession, sessionMode⟩
    Emit.modify fun c => { c with sessionBiDict := (c.sessionBiDict.rmById id).set id session updated }
    pure .success
  else pure .idUnknown

/-- `locAPIGetBatchedLocations`. -/
def locAPIGetBatchedLocations (id : UInt32) (count : ℕ) : SessionM LocationError := do
  let c ← Emit.get
  if !c.hasLocationAPI then pure .generalFailure
  else if c.sessionBiDict.hasId id then do
    let entity ← getExtById id
    if entity.sessionMode ≠ sessionModeOnFix then do
      pushRequest .getBatchedLocations
      Emit.emit (.getBatchedLocations entity.batchingSession count)
      pure .success
    else pure .notSupported
  else pure .idUnknown

/-- `removeSession`. -/
def removeSession (session : UInt32) : ResponseM Unit :=
  Emit.modify fun c =>
    if c.sessionBiDict.hasSession session then { c with sessionBiDict := c.sessionBiDict.rmBySession session } else c

/-- `getRequestBySession`. -/
def getRequestBySession (session : UInt32) : ResponseM (Option LocationAPIRequest) := do
  let c ← Emit.get
  let request ←
    if c.requestTracking.session = session then do
      Emit.modify fun c => { c with requestTracking := c.requestTracking.pop.2 }
      pure c.requestTracking.pop.1
    else if c.requestNiResponse.session = session then do
      Emit.modify fun c => { c with requestNiResponse := c.requestNiResponse.pop.2 }
      pure c.requestNiResponse.pop.1
    else pure none
  match request with
  | some request => pure (some request)
  | none =>
    if c.sessionBiDict.hasSession session then do
      Emit.modify fun c => { c with requestSession := c.requestSession.pop.2 }
      pure c.requestSession.pop.1
    else pure none

/-- `onResponse` of a request. -/
def LocationAPIRequest.onResponse (request : LocationAPIRequest) (error : LocationError) (id : UInt32) :
    ResponseM Unit :=
  match request.type with
  | .startTracking => do
    if error ≠ .success then removeSession id
    Emit.emit (.onStartTrackingCb error)
  | .stopTracking => do
    Emit.emit (.onStopTrackingCb error)
    if error = .success then removeSession id
  | .updateTrackingOptions => Emit.emit (.onUpdateTrackingOptionsCb error)
  | .startBatching => do
    if error ≠ .success then removeSession id
    Emit.emit (.onStartBatchingCb error)
  | .stopBatching => do
    Emit.emit (.onStopBatchingCb error)
    if error = .success then removeSession id
  | .updateBatchingOptions => Emit.emit (.onUpdateBatchingOptionsCb error)
  | .getBatchedLocations => Emit.emit (.onGetBatchedLocationsCb error)

/-- What `onResponseCb` does with the request it took. -/
def respond (request : Option LocationAPIRequest) (error : LocationError) (id : UInt32) : ResponseM Unit :=
  match request with
  | some request => request.onResponse error id
  | none => pure ()

/-- `onResponseCb`. -/
def onResponseCb (error : LocationError) (id : UInt32) : ResponseM Unit := do
  let request ← getRequestBySession id
  respond request error id

end Cypfr.ClientBase
