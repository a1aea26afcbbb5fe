import Cypfr.Model.BiDict
import Cypfr.Model.Tracking

/-! # Geofences

`gps/geofence/GeofenceAdapter.cpp`: the geofences of all clients, by the hardware identifier of the modem, and the
hardware identifier of each by its key. A command queues one call for each of its geofences; what is left to do
when a call or a request to the modem is answered is a function that it carries. The model names each of these
functions and what it captured.

Commands and responses are messages to one task, so each is processed as a whole.
-/

namespace Cypfr.Geofence

open Tracking ClientBase

/-- `GeofenceKey`, ordered by the identifier first like the keys of sessions. -/
abbrev GeofenceKey (Client : Type) := LocationSessionKey Client

/-- The bits of a `double`, which is only handed on. -/
abbrev Double := UInt64

/-- `GeofenceInfo`. -/
structure GeofenceInfo where
  latitude : Double
  longitude : Double
  radius : Double
deriving DecidableEq

/-- `GeofenceObject`. -/
structure GeofenceObject (Client : Type) where
  key : GeofenceKey Client
  breachMask : UInt32
  responsiveness : UInt32
  dwellTime : UInt32
  latitude : Double
  longitude : Double
  radius : Double
  paused : Bool
deriving DecidableEq

/-- What the modem is asked; the call queue answers with success. -/
inductive GeofenceRequest where
  | callQueue
  | addGeofence (id : UInt32) (options : GeofenceOption) (info : GeofenceInfo)
  | removeGeofence (hwId id : UInt32)
  | pauseGeofence (hwId id : UInt32)
  | resumeGeofence (hwId id : UInt32)
  | modifyGeofence (hwId id : UInt32) (options : GeofenceOption)
deriving DecidableEq

/-- What the functions for one geofence of a command capture: the client, the array of errors, the identifiers of the
command and the index of the geofence. -/
structure Item (Client : Type) where
  client : Client
  errs : ℕ
  ids : List UInt32
  i : ℕ
deriving DecidableEq

/-- What is done when a call or the modem answers, by the place in the code that asks. -/
inductive GeofenceResponse (Client : Type) where
  | add (item : Item Client) (id : UInt32) (options : GeofenceOption) (info : GeofenceInfo)
  | added (item : Item Client) (id : UInt32) (options : GeofenceOption) (info : GeofenceInfo)
  | remove (item : Item Client) (id : UInt32)
  | removed (item : Item Client) (hwId : UInt32)
  | pause (item : Item Client) (id : UInt32)
  | paused (item : Item Client) (hwId : UInt32)
  | resume (item : Item Client) (id : UInt32)
  | resumed (item : Item Client) (hwId : UInt32)
  | modify (item : Item Client) (id : UInt32) (options : GeofenceOption)
  | modified (item : Item Client) (hwId : UInt32) (options : GeofenceOption)
  | clientRemoved (hwId : UInt32)
  | readded (object : GeofenceObject Client)
  | ignore
deriving DecidableEq

/-- What the adapter emits: a request with the function for its answer, or a report to a client. -/
inductive GeofenceOutput (Client : Type) where
  | request (request : GeofenceRequest) (response : GeofenceResponse Client)
  | collectiveResponse (client : Client) (errs : List (Option LocationError)) (ids : List UInt32)
deriving DecidableEq

/-- The state of `GeofenceAdapter`: its two tables, the clients with a callback for responses, and the arrays of
errors of the commands so far, whose entries are unset at first. -/
structure GeofenceAdapter (Client : Type) [LinearOrder Client] where
  mGeofences : SortedMap UInt32 (GeofenceObject Client)
  mGeofenceIds : SortedMap (GeofenceKey Client) UInt32
  collectiveResponseCb : Client → Bool
  errs : List (List (Option LocationError))

section Adapter

variable {Client : Type} [LinearOrder Client]

abbrev AdapterM (Client : Type) [LinearOrder Client] := Emit (GeofenceAdapter Client) (GeofenceOutput Client)

def request (request : GeofenceRequest) (response : GeofenceResponse Client) : AdapterM Client Unit :=
  Emit.emit (.request request response)

def setGeofences (f : SortedMap UInt32 (GeofenceObject Client) → SortedMap UInt32 (GeofenceObject Client)) :
    AdapterM Client Unit :=
  Emit.modify fun a => { a with mGeofences := f a.mGeofences }

/-- `getHwIdFromClient`. -/
def getHwIdFromClient (client : Client) (clientId : UInt32) : AdapterM Client (Option UInt32) := do
  let a ← Emit.get
  pure (a.mGeofenceIds.find? ⟨client, clientId⟩)

/-- `saveGeofenceItem`. -/
def saveGeofenceItem (client : Client) (clientId hwId : UInt32) (options : GeofenceOption) (info : GeofenceInfo) :
    AdapterM Client Unit :=
  let key : GeofenceKey Client := ⟨client, clientId⟩
  let object : GeofenceObject Client :=
    { key := key, breachMask := options.breachTypeMask, responsiveness := options.responsiveness,
      dwellTime := options.dwellTime, latitude := info.latitude, longitude := info.longitude, radius := info.radius,
      paused := false }
  Emit.modify fun a =>
    { a with mGeofences := a.mGeofences.insert hwId object, mGeofenceIds := a.mGeofenceIds.insert key hwId }

/-- `removeGeofenceItem`. -/
def removeGeofenceItem (hwId : UInt32) : AdapterM Client Unit := do
  let a ← Emit.get
  match a.mGeofences.find? hwId with
  | some object =>
    if a.mGeofenceIds.contains object.key then
      Emit.modify fun a =>
        { a with mGeofenceIds := a.mGeofenceIds.erase object.key, mGeofences := a.mGeofences.erase hwId }
    else pure ()
  | none => pure ()

/-- Change the geofence of a hardware identifier, if there is one. -/
def changeGeofence (hwId : UInt32) (change : GeofenceObject Client → GeofenceObject Client) : AdapterM Client Unit :=
  setGeofences fun geofences =>
    match geofences.find? hwId with
    | some object => geofences.insert hwId (change object)
    | none => geofences

/-- `pauseGeofenceItem`. -/
def pauseGeofenceItem (hwId : UInt32) : AdapterM Client Unit := changeGeofence hwId fun o => { o with paused := true }

/-- `resumeGeofenceItem`. -/
def resumeGeofenceItem (hwId : UInt32) : AdapterM Client Unit := changeGeofence hwId fun o => { o with paused := false }

/-- `modifyGeofenceItem`. -/
def modifyGeofenceItem (hwId : UInt32) (options : GeofenceOption) : AdapterM Client Unit :=
  changeGeofence hwId fun o =>
    { o with breachMask := options.breachTypeMask, responsiveness := options.responsiveness, dwellTime := options.dwellTime }

/-- Allocate the errors of a command. -/
def newErrs (count : ℕ) : AdapterM Client ℕ := do
  let a ← Emit.get
  Emit.modify fun a => { a with errs := a.errs ++ [List.replicate count none] }
  pure a.errs.length

/-- `errs[i] = err`. -/
def setErr (item : Item Client) (err : LocationError) : AdapterM Client Unit :=
  Emit.modify fun a => { a with errs := a.errs.modify item.errs fun errs => errs.set item.i (some err) }

/-- `reportResponse`. -/
def reportResponse (client : Client) (errs : List (Option LocationError)) (ids : List UInt32) : AdapterM Client Unit := do
  let a ← Emit.get
  if a.collectiveResponseCb client then Emit.emit (.collectiveResponse client errs ids)

/-- The aggregated response of a command, on its last geofence. -/
def reportLast (item : Item Client) : AdapterM Client Unit := do
  let a ← Emit.get
  if item.i + 1 = item.ids.length then reportResponse item.client (a.errs.getD item.errs []) item.ids

/-- A call that looks up the hardware identifier of a geofence and asks the modem. -/
def withHwId (item : Item Client) (id : UInt32) (ask : UInt32 → AdapterM Client Unit) : AdapterM Client Unit := do
  match ← getHwIdFromClient item.client id with
  | some hwId => do
    setErr item .success
    ask hwId
  | none => do
    setErr item .idUnknown
    reportLast item

/-- The function of a response, for what the call or the modem answers; an added geofence has a hardware
identifier. -/
def GeofenceResponse.proc (response : GeofenceResponse Client) (err : LocationError) (hwId : UInt32) :
    AdapterM Client Unit :=
  match response with
  | .add item id options info => request (.addGeofence id options info) (.added item id options info)
  | .added item id options info => do
    if err = .success then saveGeofenceItem item.client id hwId options info
    setErr item err
    reportLast item
  | .remove item id => withHwId item id fun hwId => request (.removeGeofence hwId id) (.removed item hwId)
  | .removed item hwId => do
    if err = .success then removeGeofenceItem hwId
    setErr item err
    reportLast item
  | .pause item id => withHwId item id fun hwId => request (.pauseGeofence hwId id) (.paused item hwId)
  | .paused item hwId => do
    if err = .success then pauseGeofenceItem hwId
    setErr item err
    reportLast item
  | .resume item id => withHwId item id fun hwId => request (.resumeGeofence hwId id) (.resumed item hwId)
  | .resumed item hwId =>
    if err = .success then do
      setErr item err
      resumeGeofenceItem hwId
      reportLast item
    else pure ()
  | .modify item id options =>
    withHwId item id fun hwId => request (.modifyGeofence hwId id options) (.modified item hwId options)
  | .modified item hwId options => do
    if err = .success then do
      setErr item err
      modifyGeofenceItem hwId options
    reportLast item
  | .clientRemoved hwId => if err = .success then setGeofences fun geofences => geofences.erase hwId else pure ()
  | .readded object =>
    if err = .success then do
      if object.paused then request (.pauseGeofence hwId object.key.id) .ignore
      saveGeofenceItem object.key.client object.key.id hwId
        ⟨16, object.breachMask, object.responsiveness, object.dwellTime⟩
        ⟨object.latitude, object.longitude, object.radius⟩
    else pure ()
  | .ignore => pure ()

/-- One queued call for each element of a command. -/
def forEachItem {α : Type} (client : Client) (ids : List UInt32) (elements : List α)
    (response : Item Client → α → GeofenceResponse Client) : AdapterM Client Unit :=
  if elements.isEmpty then pure ()
  else do
    let errs ← newErrs elements.length
    elements.zipIdx.forM fun element => request .callQueue (response ⟨client, errs, ids, element.2⟩ element.1)

/-- `addGeofencesCommand`, with the identifiers that `generateSessionId` gave. -/
def addGeofencesCommand (client : Client) (geofences : List (UInt32 × GeofenceOption × GeofenceInfo)) :
    AdapterM Client Unit :=
  forEachItem client (geofences.map Prod.fst) geofences fun item geofence =>
    .add item geofence.1 geofence.2.1 geofence.2.2

/-- `removeGeofencesCommand`. -/
def removeGeofencesCommand (client : Client) (ids : List UInt32) : AdapterM Client Unit :=
  forEachItem client ids ids fun item id => .remove item id

/-- `pauseGeofencesCommand`. -/
def pauseGeofencesCommand (client : Client) (ids : List UInt32) : AdapterM Client Unit :=
  forEachItem client ids ids fun item id => .pause item id

/-- `resumeGeofencesCommand`. -/
def resumeGeofencesCommand (client : Client) (ids : List UInt32) : AdapterM Client Unit :=
  forEachItem client ids ids fun item id => .resume item id

/-- `modifyGeofencesCommand`. -/
def modifyGeofencesCommand (client : Client) (geofences : List (UInt32 × GeofenceOption)) : AdapterM Client Unit :=
  forEachItem client (geofences.map Prod.fst) geofences fun item geofence => .modify item geofence.1 geofence.2

/-- `addGeofencesCommand` and `modifyGeofencesCommand` without one of their arrays: nothing is queued. -/
def withoutArrays (client : Client) (ids : List UInt32) : AdapterM Client Unit :=
  if ids.isEmpty then pure ()
  else do
    let errs ← newErrs ids.length
    ids.zipIdx.forM fun element => setErr ⟨client, errs, ids, element.2⟩ .invalidParameter

/-- `stopClientSessions`. -/
def stopClientSessions (client : Client) : AdapterM Client Unit := do
  let a ← Emit.get
  let departing := a.mGeofenceIds.entries.filter fun entry => entry.1.client = client
  departing.forM fun entry => do
    Emit.modify fun a => { a with mGeofenceIds := a.mGeofenceIds.erase entry.1 }
    request (.removeGeofence entry.2 entry.1.id) (.clientRemoved entry.2)

/-- What `removeClientCommand` does. -/
def removeClient (client : Client) : AdapterM Client Unit := do
  stopClientSessions client
  Emit.modify fun a => { a with collectiveResponseCb := Function.update a.collectiveResponseCb client false }

/-- `restartGeofences`. -/
def restartGeofences : AdapterM Client Unit := do
  let a ← Emit.get
  if a.mGeofences.isEmpty then pure ()
  else do
    Emit.modify fun a => { a with mGeofences := .empty, mGeofenceIds := .empty }
    a.mGeofences.entries.forM fun entry =>
      let object := entry.2
      request (.addGeofence object.key.id ⟨16, object.breachMask, object.responsiveness, object.dwellTime⟩
        ⟨object.latitude, object.longitude, object.radius⟩) (.readded object)

end Adapter

end Cypfr.Geofence
