import Cypfr.Machine.Emit
import Cypfr.ToMathlib.SortedMap

/-! # Client objects of the location API

`location/LocationAPI.cpp` keeps the objects that the users of the library create and destroy; `core/LocAdapterBase.cpp`
keeps the callbacks of a client in each adapter that serves it. The users' threads change the data of the library under
one lock and post messages; all adapters take their messages on one task. What a thread does after it has given the
lock back is a step of its own.

What the adapters do with the sessions and the event masks of their clients is left out.
-/

namespace Cypfr.LocationApi

/-- `LocationCallbacks`: whether each is set. -/
structure LocationCallbacks where
  capabilitiesCb : Bool
  responseCb : Bool
  collectiveResponseCb : Bool
  trackingCb : Bool
  gnssLocationInfoCb : Bool
  engineLocationsInfoCb : Bool
  gnssNiCb : Bool
  gnssSvCb : Bool
  gnssNmeaCb : Bool
  gnssDataCb : Bool
  gnssMeasurementsCb : Bool
  locationSystemInfoCb : Bool
  batchingCb : Bool
  geofenceBreachCb : Bool
  geofenceStatusCb : Bool
deriving DecidableEq

/-- The adapters, by the interface that the library loads for each. -/
inductive Adapter where
  | gnss
  | batching
  | geofence
deriving DecidableEq

/-- `LOCATION_ADAPTER_GNSS_TYPE_BIT` and its siblings. -/
def Adapter.typeBit : Adapter → UInt16
  | .gnss => 1
  | .batching => 2
  | .geofence => 4

def isGnssClient (callbacks : LocationCallbacks) : Bool :=
  callbacks.gnssNiCb || callbacks.trackingCb || callbacks.gnssLocationInfoCb || callbacks.engineLocationsInfoCb ||
    callbacks.gnssSvCb || callbacks.gnssNmeaCb || callbacks.gnssDataCb || callbacks.gnssMeasurementsCb ||
    callbacks.locationSystemInfoCb

def isBatchingClient (callbacks : LocationCallbacks) : Bool := callbacks.batchingCb

def isGeofenceClient (callbacks : LocationCallbacks) : Bool := callbacks.geofenceBreachCb || callbacks.geofenceStatusCb

/-- Whether a client with some callbacks is one of an adapter. -/
def Adapter.isClient (a : Adapter) (callbacks : LocationCallbacks) : Bool :=
  match a with
  | .gnss => isGnssClient callbacks
  | .batching => isBatchingClient callbacks
  | .geofence => isGeofenceClient callbacks

/-- The callbacks that no client goes without. -/
def LocationCallbacks.hasMandatory (callbacks : LocationCallbacks) : Bool :=
  callbacks.capabilitiesCb && callbacks.responseCb && callbacks.collectiveResponseCb

/-- `LocationAPIDestroyCbData`. -/
structure LocationAPIDestroyCbData (Callback : Type) where
  waitAdapterMask : UInt16
  destroyCompleteCb : Option Callback

/-- The messages to the adapters; that of `MsgRemoveClient` carries the function of its adapter that reports the end. -/
inductive LocMsg (Client : Type) where
  | addClient (a : Adapter) (client : Client) (callbacks : LocationCallbacks)
  | removeClient (a : Adapter) (client : Client)
  | requestCapabilities (a : Adapter) (client : Client)
  | handleEngineUpEvent (a : Adapter)

/-- `LocAdapterBase`; of the messages that wait for the engine, the clients of those that ask for the capabilities. -/
structure LocAdapterBase (Client : Type) [LinearOrder Client] where
  mClientData : SortedMap Client LocationCallbacks
  mIsEngineCapabilitiesKnown : Bool
  mPendingMsgs : List Client

/-- The calls to the framework and to functions of the users, and the objects that are deleted. -/
inductive Output (Client Callback : Type) where
  | createOSFramework
  | destroyOSFramework
  | capabilitiesCb (client : Client)
  | destroyCompleteCb (cb : Callback)
  | delete (client : Client)
deriving DecidableEq

/-- The data of the library, its adapters once they are loaded, the messages of their task and the objects there are.
`completing` is the object with which the task has left `onRemoveClientCompleteCb`'s lock and `leaving` are those with
which a user's thread has left that of `destroy`; the process is `aborted` by the call of an empty function. -/
structure System (Client Callback : Type) [LinearOrder Client] where
  clientData : SortedMap Client LocationCallbacks
  destroyClientData : SortedMap Client (LocationAPIDestroyCbData Callback)
  interface : Adapter → Option (LocAdapterBase Client)
  loadFailed : Adapter → Bool
  gOSFrameworkRefCount : UInt32
  sIsEngineCapabilitiesKnown : Bool
  msgTask : List (LocMsg Client)
  completing : Option (Client × Option Callback)
  leaving : List (Client × Option Callback)
  alive : Client → Bool
  aborted : Bool

/-- What happens: calls of the users, the message task or a thread in `destroy` going on, and the engine of an adapter
coming up. -/
inductive Event (Client Callback : Type) where
  | createInstance (client : Client) (callbacks : LocationCallbacks)
  | updateCallbacks (client : Client) (callbacks : LocationCallbacks)
  | destroy (client : Client) (cb : Option Callback)
  | task
  | finish (client : Client)
  | engineUp (a : Adapter)

variable {Client Callback : Type} [LinearOrder Client]

abbrev SystemM (Client Callback : Type) [LinearOrder Client] := Emit (System Client Callback) (Output Client Callback)

namespace System

/-- The library before it is used. -/
def initial (Client Callback : Type) [LinearOrder Client] : System Client Callback :=
  { clientData := .empty, destroyClientData := .empty, interface := fun _ => none, loadFailed := fun _ => false,
    gOSFrameworkRefCount := 0, sIsEngineCapabilitiesKnown := false, msgTask := [], completing := none, leaving := [],
    alive := fun _ => false, aborted := false }

/-- Post a message. -/
def sendMsg (s : System Client Callback) (msg : LocMsg Client) : System Client Callback :=
  { s with msgTask := s.msgTask ++ [msg] }

/-- Whether the interface of an adapter is not null. -/
def loaded (s : System Client Callback) (a : Adapter) : Bool := (s.interface a).isSome

/-- Load the interface of an adapter, if it is not there and did not fail to load; `available` says which libraries
there are. -/
def loadLocationInterface (available : Adapter → Bool) (a : Adapter) (s : System Client Callback) :
    System Client Callback :=
  if s.loaded a || s.loadFailed a then s
  else if available a then
    let adapter : LocAdapterBase Client :=
      { mClientData := .empty, mIsEngineCapabilitiesKnown := s.sIsEngineCapabilitiesKnown, mPendingMsgs := [] }
    { s with interface := Function.update s.interface a (some adapter) }
  else { s with loadFailed := Function.update s.loadFailed a true }

/-- A client's part at one adapter, in `createInstance` and in `updateCallbacks`. -/
def addClient (available : Adapter → Bool) (client : Client) (callbacks : LocationCallbacks) (a : Adapter)
    (s : System Client Callback) : System Client Callback :=
  if a.isClient callbacks then
    let s := s.loadLocationInterface available a
    if s.loaded a then s.sendMsg (.addClient a client callbacks) else s
  else s

/-- The part of a new client at one adapter, of which the first to have it is asked for the capabilities. -/
def enroll (available : Adapter → Bool) (client : Client) (callbacks : LocationCallbacks)
    (before : System Client Callback × Bool) (a : Adapter) : System Client Callback × Bool :=
  let s := before.1.addClient available client callbacks a
  if a.isClient callbacks && s.loaded a && !before.2 then (s.sendMsg (.requestCapabilities a client), true)
  else (s, before.2)

/-- The bits of the adapters whose interfaces are loaded. -/
def adapterMask (s : System Client Callback) : UInt16 :=
  (if s.loaded .gnss then Adapter.typeBit .gnss else 0) |||
    (if s.loaded .batching then Adapter.typeBit .batching else 0) |||
      (if s.loaded .geofence then Adapter.typeBit .geofence else 0)

def needToWait (s : System Client Callback) : Bool := s.loaded .gnss || s.loaded .batching || s.loaded .geofence

/-- Remove a client from an adapter, if its interface is loaded. -/
def removeClient (client : Client) (s : System Client Callback) (a : Adapter) : System Client Callback :=
  if s.loaded a then s.sendMsg (.removeClient a client) else s

/-- Change the data of an adapter. -/
def modifyAdapter (a : Adapter) (f : LocAdapterBase Client → LocAdapterBase Client) (s : System Client Callback) :
    System Client Callback :=
  { s with interface := Function.update s.interface a ((s.interface a).map f) }

/-- What `onRemoveClientCompleteCb` does under the lock. -/
def onRemoveClientCompleteCb (a : Adapter) (client : Client) (s : System Client Callback) : System Client Callback :=
  match s.destroyClientData.find? client with
  | none => s
  | some data =>
    let waitAdapterMask := data.waitAdapterMask &&& ~~~ a.typeBit
    if waitAdapterMask = 0 then
      { s with destroyClientData := s.destroyClientData.erase client
               completing := some (client, data.destroyCompleteCb) }
    else { s with destroyClientData := s.destroyClientData.insert client { data with waitAdapterMask } }

/-- `createInstance`, for which `new` gave the object. -/
def createInstance (available : Adapter → Bool) (client : Client) (callbacks : LocationCallbacks) :
    SystemM Client Callback Unit := do
  if callbacks.hasMandatory then do
    Emit.modify fun s => { s with alive := Function.update s.alive client true
                                  gOSFrameworkRefCount := s.gOSFrameworkRefCount + 1 }
    let s ← Emit.get
    if 1 = s.gOSFrameworkRefCount then Emit.emit .createOSFramework else pure ()
    Emit.modify fun s => ([Adapter.gnss, .batching, .geofence].foldl (enroll available client callbacks) (s, false)).1
    Emit.modify fun s => { s with clientData := s.clientData.insert client callbacks }
  else pure ()

/-- `updateCallbacks`. -/
def updateCallbacks (available : Adapter → Bool) (client : Client) (callbacks : LocationCallbacks) :
    SystemM Client Callback Unit := do
  if callbacks.hasMandatory then do
    Emit.modify fun s =>
      [Adapter.gnss, .batching, .geofence].foldl (fun s a => s.addClient available client callbacks a) s
    Emit.modify fun s => { s with clientData := s.clientData.insert client callbacks }
  else pure ()

/-- What `destroy` does with a client that it finds, under the lock. -/
def drop (client : Client) (cb : Option Callback) (s : System Client Callback) : System Client Callback :=
  let waits : System Client Callback :=
    if cb.isSome && s.needToWait then
      let data : LocationAPIDestroyCbData Callback := { waitAdapterMask := s.adapterMask, destroyCompleteCb := cb }
      { s with destroyClientData := s.destroyClientData.insert client data }
    else s
  let removed := [Adapter.gnss, .batching, .geofence].foldl (removeClient client) waits
  { removed with clientData := removed.clientData.erase client
                 leaving := if s.needToWait then removed.leaving else removed.leaving ++ [(client, cb)] }

/-- `destroy`, up to where it gives the lock back. -/
def destroy (client : Client) (cb : Option Callback) : SystemM Client Callback Unit := do
  Emit.modify fun s => if s.clientData.contains client then s.drop client cb else s
  let s ← Emit.get
  if 1 = s.gOSFrameworkRefCount then Emit.emit .destroyOSFramework else pure ()
  Emit.modify fun s => { s with gOSFrameworkRefCount := s.gOSFrameworkRefCount - 1 }

/-- Call a function, which ends the process if it is empty. -/
def call (cb : Option Callback) : SystemM Client Callback Unit :=
  match cb with
  | none => Emit.modify fun s => { s with aborted := true }
  | some cb => Emit.emit (.destroyCompleteCb cb)

/-- The end of `destroy` and of `onRemoveClientCompleteCb`. -/
def complete (client : Client) (cb : Option Callback) : SystemM Client Callback Unit := do
  if cb.isNone then call cb else pure ()
  let s ← Emit.get
  if s.aborted then pure ()
  else do
    Emit.emit (.delete client)
    Emit.modify fun s => { s with alive := Function.update s.alive client false }

/-- `broadcastCapabilities`. -/
def broadcastCapabilities (adapter : LocAdapterBase Client) : SystemM Client Callback Unit :=
  adapter.mClientData.entries.forM fun entry =>
    if entry.2.capabilitiesCb then Emit.emit (.capabilitiesCb entry.1) else pure ()

end System

/-- The `proc` of the messages. -/
def LocMsg.proc : LocMsg Client → SystemM Client Callback Unit
  | .addClient a client callbacks =>
    Emit.modify (System.modifyAdapter a fun adapter =>
      { adapter with mClientData := adapter.mClientData.insert client callbacks })
  | .removeClient a client => do
    Emit.modify (System.modifyAdapter a fun adapter => { adapter with mClientData := adapter.mClientData.erase client })
    Emit.modify (System.onRemoveClientCompleteCb a client)
  | .requestCapabilities a client => do
    let s ← Emit.get
    match s.interface a with
    | none => pure ()
    | some adapter =>
      if adapter.mIsEngineCapabilitiesKnown then
        match adapter.mClientData.find? client with
        | none => pure ()
        | some callbacks => if callbacks.capabilitiesCb then Emit.emit (.capabilitiesCb client) else pure ()
      else
        Emit.modify (System.modifyAdapter a fun adapter =>
          { adapter with mPendingMsgs := adapter.mPendingMsgs ++ [client] })
  | .handleEngineUpEvent a => do
    let s ← Emit.get
    match s.interface a with
    | none => pure ()
    | some adapter => do
      Emit.modify (System.modifyAdapter a fun adapter => { adapter with mIsEngineCapabilitiesKnown := true })
      System.broadcastCapabilities adapter
      Emit.modify fun s => { s with msgTask := s.msgTask ++ adapter.mPendingMsgs.map (.requestCapabilities a) }
      Emit.modify (System.modifyAdapter a fun adapter => { adapter with mPendingMsgs := [] })

namespace System

/-- The message task goes on: it ends the removal it is in or takes a message. -/
def runTask : SystemM Client Callback Unit := do
  let s ← Emit.get
  match s.completing with
  | some (client, cb) => do
    Emit.modify fun s => { s with completing := none }
    complete client cb
  | none =>
    match s.msgTask with
    | [] => pure ()
    | msg :: rest => do
      Emit.modify fun s => { s with msgTask := rest }
      msg.proc

/-- A user's thread goes on in `destroy`. -/
def finish (client : Client) : SystemM Client Callback Unit := do
  let s ← Emit.get
  match s.leaving.find? fun entry => entry.1 = client with
  | none => pure ()
  | some (_, cb) => do
    Emit.modify fun s => { s with leaving := s.leaving.eraseP fun entry => entry.1 = client }
    complete client cb

end System

/-- An event. -/
def Event.run (available : Adapter → Bool) : Event Client Callback → SystemM Client Callback Unit
  | .createInstance client callbacks => System.createInstance available client callbacks
  | .updateCallbacks client callbacks => System.updateCallbacks available client callbacks
  | .destroy client cb => System.destroy client cb
  | .task => System.runTask
  | .finish client => System.finish client
  | .engineUp a =>
    Emit.modify fun s =>
      if s.loaded a then { s.sendMsg (.handleEngineUpEvent a) with sIsEngineCapabilitiesKnown := true } else s

/-- An event in a process that may have ended. -/
def Event.happen (available : Adapter → Bool) (e : Event Client Callback) : SystemM Client Callback Unit := do
  let s ← Emit.get
  if s.aborted then pure () else e.run available

/-- The state after an event. -/
def System.step (available : Adapter → Bool) (s : System Client Callback) (e : Event Client Callback) :
    System Client Callback :=
  (e.happen available).next s

/-- What is called and deleted in a run. -/
def System.outputs (available : Adapter → Bool) : System Client Callback → List (Event Client Callback) →
    List (Output Client Callback)
  | _, [] => []
  | s, e :: rest => (e.happen available).emitted s ++ System.outputs available (s.step available e) rest

end Cypfr.LocationApi
