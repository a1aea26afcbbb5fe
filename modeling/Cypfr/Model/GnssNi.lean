import Cypfr.Machine.Ledger
import Cypfr.Model.LocationApi
import Cypfr.Model.Tracking

/-! # Network initiated requests

`gnss/GnssAdapter.cpp`: the network asks whether the device may be located, and the modem hands the request to the
adapter. The adapter answers it itself or keeps it in one of two sessions, tells a client and starts a thread that
waits for the response. The message task of the adapter and the threads share the sessions; the response is written and
taken under the lock of the session, but the task looks at a session without it, and a thread gives up the identifier
of its session after it has given the lock back. Each of these accesses is a step of its own, where one condition on a
session, or saving a request in a session that has none, is one access.

How long a thread waits is left out: its time may be up whenever it waits.
-/

namespace Cypfr.GnssNi

open LocationApi (LocationCallbacks)
open Tracking (LocationError)

inductive GnssNiResponse where
  | accept
  | deny
  | noResponse
  | ignore
deriving DecidableEq

inductive GnssNiType where
  | voice
  | supl
  | controlPlane
  | emergencySupl
deriving DecidableEq

inductive LocInEmergency where
  | unknown
  | set
  | notSet
deriving DecidableEq

/-- `GnssNiNotification`, without the texts. -/
structure GnssNiNotification where
  type : GnssNiType
  options : UInt16
deriving DecidableEq

/-- What the decision about a request reads of the configuration and of the adapter. -/
structure NiConf where
  mSupportNfwControl : Bool
  afwControlId : UInt32
  e911State : Bool
  gpsLock : UInt32
  niSuplDenyOnNfwLocked : UInt32
  suplEs : UInt32
  cpMtlrEs : UInt32

/-- `NiSession`. -/
structure NiSession (Payload : Type) where
  respRecvd : Bool
  rawRequest : Option Payload
  reqID : UInt32
  resp : GnssNiResponse
deriving DecidableEq

/-- The sessions of `NiData`. -/
inductive NiKind where
  | session
  | sessionEs
deriving DecidableEq

/-- The messages of the task. The last is what a thread sends. -/
inductive LocMsg (Client Payload : Type) where
  | addClient (client : Client) (callbacks : LocationCallbacks)
  | removeClient (client : Client)
  | reportNiNotify (notify : GnssNiNotification) (data : Payload) (emergencyState : LocInEmergency)
  | gnssNiResponse (client : Client) (id : UInt32) (response : GnssNiResponse)
  | informNiResponse (response : GnssNiResponse) (payload : Payload)

/-- Where the task is. `acceptedEs` is to look for a request that an accepted emergency request overrides and `ignoring`
is to override it; both have the response of a client to write afterwards, if it was a client that accepted. -/
inductive AdapterTask (Client : Type) where
  | idle
  | saved (k : NiKind) (client : Client) (notify : GnssNiNotification)
  | notifying (client : Client) (id : UInt32) (notify : GnssNiNotification)
  | acceptedEs (response : Option (Client × UInt32))
  | ignoring (response : Option (Client × UInt32))
  | answering (client : Client) (id : UInt32) (response : GnssNiResponse) (k : NiKind)
deriving DecidableEq

/-- Where a thread in `niThreadProc` is: before it has looked at the response, in the wait, after it has given the lock
back, and after it has given the identifier up. -/
inductive NiThread (Payload : Type) where
  | starting (k : NiKind)
  | waiting (k : NiKind)
  | unlocked (k : NiKind) (send : Option (GnssNiResponse × Payload))
  | cleared (send : Option (GnssNiResponse × Payload))
deriving DecidableEq

/-- The calls of the modem's interface, which takes the payload over, and of the clients, and the payloads freed. -/
inductive Output (Client Payload : Type) where
  | informNiResponse (response : GnssNiResponse) (payload : Payload)
  | free (payload : Payload)
  | gnssNiCb (client : Client) (id : UInt32) (notify : GnssNiNotification)
  | reportResponse (client : Client) (err : LocationError) (id : UInt32)
deriving DecidableEq

/-- The adapter with its sessions, the queue of its task, and the threads. -/
structure System (Client Payload : Type) [LinearOrder Client] where
  mClientData : SortedMap Client LocationCallbacks
  sessions : NiKind → NiSession Payload
  reqIDCounter : UInt32
  msgs : List (LocMsg Client Payload)
  task : AdapterTask Client
  threads : List (NiThread Payload)

/-- What happens: the modem and the clients post messages, the task goes on, where it finds some configuration and a
thread that it creates may fail to be, and a thread goes on, whose time may be up. -/
inductive Event (Client Payload : Type) where
  | addClient (client : Client) (callbacks : LocationCallbacks)
  | removeClient (client : Client)
  | requestNiNotifyEvent (notify : GnssNiNotification) (data : Payload) (emergencyState : LocInEmergency)
  | gnssNiResponseCommand (client : Client) (id : UInt32) (response : GnssNiResponse)
  | adapter (conf : NiConf) (created : Bool)
  | thread (t : NiThread Payload) (timedOut : Bool)

variable {Client Payload : Type} [LinearOrder Client]

abbrev NiM (Client Payload : Type) [LinearOrder Client] := Emit (System Client Payload) (Output Client Payload)

/-- The session that a request is for. -/
def GnssNiType.kind (type : GnssNiType) : NiKind := if type = .emergencySupl then .sessionEs else .session

/-- Whether the device is in an emergency session, which newer modems say themselves. -/
def isInEmergency (conf : NiConf) (state : LocInEmergency) : Bool :=
  (state == .unknown && conf.e911State) || state == .set

/-- The conditions under which a request is denied because the network has no access. -/
def denied (conf : NiConf) (notify : GnssNiNotification) (state : LocInEmergency) : Bool :=
  (conf.mSupportNfwControl || conf.afwControlId == 0) && (notify.type == .supl || notify.type == .emergencySupl) &&
    !isInEmergency conf state && notify.options &&& 4 == 0 && conf.gpsLock &&& 2 != 0 &&
      conf.niSuplDenyOnNfwLocked == 1

namespace System

/-- The adapter before it has clients. -/
def initial (Client Payload : Type) [LinearOrder Client] : System Client Payload :=
  { mClientData := .empty
    sessions := fun _ => { respRecvd := false, rawRequest := none, reqID := 0, resp := .accept }
    reqIDCounter := 0, msgs := [], task := .idle, threads := [] }

/-- The first client that has a callback for requests. -/
def gnssNiCb (s : System Client Payload) : Option Client :=
  (s.mClientData.entries.find? fun entry => entry.2.gnssNiCb).map Prod.fst

def hasNiNotifyCallback (s : System Client Payload) (client : Client) : Bool :=
  (s.mClientData.find? client).any LocationCallbacks.gnssNiCb

/-- Whether a session has a request. -/
def open? (s : System Client Payload) (k : NiKind) : Bool := (s.sessions k).rawRequest.isSome

/-- Post a message. -/
def sendMsg (s : System Client Payload) (msg : LocMsg Client Payload) : System Client Payload :=
  { s with msgs := s.msgs ++ [msg] }

/-- Change a session. -/
def modifySession (k : NiKind) (f : NiSession Payload → NiSession Payload) (s : System Client Payload) :
    System Client Payload :=
  { s with sessions := Function.update s.sessions k (f (s.sessions k)) }

/-- Another thread is where one was. -/
def moveThread [DecidableEq Payload] (t t' : NiThread Payload) (s : System Client Payload) : System Client Payload :=
  { s with threads := t' :: s.threads.erase t }

/-- Save a request in a session. -/
def save (k : NiKind) (client : Client) (notify : GnssNiNotification) (data : Payload) (s : System Client Payload) :
    System Client Payload :=
  { s.modifySession k fun session => { session with rawRequest := some data, reqID := s.reqIDCounter + 1 } with
    reqIDCounter := s.reqIDCounter + 1, task := .saved k client notify }

/-- `requestNiNotify`, up to where the request is saved. -/
def requestNiNotify (notify : GnssNiNotification) (data : Payload) (bInformNiAccept : Bool) :
    NiM Client Payload Unit := do
  let s ← Emit.get
  match s.gnssNiCb with
  | none =>
    if notify.type == .emergencySupl && bInformNiAccept then do
      Emit.emit (.informNiResponse .accept data)
      Emit.modify fun s => { s with task := .acceptedEs none }
    else pure ()
  | some client =>
    if s.open? notify.type.kind || s.open? .sessionEs then Emit.emit (.free data)
    else Emit.modify (save notify.type.kind client notify data)

/-- The `proc` of `MsgReportNiNotify`. -/
def reportNiNotify (conf : NiConf) (notify : GnssNiNotification) (data : Payload) (state : LocInEmergency) :
    NiM Client Payload Unit :=
  if denied conf notify state then Emit.emit (.informNiResponse .deny data)
  else if notify.type = .emergencySupl then
    if isInEmergency conf state || conf.suplEs == 0 then requestNiNotify notify data true
    else Emit.emit (.informNiResponse .deny data)
  else if notify.type = .controlPlane then
    if isInEmergency conf state && conf.cpMtlrEs == 1 then Emit.emit (.informNiResponse .accept data)
    else requestNiNotify notify data false
  else requestNiNotify notify data false

/-- Whether an identifier is that of a session with a request. -/
def answersTo (s : System Client Payload) (k : NiKind) (id : UInt32) : Bool := id == (s.sessions k).reqID && s.open? k

/-- The `proc` of the message of `gnssNiResponseCommand`, up to where the session is found. -/
def gnssNiResponse (client : Client) (id : UInt32) (response : GnssNiResponse) : NiM Client Payload Unit := do
  let s ← Emit.get
  if s.hasNiNotifyCallback client then
    if s.answersTo .sessionEs id then
      if response = .accept then Emit.modify fun s => { s with task := .acceptedEs (some (client, id)) }
      else Emit.modify fun s => { s with task := .answering client id response .sessionEs }
    else if s.answersTo .session id then
      Emit.modify fun s => { s with task := .answering client id response .session }
    else Emit.emit (.reportResponse client .idUnknown id)
  else Emit.emit (.reportResponse client .idUnknown id)

/-- Write a response under the lock of its session. -/
def writeResponse (k : NiKind) (response : GnssNiResponse) (s : System Client Payload) : System Client Payload :=
  s.modifySession k fun session => { session with resp := response, respRecvd := true }

end System

/-- Where the task is after it has overridden a request or has found none to override. -/
def AdapterTask.overridden : Option (Client × UInt32) → AdapterTask Client
  | none => .idle
  | some (client, id) => .answering client id .accept .sessionEs

/-- The `proc` of the messages. -/
def LocMsg.proc (conf : NiConf) : LocMsg Client Payload → NiM Client Payload Unit
  | .addClient client callbacks =>
    Emit.modify fun s => { s with mClientData := s.mClientData.insert client callbacks }
  | .removeClient client => Emit.modify fun s => { s with mClientData := s.mClientData.erase client }
  | .reportNiNotify notify data state => System.reportNiNotify conf notify data state
  | .gnssNiResponse client id response => System.gnssNiResponse client id response
  | .informNiResponse response payload => Emit.emit (.informNiResponse response payload)

namespace System

/-- The task takes a message or goes on with the one it is in. -/
def runTask (conf : NiConf) (created : Bool) : NiM Client Payload Unit := do
  let s ← Emit.get
  match s.task with
  | .idle =>
    match s.msgs with
    | [] => pure ()
    | msg :: rest => do
      Emit.modify fun s => { s with msgs := rest }
      msg.proc conf
  | .saved k client notify =>
    Emit.modify fun s =>
      { s with threads := if created then .starting k :: s.threads else s.threads
               task := .notifying client (s.sessions k).reqID notify }
  | .notifying client id notify => do
    Emit.emit (.gnssNiCb client id notify)
    Emit.modify fun s => { s with task := .idle }
  | .acceptedEs response =>
    Emit.modify fun s => { s with task := if s.open? .session then .ignoring response else .overridden response }
  | .ignoring response => Emit.modify fun s => { s.writeResponse .session .ignore with task := .overridden response }
  | .answering client id response k => do
    Emit.modify fun s => { s.writeResponse k response with task := .idle }
    Emit.emit (.reportResponse client .success id)

variable [DecidableEq Payload]

/-- A thread takes the request out of its session, with the response or after its time was up, and gives the lock
back. -/
def close (t : NiThread Payload) (k : NiKind) (resp : GnssNiResponse) : NiM Client Payload Unit := do
  let s ← Emit.get
  Emit.modify (modifySession k fun session => { session with respRecvd := false, rawRequest := none, resp := resp })
  match (s.sessions k).rawRequest with
  | none => Emit.modify (moveThread t (.unlocked k none))
  | some payload =>
    if resp = .ignore then do
      Emit.emit (.free payload)
      Emit.modify (moveThread t (.unlocked k none))
    else Emit.modify (moveThread t (.unlocked k (some (resp, payload))))

/-- A thread goes on in `niThreadProc`. -/
def runThread (t : NiThread Payload) (timedOut : Bool) : NiM Client Payload Unit := do
  let s ← Emit.get
  match t with
  | .starting k =>
    if (s.sessions k).respRecvd then close t k (s.sessions k).resp else Emit.modify (moveThread t (.waiting k))
  | .waiting k =>
    if timedOut then close t k .noResponse
    else if (s.sessions k).respRecvd then close t k (s.sessions k).resp
    else pure ()
  | .unlocked k send =>
    Emit.modify fun s => (s.modifySession k fun session => { session with reqID := 0 }).moveThread t (.cleared send)
  | .cleared send => do
    Emit.modify fun s => { s with threads := s.threads.erase t }
    match send with
    | none => pure ()
    | some (response, payload) => Emit.modify fun s => s.sendMsg (.informNiResponse response payload)

end System

variable [DecidableEq Payload]

/-- An event. -/
def Event.happen : Event Client Payload → NiM Client Payload Unit
  | .addClient client callbacks => Emit.modify fun s => s.sendMsg (.addClient client callbacks)
  | .removeClient client => Emit.modify fun s => s.sendMsg (.removeClient client)
  | .requestNiNotifyEvent notify data state => Emit.modify fun s => s.sendMsg (.reportNiNotify notify data state)
  | .gnssNiResponseCommand client id response => Emit.modify fun s => s.sendMsg (.gnssNiResponse client id response)
  | .adapter conf created => System.runTask conf created
  | .thread t timedOut => do
    let s ← Emit.get
    if t ∈ s.threads then System.runThread t timedOut else pure ()

/-- The state after an event. -/
def System.step (s : System Client Payload) (e : Event Client Payload) : System Client Payload := e.happen.next s

/-- What is called and freed in a run. -/
def System.outputs : System Client Payload → List (Event Client Payload) → List (Output Client Payload) :=
  Machine.gathered step fun s e => e.happen.emitted s

end Cypfr.GnssNi
