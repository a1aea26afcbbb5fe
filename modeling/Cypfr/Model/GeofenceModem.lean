import Cypfr.Model.Geofence

/-! # Geofences beside their modem

The modem answers each request when it likes, with success or an error; a geofence that it adds gets a hardware
identifier. A restart of the modem leaves it without geofences, and the requests from before it may still be
answered. What is kept of a run is what waits for an answer, which clients are gone, and which geofences the modem
has, each with whether it is paused.
-/

namespace Cypfr.Geofence

open Tracking ClientBase

inductive GeofenceEvent (Client : Type) where
  | addGeofences (client : Client) (geofences : List (UInt32 × GeofenceOption × GeofenceInfo))
  | removeGeofences (client : Client) (ids : List UInt32)
  | pauseGeofences (client : Client) (ids : List UInt32)
  | resumeGeofences (client : Client) (ids : List UInt32)
  | modifyGeofences (client : Client) (geofences : List (UInt32 × GeofenceOption))
  | removeClient (client : Client)
  | restartGeofences
  | answer (index : ℕ) (err : LocationError) (hwId : UInt32)

structure GeofenceSession (Client : Type) [LinearOrder Client] where
  adapter : GeofenceAdapter Client
  outstanding : List (GeofenceRequest × GeofenceResponse Client)
  removed : List Client
  modem : SortedMap UInt32 Bool

/-- The request and the response of an output. -/
def GeofenceOutput.asked {Client : Type} : GeofenceOutput Client → Option (GeofenceRequest × GeofenceResponse Client)
  | .request sent response => some (sent, response)
  | .collectiveResponse .. => none

/-- What the modem does when it answers. -/
def GeofenceRequest.perform (sent : GeofenceRequest) (err : LocationError) (hwId : UInt32)
    (modem : SortedMap UInt32 Bool) : SortedMap UInt32 Bool :=
  if err = .success then
    match sent with
    | .callQueue => modem
    | .addGeofence .. => modem.insert hwId false
    | .removeGeofence hwId _ => modem.erase hwId
    | .pauseGeofence hwId _ => if modem.contains hwId then modem.insert hwId true else modem
    | .resumeGeofence hwId _ => if modem.contains hwId then modem.insert hwId false else modem
    | .modifyGeofence .. => modem
  else modem

namespace GeofenceSession

variable {Client : Type} [LinearOrder Client]

/-- No geofences, and nothing asked. -/
def initial (collectiveResponseCb : Client → Bool) : GeofenceSession Client :=
  ⟨⟨.empty, .empty, collectiveResponseCb, []⟩, [], [], .empty⟩

/-- What a program of the adapter does. -/
def after (s : GeofenceSession Client) (p : AdapterM Client Unit) : GeofenceSession Client :=
  { s with
    adapter := p.next s.adapter
    outstanding := s.outstanding ++ (p.emitted s.adapter).filterMap GeofenceOutput.asked }

def step (s : GeofenceSession Client) : GeofenceEvent Client → GeofenceSession Client
  | .addGeofences client geofences => s.after (addGeofencesCommand client geofences)
  | .removeGeofences client ids => s.after (removeGeofencesCommand client ids)
  | .pauseGeofences client ids => s.after (pauseGeofencesCommand client ids)
  | .resumeGeofences client ids => s.after (resumeGeofencesCommand client ids)
  | .modifyGeofences client geofences => s.after (modifyGeofencesCommand client geofences)
  | .removeClient client => { s with removed := client :: s.removed }.after (removeClient client)
  | .restartGeofences => { s with modem := .empty }.after restartGeofences
  | .answer index err hwId =>
    match s.outstanding[index]? with
    | none => s
    | some (sent, response) =>
      { s with outstanding := s.outstanding.eraseIdx index, modem := sent.perform err hwId s.modem }.after
        (response.proc err hwId)

/-- The modem gives a geofence a hardware identifier that no other has. -/
def GivesUnused (s : GeofenceSession Client) : GeofenceEvent Client → Prop
  | .answer index err hwId =>
    match s.outstanding[index]? with
    | some (.addGeofence .., _) => err = .success → hwId ∉ s.modem
    | _ => True
  | _ => True

end GeofenceSession

end Cypfr.Geofence
