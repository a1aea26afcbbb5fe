import Cypfr.Model.GeofenceModem

/-! # One command for geofences

The calls that a command queues run one after the other, and the requests they make are answered in their order.
Between two of these the adapter may do anything else. What is kept beside the adapter is the result of each
geofence of the command, whatever becomes of it.
-/

namespace Cypfr.Geofence

open Tracking ClientBase

inductive GeofenceCommand where
  | addGeofences (geofences : List (UInt32 × GeofenceOption × GeofenceInfo))
  | removeGeofences (ids : List UInt32)
  | pauseGeofences (ids : List UInt32)
  | resumeGeofences (ids : List UInt32)
  | modifyGeofences (geofences : List (UInt32 × GeofenceOption))
  | withoutArrays (ids : List UInt32)

namespace GeofenceCommand

def ids : GeofenceCommand → List UInt32
  | addGeofences geofences => geofences.map Prod.fst
  | removeGeofences ids => ids
  | pauseGeofences ids => ids
  | resumeGeofences ids => ids
  | modifyGeofences geofences => geofences.map Prod.fst
  | withoutArrays ids => ids

/-- Every geofence of a command without its arrays has an invalid parameter. -/
def resultsAtFirst : GeofenceCommand → ℕ → Option LocationError
  | withoutArrays ids => fun i => if i < ids.length then some .invalidParameter else none
  | _ => fun _ => none

variable {Client : Type} [LinearOrder Client]

def run (client : Client) : GeofenceCommand → AdapterM Client Unit
  | addGeofences geofences => addGeofencesCommand client geofences
  | removeGeofences ids => removeGeofencesCommand client ids
  | pauseGeofences ids => pauseGeofencesCommand client ids
  | resumeGeofences ids => resumeGeofencesCommand client ids
  | modifyGeofences geofences => modifyGeofencesCommand client geofences
  | withoutArrays ids => Geofence.withoutArrays client ids

end GeofenceCommand

/-- The client, the errors and the identifiers of a response. -/
def GeofenceOutput.reported {Client : Type} :
    GeofenceOutput Client → Option (Client × List (Option LocationError) × List UInt32)
  | .request .. => none
  | .collectiveResponse client errs ids => some (client, errs, ids)

/-- The result of a geofence that is known when a function runs: that its identifier is unknown, or what the modem
answers. -/
def GeofenceResponse.result? {Client : Type} [LinearOrder Client] (a : GeofenceAdapter Client) (err : LocationError) :
    GeofenceResponse Client → Option (ℕ × LocationError)
  | .remove item id => if a.mGeofenceIds.contains ⟨item.client, id⟩ then none else some (item.i, .idUnknown)
  | .pause item id => if a.mGeofenceIds.contains ⟨item.client, id⟩ then none else some (item.i, .idUnknown)
  | .resume item id => if a.mGeofenceIds.contains ⟨item.client, id⟩ then none else some (item.i, .idUnknown)
  | .modify item id _ => if a.mGeofenceIds.contains ⟨item.client, id⟩ then none else some (item.i, .idUnknown)
  | .added item _ _ _ => some (item.i, err)
  | .removed item _ => some (item.i, err)
  | .paused item _ => some (item.i, err)
  | .resumed item _ => some (item.i, err)
  | .modified item _ _ => some (item.i, err)
  | _ => none

inductive CommandTurn (Client : Type) [LinearOrder Client] where
  | call
  | answer (err : LocationError) (hwId : UInt32)
  | meanwhile (adapter : GeofenceAdapter Client)

structure CommandRun (Client : Type) [LinearOrder Client] where
  adapter : GeofenceAdapter Client
  calls : List (GeofenceResponse Client)
  requests : List (GeofenceResponse Client)
  reports : List (Client × List (Option LocationError) × List UInt32)
  results : ℕ → Option LocationError

namespace CommandRun

variable {Client : Type} [LinearOrder Client]

def start (client : Client) (command : GeofenceCommand) (a : GeofenceAdapter Client) : CommandRun Client where
  adapter := (command.run client).next a
  calls := (((command.run client).emitted a).filterMap GeofenceOutput.asked).map Prod.snd
  requests := []
  reports := ((command.run client).emitted a).filterMap GeofenceOutput.reported
  results := command.resultsAtFirst

/-- The function of a call or a request, for what is answered. -/
def proceed (s : CommandRun Client) (response : GeofenceResponse Client) (err : LocationError) (hwId : UInt32) :
    CommandRun Client :=
  let p := response.proc err hwId
  { adapter := p.next s.adapter
    calls := s.calls
    requests := s.requests ++ ((p.emitted s.adapter).filterMap GeofenceOutput.asked).map Prod.snd
    reports := s.reports ++ (p.emitted s.adapter).filterMap GeofenceOutput.reported
    results :=
      match response.result? s.adapter err with
      | some (i, result) => Function.update s.results i (some result)
      | none => s.results }

def step (s : CommandRun Client) : CommandTurn Client → CommandRun Client
  | .call =>
    match s.calls with
    | [] => s
    | response :: calls => { s with calls }.proceed response .success 0
  | .answer err hwId =>
    match s.requests with
    | [] => s
    | response :: requests => { s with requests }.proceed response err hwId
  | .meanwhile adapter => { s with adapter }

end CommandRun

end Cypfr.Geofence
