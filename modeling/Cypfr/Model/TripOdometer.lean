import Cypfr.Model.BatchingModem

/-! # Trips over the odometer of the modem

The modem counts the distance since it last started or restarted its batch of trips. A request takes effect when it is
answered; here every request succeeds. Beside the adapter and the odometer stands what a trip is to measure: the
distance travelled since the modem started it, or since it joined the batch of the others.
-/

namespace Cypfr.Batching

inductive RideEvent (Client : Type) where
  | command (command : BatchingCommand Client)
  | travel (distance : ℕ)
  | report
  | handleEngineUpEvent
  | answer (index numOfBatchedPositions : ℕ)

/-- The requests after which the odometer is at zero. -/
def BatchingRequest.resets : BatchingRequest → Bool
  | .startOutdoorTripBatching .. | .reStartOutdoorTripBatching .. => true
  | _ => false

/-- A trip is asked for that is the first one. -/
def BatchingOutput.asksForTrip {Client : Type} (id : UInt32) : BatchingOutput Client → Bool
  | .request _ (.tripStarted _ sessionId _) => sessionId == id
  | _ => false

/-- The distances after an answer. -/
def BatchingResponse.meter {Client : Type} (meter : UInt32 → Option ℕ) : BatchingResponse Client → UInt32 → Option ℕ
  | .tripStarted _ sessionId _ => fun id => if id = sessionId then some ((meter id).getD 0) else meter id
  | .queriedForStart _ sessionId _ => fun id => if id = sessionId then some 0 else meter id
  | _ => meter

/-- The adapter, the odometer of its modem and the distances travelled since the trips were started. -/
structure Ride (Client : Type) [LinearOrder Client] where
  session : BatchingSession Client
  odometer : ℕ
  meter : UInt32 → Option ℕ

namespace Ride

variable {Client : Type} [LinearOrder Client]

/-- Nothing asked and nothing travelled yet. -/
def start (adapter : BatchingAdapter Client) : Ride Client := ⟨.start adapter, 0, fun _ => none⟩

/-- The distance travelled since a trip was started. -/
def distance (r : Ride Client) (id : UInt32) : ℕ := (r.meter id).getD 0

/-- What a program of the adapter does; a trip that it asks for has not started. -/
def after {α : Type} (r : Ride Client) (p : BatchingM Client α) : Ride Client where
  session :=
    { adapter := p.next r.session.adapter
      outstanding := r.session.outstanding ++ (p.emitted r.session.adapter).filterMap BatchingOutput.asked
      log := r.session.log ++ p.emitted r.session.adapter }
  odometer := r.odometer
  meter id := if (p.emitted r.session.adapter).any (BatchingOutput.asksForTrip id) then none else r.meter id

/-- The modem has done what it was asked and says so. -/
def answered (r : Ride Client) (index : ℕ) (sent : BatchingRequest) (response : BatchingResponse Client) : Ride Client where
  session := { r.session with outstanding := r.session.outstanding.eraseIdx index }
  odometer := if sent.resets then 0 else r.odometer
  meter := response.meter r.meter

def step (r : Ride Client) : RideEvent Client → Ride Client
  | .command command => r.after command.proc
  | .travel distance => { r with odometer := r.odometer + distance, meter := fun id => (r.meter id).map (· + distance) }
  | .report => r.after (reportCompletedTripsEvent r.odometer)
  | .handleEngineUpEvent => r.after handleEngineUpEvent
  | .answer index numOfBatchedPositions =>
    match r.session.outstanding[index]? with
    | none => r
    | some (sent, response) =>
      (r.answered index sent response).after (response.proc .success ⟨r.odometer, numOfBatchedPositions⟩)

/-- A report completes the trips whose distances have been travelled since they were started. -/
def Right (r : Ride Client) : RideEvent Client → Prop
  | .report => ∀ id, (∃ completedTrips, .reportBatchStatusChange completedTrips ∈
      (reportCompletedTripsEvent r.odometer).emitted r.session.adapter ∧ id ∈ completedTrips) ↔
      ∃ trip, r.session.adapter.mTripSessions.find? id = some trip ∧ trip.tripDistance ≤ r.distance id
  | _ => True

end Ride

end Cypfr.Batching
