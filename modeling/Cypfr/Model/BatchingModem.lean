import Cypfr.Model.Batching

/-! # Batching beside its modem

The modem answers each request when it likes, with success or an error. Commands, reports of the distance of the ongoing
batch, restarts of the modem and answers come in any order; what is kept of a run is what waits for an answer and
what the adapter emitted.
-/

namespace Cypfr.Batching

open Tracking

inductive BatchingEvent (Client : Type) where
  | command (command : BatchingCommand Client)
  | reportCompletedTrips (accumulatedDistance : ℕ)
  | handleEngineUpEvent
  | answer (index : ℕ) (err : LocationError) (data : LocApiBatchData)

structure BatchingSession (Client : Type) [LinearOrder Client] where
  adapter : BatchingAdapter Client
  outstanding : List (BatchingRequest × BatchingResponse Client)
  log : List (BatchingOutput Client)

/-- The request and the response of an output. -/
def BatchingOutput.asked {Client : Type} : BatchingOutput Client → Option (BatchingRequest × BatchingResponse Client)
  | .request sent response => some (sent, response)
  | _ => none

section Adapter

variable {Client : Type} [LinearOrder Client]

/-- No sessions, and the event for full batches off. -/
def BatchingAdapter.initial (batchingCb responseCb : Client → Bool) (supported known : Bool) (timeout accuracy : ℕ) :
    BatchingAdapter Client :=
  { mBatchingSessions := .empty, mTripSessions := .empty, mOngoingTripDistance := 0, mOngoingTripTBFInterval := 0
    mTripWithOngoingTBFDropped := false, mTripWithOngoingTripDistanceDropped := false, mBatchingTimeout := timeout
    mBatchingAccuracy := accuracy, batchFull := false, batchingCb, responseCb
    isDistanceBaseBatchingSupported := supported, engineCapabilitiesKnown := known, mPendingMsgs := [] }

end Adapter

/-- The options of a trip. -/
def BatchingOptions.ofTrip (minDistance minInterval : ℕ) : BatchingOptions :=
  { size := sizeofBatchingOptions, minInterval, minDistance, mode := .standalone, locReqEngTypeMask := 0
    batchingMode := .trip }

/-- No sessions of clients that have all their callbacks. -/
def BatchingAdapter.fresh : BatchingAdapter ℕ := .initial (fun _ => true) (fun _ => true) true true 0 0

namespace BatchingSession

variable {Client : Type} [LinearOrder Client]

/-- Nothing asked yet. -/
def start (adapter : BatchingAdapter Client) : BatchingSession Client := ⟨adapter, [], []⟩

/-- What a program of the adapter does. -/
def after (s : BatchingSession Client) (p : BatchingM Client Unit) : BatchingSession Client :=
  { adapter := p.next s.adapter
    outstanding := s.outstanding ++ (p.emitted s.adapter).filterMap BatchingOutput.asked
    log := s.log ++ p.emitted s.adapter }

def step (s : BatchingSession Client) : BatchingEvent Client → BatchingSession Client
  | .command command => s.after command.proc
  | .reportCompletedTrips accumulatedDistance => s.after (reportCompletedTripsEvent accumulatedDistance)
  | .handleEngineUpEvent => s.after handleEngineUpEvent
  | .answer index err data =>
    match s.outstanding[index]? with
    | none => s
    | some (_, response) => { s with outstanding := s.outstanding.eraseIdx index }.after (response.proc err data)

end BatchingSession

end Cypfr.Batching
