import Cypfr.Machine.Emit
import Cypfr.Model.Tracking
import Mathlib.Algebra.Group.Nat.Defs

/-! # Batching sessions

`gps/batching/BatchingAdapter.cpp`: the batching sessions of all clients, and of those the trips, which share one
batch of the modem. What is left to do when a request to the modem is answered is a function that it carries; the
model names each of these functions and what it captured.

Commands, reports, restarts of the modem and responses are messages to one task, so each is processed as a whole.
Numbers of 32 bits are natural numbers; a subtraction of such that wraps is emitted.
-/

namespace Cypfr.Batching

open Tracking

/-- `BatchingMode`; a client can send a number that is none of the modes. -/
inductive BatchingMode where
  | routine
  | trip
  | noAutoReport
  | invalid
deriving DecidableEq

/-- `BatchingOptions`. -/
structure BatchingOptions extends LocationOptions where
  batchingMode : BatchingMode
deriving DecidableEq

/-- What the constructor of `BatchingOptions` sets. -/
def BatchingOptions.initial : BatchingOptions :=
  { size := 0, minInterval := 0, minDistance := 0, mode := .standalone, locReqEngTypeMask := 0, batchingMode := .routine }

/-- `sizeof(BatchingOptions)`. -/
def sizeofBatchingOptions : UInt32 := 24

/-- `TripSessionStatus`. -/
structure TripSessionStatus where
  accumulatedDistanceOngoingBatch : ℕ
  accumulatedDistanceThisTrip : ℕ
  accumulatedDistanceOnTripRestart : ℕ
  tripDistance : ℕ
  tripTBFInterval : ℕ
deriving DecidableEq

/-- `LocApiBatchData`. -/
structure LocApiBatchData where
  accumulatedDistance : ℕ
  numOfBatchedPositions : ℕ
deriving DecidableEq

/-- What the modem is asked. -/
inductive BatchingRequest where
  | startBatching (sessionId : UInt32) (options : BatchingOptions) (accuracy timeout : ℕ)
  | stopBatching (sessionId : UInt32)
  | startOutdoorTripBatching (tripDistance tripTbf timeout : ℕ)
  | reStartOutdoorTripBatching (ongoingTripDistance ongoingTripInterval timeout : ℕ)
  | stopOutdoorTripBatching (deallocBatchBuffer : Bool)
  | queryAccumulatedTripDistance
deriving DecidableEq

/-- What is done when the modem answers, by the place in the code that asks. -/
inductive BatchingResponse (Client : Type) where
  | started (client : Client) (sessionId : UInt32) (options : BatchingOptions)
  | stopped (client : Client) (sessionId : UInt32) (flpOptions : BatchingOptions) (restartNeeded : Bool)
      (options : BatchingOptions)
  | tripStarted (client : Client) (sessionId : UInt32) (options : BatchingOptions)
  | queriedForStart (client : Client) (sessionId : UInt32) (options : BatchingOptions)
  | tripRestarted (client : Client) (sessionId : UInt32)
  | tripStopped (client : Client) (sessionId : UInt32) (restartNeeded : Bool) (options : BatchingOptions)
  | queriedForRestart (queryAccumulatedDistance : Bool) (minRemainingDistance minTBFInterval accDist numbatchedPos : ℕ)
  | rebased (accumulatedDistance ongoingTripDistance ongoingTripInterval : ℕ)
  | tripsRestarted
  | ignore
deriving DecidableEq

/-- What the adapter emits: a request with the function for its answer, a report to a client and whether it has the
callback for it, a report of completed trips; a subtraction that wraps, a session that is read through the end of the
map. -/
inductive BatchingOutput (Client : Type) where
  | request (request : BatchingRequest) (response : BatchingResponse Client)
  | reportResponse (client : Client) (err : LocationError) (sessionId : UInt32) (reached : Bool)
  | reportBatchStatusChange (completedTrips : List UInt32)
  | wrapped
  | missed
deriving DecidableEq

inductive BatchingCommand (Client : Type) where
  | start (client : Client) (sessionId : UInt32) (options : BatchingOptions)
  | update (client : Client) (sessionId : UInt32) (options : BatchingOptions)
  | stop (client : Client) (sessionId : UInt32)
deriving DecidableEq

/-- The state of `BatchingAdapter`; of the event mask the bit for full batches. -/
structure BatchingAdapter (Client : Type) [LinearOrder Client] where
  mBatchingSessions : SortedMap (LocationSessionKey Client) BatchingOptions
  mTripSessions : SortedMap UInt32 TripSessionStatus
  mOngoingTripDistance : ℕ
  mOngoingTripTBFInterval : ℕ
  mTripWithOngoingTBFDropped : Bool
  mTripWithOngoingTripDistanceDropped : Bool
  mBatchingTimeout : ℕ
  mBatchingAccuracy : ℕ
  batchFull : Bool
  batchingCb : Client → Bool
  responseCb : Client → Bool
  isDistanceBaseBatchingSupported : Bool
  engineCapabilitiesKnown : Bool
  mPendingMsgs : List (BatchingCommand Client)

/-- The difference of numbers of 32 bits. -/
@[irreducible] def sub32 (a b : ℕ) : ℕ := (2 ^ 32 + a - b) % 2 ^ 32

/-- The sum of numbers of 32 bits. -/
@[irreducible] def add32 (a b : ℕ) : ℕ := (a + b) % 2 ^ 32

section Adapter

variable {Client : Type} [LinearOrder Client]

abbrev BatchingM (Client : Type) [LinearOrder Client] := Emit (BatchingAdapter Client) (BatchingOutput Client)

def request (request : BatchingRequest) (response : BatchingResponse Client) : BatchingM Client Unit :=
  Emit.emit (.request request response)

/-- `updateEvtMask` of the bit for full batches. -/
def setBatchFull (enabled : Bool) : BatchingM Client Unit := Emit.modify fun a => { a with batchFull := enabled }

def setTripSessions (f : SortedMap UInt32 TripSessionStatus → SortedMap UInt32 TripSessionStatus) :
    BatchingM Client Unit := Emit.modify fun a => { a with mTripSessions := f a.mTripSessions }

def setOngoingTrip (distance interval : ℕ) : BatchingM Client Unit :=
  Emit.modify fun a => { a with mOngoingTripDistance := distance, mOngoingTripTBFInterval := interval }

/-- A subtraction of numbers of 32 bits, which says when it wraps. -/
def minus (a b : ℕ) : BatchingM Client ℕ := do
  (if a < b then Emit.emit .wrapped else pure ())
  pure (sub32 a b)

/-- `saveBatchingSession`. -/
def saveBatchingSession (client : Client) (sessionId : UInt32) (options : BatchingOptions) : BatchingM Client Unit :=
  Emit.modify fun a => { a with mBatchingSessions := a.mBatchingSessions.insert ⟨client, sessionId⟩ options }

/-- `eraseBatchingSession`. -/
def eraseBatchingSession (client : Client) (sessionId : UInt32) : BatchingM Client Unit :=
  Emit.modify fun a => { a with mBatchingSessions := a.mBatchingSessions.erase ⟨client, sessionId⟩ }

/-- `reportResponse`. -/
def reportResponse (client : Client) (err : LocationError) (sessionId : UInt32) : BatchingM Client Unit := do
  let a ← Emit.get
  Emit.emit (.reportResponse client err sessionId (a.responseCb client))

/-- `autoReportBatchingSessionsCount`. -/
def BatchingAdapter.autoReportBatchingSessionsCount (a : BatchingAdapter Client) : ℕ :=
  (a.mBatchingSessions.entries.countP fun session => session.2.batchingMode ≠ .noAutoReport) + a.mTripSessions.size

/-- Leave the event for full batches when no session is interested in it. -/
def leaveBatchFull : BatchingM Client Unit := do
  let a ← Emit.get
  (if a.autoReportBatchingSessionsCount = 0 then setBatchFull false else pure ())

/-- `startBatching`. -/
def startBatching (client : Client) (sessionId : UInt32) (options : BatchingOptions) : BatchingM Client Unit := do
  let a ← Emit.get
  (if options.batchingMode ≠ .noAutoReport ∧ a.autoReportBatchingSessionsCount = 0 then setBatchFull true else pure ())
  saveBatchingSession client sessionId options
  request (.startBatching sessionId options a.mBatchingAccuracy a.mBatchingTimeout) (.started client sessionId options)

/-- `stopBatching`. -/
def stopBatching (client : Client) (sessionId : UInt32) (restartNeeded : Bool) (options : BatchingOptions) :
    BatchingM Client Unit := do
  let a ← Emit.get
  match a.mBatchingSessions.find? ⟨client, sessionId⟩ with
  | some flpOptions => do
    eraseBatchingSession client sessionId
    request (.stopBatching sessionId) (.stopped client sessionId flpOptions restartNeeded options)
  | none => pure ()

/-- `startTripBatchingMultiplex`. -/
def startTripBatchingMultiplex (client : Client) (sessionId : UInt32) (options : BatchingOptions) :
    BatchingM Client Unit := do
  let a ← Emit.get
  if a.mTripSessions.size = 0 then do
    (if a.autoReportBatchingSessionsCount = 0 then setBatchFull true else pure ())
    saveBatchingSession client sessionId options
    setTripSessions fun trips => trips.insert sessionId ⟨0, 0, 0, options.minDistance, options.minInterval⟩
    request (.startOutdoorTripBatching options.minDistance options.minInterval a.mBatchingTimeout)
      (.tripStarted client sessionId options)
  else request .queryAccumulatedTripDistance (.queriedForStart client sessionId options)

/-- A session starts in its mode. -/
def startSession (client : Client) (sessionId : UInt32) (options : BatchingOptions) : BatchingM Client Unit :=
  match options.batchingMode with
  | .routine | .noAutoReport => startBatching client sessionId options
  | .trip => startTripBatchingMultiplex client sessionId options
  | .invalid => pure ()

/-- The least remaining distance and interval of trips, from those found so far, where 0 is none. -/
def leastRemaining : List (UInt32 × TripSessionStatus) → ℕ → ℕ → BatchingM Client (ℕ × ℕ)
  | [], distance, interval => pure (distance, interval)
  | (_, trip) :: rest, distance, interval => do
    let remaining ← minus trip.tripDistance trip.accumulatedDistanceThisTrip
    leastRemaining rest (if distance = 0 ∨ remaining < distance then remaining else distance)
      (if interval = 0 ∨ trip.tripTBFInterval < interval then trip.tripTBFInterval else interval)

/-- `restartTripBatching`. -/
def restartTripBatching (queryAccumulatedDistance : Bool) (accDist numbatchedPos : ℕ) : BatchingM Client Unit := do
  let a ← Emit.get
  if a.mTripSessions.size = 0 then do
    request (.stopOutdoorTripBatching true) .ignore
    setOngoingTrip 0 0
    leaveBatchFull
  else do
    let least ← leastRemaining a.mTripSessions.entries 0 0
    request .queryAccumulatedTripDistance
      (.queriedForRestart queryAccumulatedDistance least.1 least.2 accDist numbatchedPos)

/-- A trip is dropped whose interval or distance the ongoing batch has. -/
def dropTrip (sessionId : UInt32) (trip : TripSessionStatus) : BatchingM Client Unit := do
  setTripSessions fun trips => trips.erase sessionId
  Emit.modify fun a =>
    { a with
      mTripWithOngoingTBFDropped := a.mTripWithOngoingTBFDropped || trip.tripTBFInterval == a.mOngoingTripTBFInterval
      mTripWithOngoingTripDistanceDropped :=
        a.mTripWithOngoingTripDistanceDropped || trip.tripDistance == a.mOngoingTripDistance }

/-- The batch goes on without a trip, if there are others. -/
def continueTrips : BatchingM Client Unit := do
  let a ← Emit.get
  if a.mTripSessions.size = 0 then setOngoingTrip 0 0 else restartTripBatching true 0 0

/-- `stopTripBatchingMultiplexCommon`. -/
def stopTripBatchingMultiplexCommon (err : LocationError) (client : Client) (sessionId : UInt32) (restartNeeded : Bool)
    (options : BatchingOptions) : BatchingM Client Unit := do
  let a ← Emit.get
  match a.mTripSessions.find? sessionId with
  | none => Emit.emit .missed
  | some trip => do
    dropTrip sessionId trip
    continueTrips
    (if restartNeeded then do
      eraseBatchingSession client sessionId
      startSession client sessionId options
    else pure ())
    reportResponse client err sessionId

/-- `stopTripBatchingMultiplex`. -/
def stopTripBatchingMultiplex (client : Client) (sessionId : UInt32) (restartNeeded : Bool)
    (options : BatchingOptions) : BatchingM Client Unit := do
  let a ← Emit.get
  if a.mTripSessions.size = 1 then
    request (.stopOutdoorTripBatching true) (.tripStopped client sessionId restartNeeded options)
  else stopTripBatchingMultiplexCommon .success client sessionId restartNeeded options

/-- The distance of the batch with a new trip, if it needs a restart. -/
def BatchingAdapter.distanceWith (a : BatchingAdapter Client) (options : BatchingOptions) (remaining : ℕ) : Option ℕ :=
  if options.minDistance < remaining then some options.minDistance
  else if options.minInterval < a.mOngoingTripTBFInterval then some remaining
  else none

/-- The distance that remains in the ongoing batch, as far as it is known; when it is the new trip is saved. -/
def saveTrip (sessionId : UInt32) (options : BatchingOptions) (err : LocationError) (data : LocApiBatchData) :
    BatchingM Client ℕ := do
  let a ← Emit.get
  if err = .success then do
    let remaining ← minus a.mOngoingTripDistance data.accumulatedDistance
    setTripSessions fun trips =>
      trips.insert sessionId ⟨data.accumulatedDistance, 0, 0, options.minDistance, options.minInterval⟩
    pure remaining
  else pure a.mOngoingTripDistance

/-- What `startTripBatchingMultiplex` does with the distance of the ongoing batch. -/
def joinTripBatch (client : Client) (sessionId : UInt32) (options : BatchingOptions) (err : LocationError)
    (data : LocApiBatchData) : BatchingM Client Unit := do
  let a ← Emit.get
  let remaining ← saveTrip sessionId options err data
  match a.distanceWith options remaining with
  | some ongoingTripDistance => do
    let ongoingTripInterval := min options.minInterval a.mOngoingTripTBFInterval
    setOngoingTrip ongoingTripDistance ongoingTripInterval
    setTripSessions fun trips => trips.mapValues fun trip =>
      { trip with
        accumulatedDistanceOngoingBatch := 0
        accumulatedDistanceOnTripRestart := trip.accumulatedDistanceThisTrip }
    request (.reStartOutdoorTripBatching ongoingTripDistance ongoingTripInterval a.mBatchingTimeout)
      (.tripRestarted client sessionId)
  | none => reportResponse client .success sessionId

/-- The distance that is left in the ongoing batch; of a distance that was dropped nothing is. -/
def leftInBatch (accumulatedDistance : ℕ) : BatchingM Client ℕ := do
  let a ← Emit.get
  if a.mTripWithOngoingTripDistanceDropped then pure 0 else minus a.mOngoingTripDistance accumulatedDistance

/-- The distance and the interval of the batch without a trip, if it needs a restart. -/
def BatchingAdapter.batchWithout (a : BatchingAdapter Client) (minRemainingDistance minTBFInterval left : ℕ) :
    Option (ℕ × ℕ) :=
  let shorter := if left ≠ 0 then decide (minRemainingDistance < left) else decide (minRemainingDistance ≠ 0)
  let otherTBF := decide (minTBFInterval < a.mOngoingTripTBFInterval) ||
    decide (minTBFInterval ≠ a.mOngoingTripTBFInterval) && a.mTripWithOngoingTBFDropped
  if shorter || otherTBF then
    some (if shorter then minRemainingDistance else a.mOngoingTripDistance,
      if otherTBF then minTBFInterval else a.mOngoingTripTBFInterval)
  else none

/-- What `restartTripBatching` does with the distance of the ongoing batch. -/
def restartWithDistance (queryAccumulatedDistance : Bool) (minRemainingDistance minTBFInterval accDist : ℕ)
    (data : LocApiBatchData) : BatchingM Client Unit := do
  let accumulatedDistance := if queryAccumulatedDistance then data.accumulatedDistance else accDist
  let left ← leftInBatch accumulatedDistance
  let a ← Emit.get
  match a.batchWithout minRemainingDistance minTBFInterval left with
  | some (ongoingTripDistance, ongoingTripInterval) =>
    request (.reStartOutdoorTripBatching ongoingTripDistance ongoingTripInterval a.mBatchingTimeout)
      (.rebased accumulatedDistance ongoingTripDistance ongoingTripInterval)
  | none => pure ()

/-- The distance of a trip, from the distance of the ongoing batch. -/
def TripSessionStatus.travelled (trip : TripSessionStatus) (distance : ℕ) : BatchingM Client ℕ := do
  let since ← minus distance trip.accumulatedDistanceOngoingBatch
  pure (add32 trip.accumulatedDistanceOnTripRestart since)

/-- The trips are counted from here on, for the batch has been restarted. -/
def rebaseTrips (accumulatedDistance : ℕ) : List (UInt32 × TripSessionStatus) → BatchingM Client Unit
  | [] => pure ()
  | (sessionId, trip) :: rest => do
    let distance ← trip.travelled accumulatedDistance
    setTripSessions fun trips => trips.insert sessionId
      { trip with
        accumulatedDistanceThisTrip := distance
        accumulatedDistanceOngoingBatch := 0
        accumulatedDistanceOnTripRestart := distance }
    rebaseTrips accumulatedDistance rest

/-- The function of a response, for what the modem answers. -/
def BatchingResponse.proc (response : BatchingResponse Client) (err : LocationError) (data : LocApiBatchData) :
    BatchingM Client Unit :=
  match response with
  | .started client sessionId options => do
    (if err ≠ .success then eraseBatchingSession client sessionId else pure ())
    (if err ≠ .success ∧ options.batchingMode ≠ .noAutoReport then leaveBatchFull else pure ())
    reportResponse client err sessionId
  | .stopped client sessionId flpOptions restartNeeded options => do
    (if err ≠ .success then saveBatchingSession client sessionId options
    else do
      (if flpOptions.batchingMode ≠ .noAutoReport then leaveBatchFull else pure ())
      (if restartNeeded then startSession client sessionId options else pure ()))
    reportResponse client err sessionId
  | .tripStarted client sessionId options => do
    (if err = .success then setOngoingTrip options.minDistance options.minInterval
    else do
      eraseBatchingSession client sessionId
      setTripSessions fun trips => trips.erase sessionId
      leaveBatchFull)
    reportResponse client err sessionId
  | .queriedForStart client sessionId options => joinTripBatch client sessionId options err data
  | .tripRestarted client sessionId => reportResponse client err sessionId
  | .tripStopped client sessionId restartNeeded options => do
    let a ← Emit.get
    (if err = .success ∧ a.autoReportBatchingSessionsCount = 1 then setBatchFull false else pure ())
    stopTripBatchingMultiplexCommon err client sessionId restartNeeded options
  | .queriedForRestart queryAccumulatedDistance minRemainingDistance minTBFInterval accDist _ =>
    restartWithDistance queryAccumulatedDistance minRemainingDistance minTBFInterval accDist data
  | .rebased accumulatedDistance ongoingTripDistance ongoingTripInterval =>
    if err = .success then do
      let a ← Emit.get
      rebaseTrips accumulatedDistance a.mTripSessions.entries
      setOngoingTrip ongoingTripDistance ongoingTripInterval
    else pure ()
  | .tripsRestarted => if err ≠ .success then setOngoingTrip 0 0 else pure ()
  | .ignore => pure ()

/-- The trips that are completed at a distance of the ongoing batch; each is read after it is erased. -/
def completeTrips (accumulatedDistance : ℕ) : List (UInt32 × TripSessionStatus) → BatchingM Client (List UInt32)
  | [] => pure []
  | (sessionId, trip) :: rest => do
    let distance ← trip.travelled accumulatedDistance
    let trip := { trip with accumulatedDistanceThisTrip := distance }
    if trip.tripDistance ≤ distance then do
      dropTrip sessionId trip
      let completed ← completeTrips accumulatedDistance rest
      pure (sessionId :: completed)
    else do
      setTripSessions fun trips => trips.insert sessionId trip
      completeTrips accumulatedDistance rest

/-- `reportCompletedTripsEvent`. -/
def reportCompletedTripsEvent (accumulatedDistance : ℕ) : BatchingM Client Unit := do
  let a ← Emit.get
  let completedTrips ← completeTrips accumulatedDistance a.mTripSessions.entries
  if completedTrips ≠ [] then do
    Emit.emit (.reportBatchStatusChange completedTrips)
    restartTripBatching false accumulatedDistance 0

/-- The sessions that are no trips start again. -/
def restartBatching : BatchingM Client Unit := do
  let a ← Emit.get
  (a.mBatchingSessions.entries.filter fun session => session.2.batchingMode ≠ .trip).forM fun session =>
    request (.startBatching session.1.id session.2 a.mBatchingAccuracy a.mBatchingTimeout) .ignore

/-- The trips start again in one batch; the loop of the source over them resets only copies. -/
def restartTrips : BatchingM Client Unit := do
  let a ← Emit.get
  if 0 < a.mTripSessions.size then do
    let least ← leastRemaining a.mTripSessions.entries 0 0
    setOngoingTrip least.1 least.2
    request (.startOutdoorTripBatching least.1 least.2 a.mBatchingTimeout) .tripsRestarted

/-- `restartSessions`. -/
def restartSessions : BatchingM Client Unit := do
  let a ← Emit.get
  (if 0 < a.autoReportBatchingSessionsCount then setBatchFull true else pure ())
  restartBatching
  restartTrips

/-- `handleEngineUpEvent`; the commands that wait are sent again and come as commands. -/
def handleEngineUpEvent : BatchingM Client Unit := do
  Emit.modify fun a => { a with engineCapabilitiesKnown := true }
  restartSessions
  Emit.modify fun a => { a with mPendingMsgs := [] }

/-- `startBatchingCommand`, `updateBatchingOptionsCommand` and `stopBatchingCommand`. -/
def BatchingCommand.proc (command : BatchingCommand Client) : BatchingM Client Unit := do
  let a ← Emit.get
  if !a.engineCapabilitiesKnown then Emit.modify fun a => { a with mPendingMsgs := a.mPendingMsgs ++ [command] }
  else match command with
    | .start client sessionId options =>
      if a.batchingCb client ∧ options.size ≠ 0 ∧ a.isDistanceBaseBatchingSupported then
        if options.batchingMode = .invalid then reportResponse client .invalidParameter sessionId
        else startSession client sessionId options
    | .update client sessionId options =>
      if a.mBatchingSessions.contains ⟨client, sessionId⟩ ∧ options.size ≠ 0 ∧ options.batchingMode ≠ .invalid then
        if !a.mTripSessions.contains sessionId then stopBatching client sessionId true options
        else stopTripBatchingMultiplex client sessionId true options
    | .stop client sessionId =>
      if a.mBatchingSessions.contains ⟨client, sessionId⟩ then
        if a.mTripSessions.contains sessionId then stopTripBatchingMultiplex client sessionId false .initial
        else stopBatching client sessionId false .initial

end Adapter

end Cypfr.Batching
