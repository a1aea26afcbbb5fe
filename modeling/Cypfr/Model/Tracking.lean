import Cypfr.Machine.Emit
import Cypfr.ToMathlib.SortedMap
import Mathlib.Data.Prod.Lex

/-! # Tracking sessions

`gnss/GnssAdapter.cpp`: clients start, update and stop tracking sessions. The modem runs one time-based
session for all of them, so their options are multiplexed, and it answers requests later: what is left to do
then is a function that the request carries. The model names each of these functions and what it captured.

Commands and responses are messages to one task, so each is processed as a whole. The engine hub, the power
state callback and DGNSS only watch and are left out.
-/

namespace Cypfr.Tracking

/-- `LocationSessionKey`. -/
structure LocationSessionKey (Client : Type) where
  client : Client
  id : UInt32
deriving DecidableEq

/-- Session keys are ordered by the identifier first. -/
def LocationSessionKey.rank {Client : Type} (key : LocationSessionKey Client) : ℕ ×ₗ Client :=
  toLex (key.id.toNat, key.client)

theorem LocationSessionKey.rank_injective {Client : Type} :
    (rank : LocationSessionKey Client → ℕ ×ₗ Client).Injective := by
  intro key other same
  obtain ⟨sameId, sameClient⟩ := Prod.mk.inj (toLex.injective same)
  cases key
  cases other
  cases sameClient
  cases UInt32.toNat_inj.mp sameId
  rfl

instance {Client : Type} [LinearOrder Client] : LinearOrder (LocationSessionKey Client) :=
  LinearOrder.lift' LocationSessionKey.rank LocationSessionKey.rank_injective

inductive LocationError where
  | success
  | generalFailure
  | callbackMissing
  | invalidParameter
  | idExists
  | idUnknown
  | alreadyStarted
  | geofencesAtMax
  | notSupported
  | timeout
deriving DecidableEq

inductive GnssSuplMode where
  | standalone
  | msb
  | msa
deriving DecidableEq

inductive GnssPowerMode where
  | invalid
  | m1
  | m2
  | m3
  | m4
  | m5
deriving DecidableEq

/-- The number of a power mode, by which modes are compared. -/
def GnssPowerMode.value : GnssPowerMode → ℕ
  | .invalid => 0
  | .m1 => 1
  | .m2 => 2
  | .m3 => 3
  | .m4 => 4
  | .m5 => 5

/-- `LocationOptions`. -/
structure LocationOptions where
  size : UInt32
  minInterval : ℕ
  minDistance : ℕ
  mode : GnssSuplMode
  locReqEngTypeMask : UInt32
deriving DecidableEq

/-- `TrackingOptions`. -/
structure TrackingOptions extends LocationOptions where
  powerMode : GnssPowerMode
  tbm : ℕ
deriving DecidableEq

/-- Options that were set to zero. -/
def TrackingOptions.zero : TrackingOptions :=
  { size := 0, minInterval := 0, minDistance := 0, mode := .standalone, locReqEngTypeMask := 0, powerMode := .invalid,
    tbm := 0 }

/-- `sizeof(TrackingOptions)`. -/
def sizeofTrackingOptions : UInt32 := 28

/-- Options for positions at an interval. -/
def every (interval : ℕ) : TrackingOptions :=
  { size := sizeofTrackingOptions, minInterval := interval, minDistance := 0, mode := .standalone, locReqEngTypeMask := 0,
    powerMode := .m1, tbm := 0 }

/-- `setLocationOptions`. -/
def TrackingOptions.setLocationOptions (o : TrackingOptions) (options : LocationOptions) : TrackingOptions :=
  { options with size := sizeofTrackingOptions, powerMode := o.powerMode, tbm := o.tbm }

/-- The callbacks of a client that tracking looks at: whether each is set. -/
structure LocationCallbacks where
  trackingCb : Bool
  gnssLocationInfoCb : Bool
  engineLocationsInfoCb : Bool
  gnssMeasurementsCb : Bool
  gnssDataCb : Bool
  gnssSvCb : Bool
  gnssNmeaCb : Bool

/-- The callbacks of a client that only gets positions. -/
def trackingCallbacks : LocationCallbacks :=
  { trackingCb := true, gnssLocationInfoCb := false, engineLocationsInfoCb := false, gnssMeasurementsCb := false,
    gnssDataCb := false, gnssSvCb := false, gnssNmeaCb := false }

/-- What the modem is asked. -/
inductive LocApiRequest where
  | startTimeBasedTracking (options : TrackingOptions)
  | stopFix
  | startDistanceBasedTracking (sessionId : UInt32) (options : LocationOptions)
  | stopDistanceBasedTracking (sessionId : UInt32)
deriving DecidableEq

/-- What is done when the modem answers, by the place in the code that asks. -/
inductive LocApiResponse (Client : Type) where
  | startDistance (key : LocationSessionKey Client)
  | startTime (key : LocationSessionKey Client)
  | updateTime (key : LocationSessionKey Client) (oldOptions : TrackingOptions)
  | ignore
  | switchToTime (key : LocationSessionKey Client) (options : TrackingOptions)
  | restartDistance (key : LocationSessionKey Client) (options : TrackingOptions)
  | restartedDistance (key : LocationSessionKey Client) (options : TrackingOptions)
  | stopTime (key : LocationSessionKey Client)
  | stopDistance (key : LocationSessionKey Client)
deriving DecidableEq

/-- Requests to the modem, with the response they wait for unless it is null, and responses to clients. -/
inductive Output (Client : Type) where
  | request (request : LocApiRequest) (response : Option (LocApiResponse Client))
  | reportResponse (key : LocationSessionKey Client) (err : LocationError)
deriving DecidableEq

/-- The commands of the clients. -/
inductive Command (Client : Type) where
  | startTracking (key : LocationSessionKey Client) (options : TrackingOptions)
  | updateTracking (key : LocationSessionKey Client) (options : TrackingOptions)
  | stopTracking (key : LocationSessionKey Client)
deriving DecidableEq

/-- What tracking uses of `GnssAdapter`; whether the modem supports distance-based tracking is a message bit of
its context. -/
structure GnssAdapter (Client : Type) [LinearOrder Client] where
  timeBasedTrackingSessions : SortedMap (LocationSessionKey Client) TrackingOptions
  distanceBasedTrackingSessions : SortedMap (LocationSessionKey Client) LocationOptions
  clientData : Client → Option LocationCallbacks
  distanceSupported : Bool
  engineCapabilitiesKnown : Bool
  pendingMsgs : List (Command Client)
  nHzNeeded : Bool
  speAlreadyRunningAtHighestInterval : Bool

def minTrackingInterval : ℕ := 100

def trackingTbmThresholdMillis : ℕ := 480000

variable {Client : Type} [LinearOrder Client]

abbrev AdapterM (Client : Type) [LinearOrder Client] := Emit (GnssAdapter Client) (Output Client)

namespace GnssAdapter

/-- An adapter without sessions. -/
def initial (clientData : Client → Option LocationCallbacks)
    (distanceSupported engineCapabilitiesKnown nHzNeeded : Bool) : GnssAdapter Client :=
  { timeBasedTrackingSessions := .empty, distanceBasedTrackingSessions := .empty, clientData, distanceSupported,
    engineCapabilitiesKnown, pendingMsgs := [], nHzNeeded, speAlreadyRunningAtHighestInterval := false }

/-- `saveTrackingSession`. -/
def saveTrackingSession (a : GnssAdapter Client) (key : LocationSessionKey Client) (options : TrackingOptions) :
    GnssAdapter Client :=
  if options.minDistance > 0 ∧ a.distanceSupported then
    { a with
      distanceBasedTrackingSessions := a.distanceBasedTrackingSessions.insert key options.toLocationOptions }
  else { a with timeBasedTrackingSessions := a.timeBasedTrackingSessions.insert key options }

/-- `eraseTrackingSession`. -/
def eraseTrackingSession (a : GnssAdapter Client) (key : LocationSessionKey Client) : GnssAdapter Client :=
  if a.timeBasedTrackingSessions.contains key then
    { a with timeBasedTrackingSessions := a.timeBasedTrackingSessions.erase key }
  else { a with distanceBasedTrackingSessions := a.distanceBasedTrackingSessions.erase key }

/-- `hasCallbacksToStartTracking`. -/
def hasCallbacksToStartTracking (a : GnssAdapter Client) (client : Client) : Bool :=
  match a.clientData client with
  | none => false
  | some callbacks =>
    callbacks.trackingCb || callbacks.gnssLocationInfoCb || callbacks.engineLocationsInfoCb ||
      callbacks.gnssMeasurementsCb || callbacks.gnssDataCb || callbacks.gnssSvCb || callbacks.gnssNmeaCb

end GnssAdapter

/-- `reportResponse`. -/
def reportResponse (key : LocationSessionKey Client) (err : LocationError) : AdapterM Client Unit :=
  Emit.emit (.reportResponse key err)

/-- `saveTrackingSession` as a step. -/
def save (key : LocationSessionKey Client) (options : TrackingOptions) : AdapterM Client Unit :=
  Emit.modify fun a => a.saveTrackingSession key options

/-- `eraseTrackingSession` as a step. -/
def erase (key : LocationSessionKey Client) : AdapterM Client Unit :=
  Emit.modify fun a => a.eraseTrackingSession key

/-- `checkAndSetSPEToRunforNHz`: whether the engine already runs, and the options it is to run with. -/
def checkAndSetSPEToRunforNHz (out : TrackingOptions) : AdapterM Client (Bool × TrackingOptions) := do
  let a ← Emit.get
  if !a.nHzNeeded then pure (false, out)
  else if a.speAlreadyRunningAtHighestInterval then pure (true, out)
  else if out.minInterval > minTrackingInterval then do
    Emit.modify fun a => { a with speAlreadyRunningAtHighestInterval := true }
    pure (false, { out with minInterval := minTrackingInterval })
  else pure (false, out)

/-- Ask the modem for a time-based session, unless it already runs one at the highest rate. -/
def requestTimeBasedTracking (key : LocationSessionKey Client) (options : TrackingOptions)
    (response : LocApiResponse Client) : AdapterM Client Unit := do
  let checked ← checkAndSetSPEToRunforNHz options
  if checked.1 then reportResponse key .success
  else Emit.emit (.request (.startTimeBasedTracking checked.2) (some response))

/-- `startTimeBasedTracking`. -/
def startTimeBasedTracking (key : LocationSessionKey Client) (trackingOptions : TrackingOptions) : AdapterM Client Unit :=
  requestTimeBasedTracking key trackingOptions (.startTime key)

/-- `updateTracking`. -/
def updateTracking (key : LocationSessionKey Client) (updatedOptions oldOptions : TrackingOptions) :
    AdapterM Client Unit :=
  requestTimeBasedTracking key updatedOptions (.updateTime key oldOptions)

/-- `stopTracking`. -/
def stopTracking (key : LocationSessionKey Client) : AdapterM Client Unit := do
  Emit.emit (.request .stopFix (some (.stopTime key)))
  Emit.modify fun a => { a with speAlreadyRunningAtHighestInterval := false }

/-- A round of the loops that look for the smallest interval and power mode. -/
def multiplexSession (multiplexed : TrackingOptions × GnssPowerMode) (session : TrackingOptions) :
    TrackingOptions × GnssPowerMode :=
  (if multiplexed.1.size = 0 ∨ session.minInterval < multiplexed.1.minInterval then session else multiplexed.1,
    if multiplexed.2 = .invalid ∨ session.powerMode.value < multiplexed.2.value then session.powerMode
    else multiplexed.2)

/-- The options with the smallest interval, and the smallest power mode, of some sessions. -/
def multiplex (sessions : List TrackingOptions) : TrackingOptions × GnssPowerMode :=
  sessions.foldl multiplexSession (.zero, .invalid)

namespace GnssAdapter

/-- The options of all time-based sessions. -/
def allOptions (a : GnssAdapter Client) : List TrackingOptions := a.timeBasedTrackingSessions.entries.map Prod.snd

/-- The options of the time-based sessions other than one. -/
def otherOptions (a : GnssAdapter Client) (key : LocationSessionKey Client) : List TrackingOptions :=
  (a.timeBasedTrackingSessions.entries.filter fun entry => entry.1 ≠ key).map Prod.snd

end GnssAdapter

/-- What the modem would be asked for if a session had some options beside others, and whether these call for
more than the others do. -/
def withSession (others : TrackingOptions × GnssPowerMode) (options : TrackingOptions) : TrackingOptions × Bool :=
  let faster := options.minInterval < others.1.minInterval
  let stronger := options.powerMode.value < others.2.value
  ({ others.1 with
      minInterval := if faster then options.minInterval else others.1.minInterval
      powerMode := if stronger then options.powerMode else others.1.powerMode },
    decide faster || decide stronger)

/-- `startTimeBasedTrackingMultiplex`; true when the client can be told at once. -/
def startTimeBasedTrackingMultiplex (key : LocationSessionKey Client) (options : TrackingOptions) :
    AdapterM Client Bool := do
  let a ← Emit.get
  if a.timeBasedTrackingSessions.isEmpty then do
    startTimeBasedTracking key options
    pure false
  else
    let multiplexed := withSession (multiplex a.allOptions) options
    if multiplexed.2 then do
      startTimeBasedTracking key multiplexed.1
      pure false
    else pure true

/-- `updateTrackingMultiplex`. -/
def updateTrackingMultiplex (key : LocationSessionKey Client) (trackingOptions : TrackingOptions) :
    AdapterM Client Bool := do
  let a ← Emit.get
  match a.timeBasedTrackingSessions.find? key with
  | none => pure true
  | some oldOptions =>
    if oldOptions.minInterval ≠ trackingOptions.minInterval ∨ oldOptions.powerMode ≠ trackingOptions.powerMode then
      if a.timeBasedTrackingSessions.size = 1 then do
        updateTracking key trackingOptions oldOptions
        pure false
      else
        let multiplexed := withSession (multiplex (a.otherOptions key)) trackingOptions
        if multiplexed.2 then do
          updateTracking key multiplexed.1 oldOptions
          pure false
        else pure true
    else pure true

/-- `stopTimeBasedTrackingMultiplex`. -/
def stopTimeBasedTrackingMultiplex (key : LocationSessionKey Client) : AdapterM Client Bool := do
  let a ← Emit.get
  if a.timeBasedTrackingSessions.size = 1 then do
    stopTracking key
    pure false
  else
    match a.timeBasedTrackingSessions.find? key with
    | none => pure true
    | some options =>
      let multiplexed := multiplex (a.otherOptions key)
      if options.minInterval < multiplexed.1.minInterval ∨ options.powerMode.value < multiplexed.2.value then do
        startTimeBasedTracking key { multiplexed.1 with powerMode := multiplexed.2 }
        pure false
      else pure true

/-- A session whose interval is too small gets the smallest one. -/
def TrackingOptions.clampInterval (o : TrackingOptions) : TrackingOptions :=
  if o.minInterval < minTrackingInterval then { o with minInterval := minTrackingInterval } else o

/-- Power mode M4 falls back to M2 when the time between measurements is long. -/
def TrackingOptions.fallBack (o : TrackingOptions) : TrackingOptions :=
  if o.powerMode = .m4 ∧ o.tbm > trackingTbmThresholdMillis then { o with powerMode := .m2 } else o

/-- Tell the client at once if the multiplexer says so. -/
def reportNoWait (key : LocationSessionKey Client) (reportToClientWithNoWait : Bool) : AdapterM Client Unit :=
  if reportToClientWithNoWait then reportResponse key .success else pure ()

/-- Multiplex and save a time-based session. -/
def startTimeBased (key : LocationSessionKey Client) (options : TrackingOptions) : AdapterM Client Unit := do
  let reportToClientWithNoWait ← startTimeBasedTrackingMultiplex key options
  save key options
  reportNoWait key reportToClientWithNoWait

/-- `MsgStartTracking::proc`. -/
def startTrackingProc (key : LocationSessionKey Client) (options : TrackingOptions) : AdapterM Client Unit := do
  let a ← Emit.get
  if !a.engineCapabilitiesKnown && options.minDistance > 0 then
    Emit.modify fun a => { a with pendingMsgs := a.pendingMsgs ++ [.startTracking key options] }
  else if !a.hasCallbacksToStartTracking key.client then pure ()
  else if options.size = 0 then pure ()
  else
    let options := options.clampInterval
    if options.minDistance > 0 ∧ a.distanceSupported then do
      save key options
      Emit.emit (.request (.startDistanceBasedTracking key.id options.toLocationOptions) (some (.startDistance key)))
    else startTimeBased key options.fallBack

/-- `MsgUpdateTracking::proc`. -/
def updateTrackingProc (key : LocationSessionKey Client) (options : TrackingOptions) : AdapterM Client Unit := do
  let a ← Emit.get
  let isTimeBased := a.timeBasedTrackingSessions.contains key
  let isDistanceBased := a.distanceBasedTrackingSessions.contains key
  if !a.engineCapabilitiesKnown && options.minDistance > 0 then
    Emit.modify fun a => { a with pendingMsgs := a.pendingMsgs ++ [.updateTracking key options] }
  else if !isTimeBased && !isDistanceBased then reportResponse key .idUnknown
  else if options.size = 0 then reportResponse key .invalidParameter
  else
    let options := options.fallBack.clampInterval
    if isTimeBased && options.minDistance > 0 then do
      let reportToClientWithNoWait ← stopTimeBasedTrackingMultiplex key
      erase key
      reportNoWait key reportToClientWithNoWait
      save key options
      Emit.emit (.request (.startDistanceBasedTracking key.id options.toLocationOptions) (some .ignore))
    else if isDistanceBased && options.minDistance = 0 then do
      erase key
      Emit.emit (.request (.stopDistanceBasedTracking key.id) (some (.switchToTime key options)))
    else if isTimeBased then do
      let reportToClientWithNoWait ← updateTrackingMultiplex key options
      save key options
      reportNoWait key reportToClientWithNoWait
    else Emit.emit (.request (.stopDistanceBasedTracking key.id) (some (.restartDistance key options)))

/-- `MsgStopTracking::proc`. -/
def stopTrackingProc (key : LocationSessionKey Client) : AdapterM Client Unit := do
  let a ← Emit.get
  if a.timeBasedTrackingSessions.contains key then do
    let reportToClientWithNoWait ← stopTimeBasedTrackingMultiplex key
    erase key
    reportNoWait key reportToClientWithNoWait
  else if a.distanceBasedTrackingSessions.contains key then
    Emit.emit (.request (.stopDistanceBasedTracking key.id) (some (.stopDistance key)))
  else reportResponse key .idUnknown

/-- The processing of a command. -/
def Command.proc : Command Client → AdapterM Client Unit
  | .startTracking key options => startTrackingProc key options
  | .updateTracking key options => updateTrackingProc key options
  | .stopTracking key => stopTrackingProc key

/-- What is done when the modem answers. -/
def LocApiResponse.proc (response : LocApiResponse Client) (err : LocationError) : AdapterM Client Unit :=
  match response with
  | .startDistance key | .startTime key => do
    if err = .success then pure () else erase key
    reportResponse key err
  | .updateTime key oldOptions => do
    if err = .success then pure () else save key oldOptions
    reportResponse key err
  | .ignore => pure ()
  | .switchToTime key options => startTimeBased key options
  | .restartDistance key options =>
    if err = .success then
      Emit.emit (.request (.startDistanceBasedTracking key.id options.toLocationOptions)
        (some (.restartedDistance key options)))
    else pure ()
  | .restartedDistance key options => do
    if err = .success then save key options else pure ()
    reportResponse key err
  | .stopTime key => reportResponse key err
  | .stopDistance key => do
    if err = .success then erase key else pure ()
    reportResponse key err

/-- A round of the loop of `checkAndRestartTimeBasedSession`, on the options with the smallest interval and those
with the smallest power mode. -/
def restartSession (found : TrackingOptions × TrackingOptions) (session : TrackingOptions) :
    TrackingOptions × TrackingOptions :=
  (if found.1.size = 0 ∨ session.minInterval < found.1.minInterval then session else found.1,
    if found.2.size = 0 ∨ session.powerMode ≠ .invalid ∧ session.powerMode.value < found.2.powerMode.value then session
    else found.2)

/-- `checkAndRestartTimeBasedSession`. -/
def checkAndRestartTimeBasedSession : AdapterM Client Unit := do
  let a ← Emit.get
  if a.timeBasedTrackingSessions.isEmpty then pure ()
  else do
    let found := a.allOptions.foldl restartSession (.zero, .zero)
    let checked ← checkAndSetSPEToRunforNHz (found.2.setLocationOptions found.1.toLocationOptions)
    if checked.1 then pure () else Emit.emit (.request (.startTimeBasedTracking checked.2) none)

/-- Start the distance-based sessions again. -/
def restartDistanceSessions : List (LocationSessionKey Client × LocationOptions) → AdapterM Client Unit
  | [] => pure ()
  | session :: rest => do
    Emit.emit (.request (.startDistanceBasedTracking session.1.id session.2) (some .ignore))
    restartDistanceSessions rest

/-- `restartSessions`. -/
def restartSessions : AdapterM Client Unit := do
  Emit.modify fun a => { a with speAlreadyRunningAtHighestInterval := false }
  checkAndRestartTimeBasedSession
  let a ← Emit.get
  restartDistanceSessions a.distanceBasedTrackingSessions.entries

end Cypfr.Tracking
