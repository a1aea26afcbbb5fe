import Cypfr.Machine.Emit
import Cypfr.Model.Tracking

/-! # Configuration requests of a control client

`LocationAPIControlClient` of `gps/location/LocationAPIClientBase.cpp`: a request for a configuration is answered
for the array of identifiers that the control API returned for it. The client finds the request again by the array
that its queue holds.
-/

namespace Cypfr.ClientBase

open Tracking

/-- `GnssConfigSetAssistanceServer`. -/
structure GnssConfigSetAssistanceServer where
  type : UInt32
  hostName : Option (List UInt8)
  port : UInt32

namespace GnssConfigSetAssistanceServer

def equals (s config : GnssConfigSetAssistanceServer) : Bool :=
  config.type == s.type && config.port == s.port && config.hostName == s.hostName

end GnssConfigSetAssistanceServer

/-- `GnssSvIdSource`. -/
structure GnssSvIdSource where
  size : UInt32
  constellation : UInt32
  svId : UInt16
deriving DecidableEq

/-- `GnssConfigRobustLocation`, with its version. -/
structure GnssConfigRobustLocation where
  validMask : UInt32
  enabled : Bool
  enabledForE911 : Bool
  major : UInt8
  minor : UInt16

namespace GnssConfigRobustLocation

def equals (c config : GnssConfigRobustLocation) : Bool :=
  config.validMask == c.validMask && config.enabled == c.enabled && config.enabledForE911 == c.enabledForE911 &&
    (config.major == c.major && config.minor == c.minor)

end GnssConfigRobustLocation

/-- `GnssSvTypeConfig`. -/
structure GnssSvTypeConfig where
  size : UInt32
  enabledSvTypesMask : UInt64
  blacklistedSvTypesMask : UInt64

namespace GnssSvTypeConfig

def equals (c inConfig : GnssSvTypeConfig) : Bool :=
  inConfig.size == c.size && inConfig.enabledSvTypesMask == c.enabledSvTypesMask &&
    inConfig.blacklistedSvTypesMask == c.blacklistedSvTypesMask

end GnssSvTypeConfig

/-- `GnssConfig`; the enumerations are their numbers, since a configuration starts with all bytes zero. -/
structure GnssConfig where
  size : UInt32
  flags : UInt32
  gpsLock : Int32
  suplVersion : UInt32
  assistanceServer : GnssConfigSetAssistanceServer
  lppProfileMask : UInt16
  lppeControlPlaneMask : UInt16
  lppeUserPlaneMask : UInt16
  aGlonassPositionProtocolMask : UInt16
  emergencyPdnForEmergencySupl : UInt32
  suplEmergencyServices : UInt32
  suplModeMask : UInt16
  blacklistedSvIds : List GnssSvIdSource
  emergencyExtensionSeconds : UInt32
  robustLocationConfig : GnssConfigRobustLocation
  minGpsWeek : UInt16
  minSvElevation : UInt8
  secondaryBandConfig : GnssSvTypeConfig

namespace GnssConfig

/-- The configuration with all bytes zero. -/
def zero : GnssConfig where
  size := 0
  flags := 0
  gpsLock := 0
  suplVersion := 0
  assistanceServer := ⟨0, none, 0⟩
  lppProfileMask := 0
  lppeControlPlaneMask := 0
  lppeUserPlaneMask := 0
  aGlonassPositionProtocolMask := 0
  emergencyPdnForEmergencySupl := 0
  suplEmergencyServices := 0
  suplModeMask := 0
  blacklistedSvIds := []
  emergencyExtensionSeconds := 0
  robustLocationConfig := ⟨0, false, false, 0, 0⟩
  minGpsWeek := 0
  minSvElevation := 0
  secondaryBandConfig := ⟨0, 0, 0⟩

def equals (c config : GnssConfig) : Bool :=
  c.flags == config.flags &&
  c.gpsLock == config.gpsLock &&
  c.suplVersion == config.suplVersion &&
  c.assistanceServer.equals config.assistanceServer &&
  c.lppProfileMask == config.lppProfileMask &&
  c.lppeControlPlaneMask == config.lppeControlPlaneMask &&
  c.lppeUserPlaneMask == config.lppeUserPlaneMask &&
  c.aGlonassPositionProtocolMask == config.aGlonassPositionProtocolMask &&
  c.emergencyPdnForEmergencySupl == config.emergencyPdnForEmergencySupl &&
  c.suplEmergencyServices == config.suplEmergencyServices &&
  c.suplModeMask == config.suplModeMask &&
  c.blacklistedSvIds == config.blacklistedSvIds &&
  c.emergencyExtensionSeconds == config.emergencyExtensionSeconds &&
  c.robustLocationConfig.equals config.robustLocationConfig &&
  c.minGpsWeek == config.minGpsWeek &&
  c.minSvElevation == config.minSvElevation &&
  c.secondaryBandConfig.equals config.secondaryBandConfig

end GnssConfig

/-- The address of an array of identifiers. -/
abbrev SessionArrayPtr := ℕ

/-- The requests for configurations. -/
inductive ConfigRequest where
  | gnssUpdateConfig
  | gnssGetConfig
deriving DecidableEq

/-- `RequestQueue` with its array of sessions, which may be null. -/
structure ConfigRequestQueue where
  session : UInt32
  sessionArrayPtr : Option SessionArrayPtr
  queue : List ConfigRequest
deriving DecidableEq

namespace ConfigRequestQueue

/-- `reset` to an array. -/
def reset (_ : ConfigRequestQueue) (sessionArrayPtr : SessionArrayPtr) : ConfigRequestQueue :=
  ⟨0, some sessionArrayPtr, []⟩

def push (q : ConfigRequestQueue) (request : ConfigRequest) : ConfigRequestQueue :=
  { q with queue := q.queue ++ [request] }

def pop (q : ConfigRequestQueue) : Option ConfigRequest × ConfigRequestQueue :=
  (q.queue.head?, { q with queue := q.queue.tail })

end ConfigRequestQueue

/-- What the configuration calls use of `LocationAPIControlClient`. -/
structure ControlClient where
  hasLocationControlAPI : Bool
  config : GnssConfig
  configUpdate : ConfigRequestQueue
  configGet : ConfigRequestQueue

/-- A client after its constructor. -/
def ControlClient.initial (hasLocationControlAPI : Bool) : ControlClient :=
  ⟨hasLocationControlAPI, .zero, ⟨0, none, []⟩, ⟨0, none, []⟩⟩

/-- The calls of the control API, and the callbacks with their errors and identifiers. -/
inductive ControlCall where
  | gnssUpdateConfig (config : GnssConfig)
  | gnssGetConfig (mask : UInt32)
  | onGnssUpdateConfigCb (errors : List LocationError) (ids : Option SessionArrayPtr)
  | onGnssGetConfigCb (errors : List LocationError) (ids : Option SessionArrayPtr)

abbrev ControlM := Emit ControlClient ControlCall

/-- Queue a request behind those for the array of the queue, which is replaced if there is one. -/
def ConfigRequestQueue.pushFor (q : ConfigRequestQueue) (idArray : SessionArrayPtr) (request : ConfigRequest) :
    ConfigRequestQueue :=
  (if q.sessionArrayPtr ≠ none then q.reset idArray else q).push request

/-- `locAPIGnssUpdateConfig`; `idArray` is what the control API returns. -/
def locAPIGnssUpdateConfig (config : GnssConfig) (idArray : Option SessionArrayPtr) : ControlM LocationError := do
  let c ← Emit.get
  if c.hasLocationControlAPI then
    if c.config.equals config then pure .success
    else do
      Emit.modify fun c => { c with config }
      Emit.emit (.gnssUpdateConfig config)
      match idArray with
      | none => pure .generalFailure
      | some idArray => do
        Emit.modify fun c => { c with configUpdate := c.configUpdate.pushFor idArray .gnssUpdateConfig }
        pure .success
  else pure .generalFailure

/-- `locAPIGnssGetConfig`. -/
def locAPIGnssGetConfig (mask : UInt32) (idArray : Option SessionArrayPtr) : ControlM LocationError := do
  let c ← Emit.get
  if c.hasLocationControlAPI then do
    Emit.emit (.gnssGetConfig mask)
    match idArray with
    | none => pure .generalFailure
    | some idArray => do
      Emit.modify fun c => { c with configGet := c.configGet.pushFor idArray .gnssGetConfig }
      pure .success
  else pure .generalFailure

def getRequestBySessionArrayPtr (sessionArrayPtr : Option SessionArrayPtr) : ControlM (Option ConfigRequest) := do
  let c ← Emit.get
  if c.configUpdate.sessionArrayPtr = sessionArrayPtr then do
    Emit.modify fun c => { c with configUpdate := c.configUpdate.pop.2 }
    pure c.configUpdate.pop.1
  else if c.configGet.sessionArrayPtr = sessionArrayPtr then do
    Emit.modify fun c => { c with configGet := c.configGet.pop.2 }
    pure c.configGet.pop.1
  else pure none

/-- `onCollectiveResponse` of a request. -/
def ConfigRequest.onCollectiveResponse (errors : List LocationError) (ids : Option SessionArrayPtr) :
    ConfigRequest → ControlM Unit
  | .gnssUpdateConfig => Emit.emit (.onGnssUpdateConfigCb errors ids)
  | .gnssGetConfig => Emit.emit (.onGnssGetConfigCb errors ids)

def onCtrlCollectiveResponseCb (errors : List LocationError) (ids : Option SessionArrayPtr) : ControlM Unit := do
  match ← getRequestBySessionArrayPtr ids with
  | some request => request.onCollectiveResponse errors ids
  | none => pure ()

end Cypfr.ClientBase
