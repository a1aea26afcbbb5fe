import Cypfr.Model.LocationApiPbMsgConv
import Cypfr.Model.Tracking

/-! # Messages with lists

`location_api_msg_proto/src/LocationApiMsg.cpp`: the answers to requests for geofences, the locations of a batch and
the breached geofences are sent as lists. Such a message ends with an array of one element, and is given memory for
more of them: `room` is the number of elements that fit.

`location_hal_daemon/LocHalDaemonClientHandler.cpp` makes these three messages in memory that it has filled with
zeros, without a constructor. Of the library only the encoding of messages as bytes is used. The payload of such a
message has one field, which stands for it here, and the sizes of the structures, which are only printed, are left out.
-/

namespace Cypfr.LocationApiPb

open Tracking

variable {room : ℕ}

section Messages

/-- The messages with lists, and the number that stands for none. -/
inductive ELocMsgID where
  | E_LOCAPI_UNDEFINED_MSG_ID | E_LOCAPI_BATCHING_MSG_ID | E_LOCAPI_ADD_GEOFENCES_MSG_ID
  | E_LOCAPI_REMOVE_GEOFENCES_MSG_ID | E_LOCAPI_MODIFY_GEOFENCES_MSG_ID | E_LOCAPI_PAUSE_GEOFENCES_MSG_ID
  | E_LOCAPI_RESUME_GEOFENCES_MSG_ID | E_LOCAPI_GEOFENCE_BREACH_MSG_ID

inductive PBELocMsgID where
  | PB_E_LOCAPI_UNDEFINED_MSG_ID | PB_E_LOCAPI_BATCHING_MSG_ID | PB_E_LOCAPI_ADD_GEOFENCES_MSG_ID
  | PB_E_LOCAPI_REMOVE_GEOFENCES_MSG_ID | PB_E_LOCAPI_MODIFY_GEOFENCES_MSG_ID | PB_E_LOCAPI_PAUSE_GEOFENCES_MSG_ID
  | PB_E_LOCAPI_RESUME_GEOFENCES_MSG_ID | PB_E_LOCAPI_GEOFENCE_BREACH_MSG_ID

inductive PBLocationError where
  | PB_LOCATION_ERROR_SUCCESS | PB_LOCATION_ERROR_INVALID_PARAMETER | PB_LOCATION_ERROR_NOT_SUPPORTED
  | PB_LOCATION_ERROR_GENERAL_FAILURE | PB_LOCATION_ERROR_TIMEOUT

inductive BatchingStatus where
  | BATCHING_STATUS_TRIP_COMPLETED | BATCHING_STATUS_POSITION_AVAILABE | BATCHING_STATUS_POSITION_UNAVAILABLE

inductive PBBatchingStatus where
  | PB_BATCHING_STATUS_TRIP_COMPLETED | PB_BATCHING_STATUS_POSITION_AVAILABE
  | PB_BATCHING_STATUS_POSITION_UNAVAILABLE

inductive GeofenceBreachType where
  | GEOFENCE_BREACH_ENTER | GEOFENCE_BREACH_EXIT | GEOFENCE_BREACH_DWELL_IN | GEOFENCE_BREACH_DWELL_OUT
  | GEOFENCE_BREACH_UNKNOWN

structure GeofenceResponse where
  clientId : BitVec 32
  error : LocationError

structure CollectiveResPayload (room : ℕ) where
  count : BitVec 32
  resp : Vector GeofenceResponse room

structure LocAPIBatchNotification (room : ℕ) where
  count : BitVec 32
  status : BatchingStatus
  location : Vector Location room

structure LocAPIGeofenceBreachNotification (room : ℕ) where
  count : BitVec 32
  timestamp : BitVec 64
  type : BitVec 16
  location : Location
  id : Vector (BitVec 32) room

structure PBGeofenceResponse where
  clientId : BitVec 32
  error : PBLocationError

structure PBCollectiveResPayload where
  resp : List PBGeofenceResponse

structure PBLocAPIBatchNotification where
  status : PBBatchingStatus
  location : List PBLocation

structure PBLocAPIGeofenceBreachNotification where
  timestamp : BitVec 64
  breachtype : BitVec 32
  location : PBLocation
  id : List (BitVec 32)

end Messages

section Conversion

def getPBEnumForELocMsgID : ELocMsgID → PBELocMsgID
  | .E_LOCAPI_BATCHING_MSG_ID => .PB_E_LOCAPI_BATCHING_MSG_ID
  | .E_LOCAPI_ADD_GEOFENCES_MSG_ID => .PB_E_LOCAPI_ADD_GEOFENCES_MSG_ID
  | .E_LOCAPI_REMOVE_GEOFENCES_MSG_ID => .PB_E_LOCAPI_REMOVE_GEOFENCES_MSG_ID
  | .E_LOCAPI_MODIFY_GEOFENCES_MSG_ID => .PB_E_LOCAPI_MODIFY_GEOFENCES_MSG_ID
  | .E_LOCAPI_PAUSE_GEOFENCES_MSG_ID => .PB_E_LOCAPI_PAUSE_GEOFENCES_MSG_ID
  | .E_LOCAPI_RESUME_GEOFENCES_MSG_ID => .PB_E_LOCAPI_RESUME_GEOFENCES_MSG_ID
  | .E_LOCAPI_GEOFENCE_BREACH_MSG_ID => .PB_E_LOCAPI_GEOFENCE_BREACH_MSG_ID
  | _ => .PB_E_LOCAPI_UNDEFINED_MSG_ID

def getEnumForPBELocMsgID : PBELocMsgID → ELocMsgID
  | .PB_E_LOCAPI_BATCHING_MSG_ID => .E_LOCAPI_BATCHING_MSG_ID
  | .PB_E_LOCAPI_ADD_GEOFENCES_MSG_ID => .E_LOCAPI_ADD_GEOFENCES_MSG_ID
  | .PB_E_LOCAPI_REMOVE_GEOFENCES_MSG_ID => .E_LOCAPI_REMOVE_GEOFENCES_MSG_ID
  | .PB_E_LOCAPI_MODIFY_GEOFENCES_MSG_ID => .E_LOCAPI_MODIFY_GEOFENCES_MSG_ID
  | .PB_E_LOCAPI_PAUSE_GEOFENCES_MSG_ID => .E_LOCAPI_PAUSE_GEOFENCES_MSG_ID
  | .PB_E_LOCAPI_RESUME_GEOFENCES_MSG_ID => .E_LOCAPI_RESUME_GEOFENCES_MSG_ID
  | .PB_E_LOCAPI_GEOFENCE_BREACH_MSG_ID => .E_LOCAPI_GEOFENCE_BREACH_MSG_ID
  | _ => .E_LOCAPI_UNDEFINED_MSG_ID

def getPBEnumForLocationError : LocationError → PBLocationError
  | .success => .PB_LOCATION_ERROR_SUCCESS
  | .invalidParameter => .PB_LOCATION_ERROR_INVALID_PARAMETER
  | .notSupported => .PB_LOCATION_ERROR_NOT_SUPPORTED
  | .timeout => .PB_LOCATION_ERROR_TIMEOUT
  | _ => .PB_LOCATION_ERROR_GENERAL_FAILURE

def getEnumForPBLocationError : PBLocationError → LocationError
  | .PB_LOCATION_ERROR_SUCCESS => .success
  | .PB_LOCATION_ERROR_INVALID_PARAMETER => .invalidParameter
  | .PB_LOCATION_ERROR_NOT_SUPPORTED => .notSupported
  | .PB_LOCATION_ERROR_TIMEOUT => .timeout
  | _ => .generalFailure

def getPBEnumForBatchingStatus : BatchingStatus → PBBatchingStatus
  | .BATCHING_STATUS_TRIP_COMPLETED => .PB_BATCHING_STATUS_TRIP_COMPLETED
  | .BATCHING_STATUS_POSITION_AVAILABE => .PB_BATCHING_STATUS_POSITION_AVAILABE
  | .BATCHING_STATUS_POSITION_UNAVAILABLE => .PB_BATCHING_STATUS_POSITION_UNAVAILABLE

def getEnumForPBBatchingStatus : PBBatchingStatus → BatchingStatus
  | .PB_BATCHING_STATUS_TRIP_COMPLETED => .BATCHING_STATUS_TRIP_COMPLETED
  | .PB_BATCHING_STATUS_POSITION_AVAILABE => .BATCHING_STATUS_POSITION_AVAILABE
  | .PB_BATCHING_STATUS_POSITION_UNAVAILABLE => .BATCHING_STATUS_POSITION_UNAVAILABLE

def convertCollectiveResPayloadToPB (payload : CollectiveResPayload room) : PBCollectiveResPayload where
  resp := (payload.resp.front payload.count.toNat).map fun resp =>
    ⟨resp.clientId, getPBEnumForLocationError resp.error⟩

def convertLocAPIBatchingNotifMsgToPB (notif : LocAPIBatchNotification room) : PBLocAPIBatchNotification where
  status := getPBEnumForBatchingStatus notif.status
  location := (notif.location.front notif.count.toNat).map convertLocationToPB

/-- The type of the breach is copied as it is. -/
def convertLocAPIGfBreachNotifToPB (notif : LocAPIGeofenceBreachNotification room) :
    PBLocAPIGeofenceBreachNotification where
  timestamp := notif.timestamp
  breachtype := notif.type.setWidth 32
  location := convertLocationToPB notif.location
  id := notif.id.front notif.count.toNat

/-! `old` is what the structure was before. -/

def pbConvertToCollectiveResPayload (pb : PBCollectiveResPayload) (old : CollectiveResPayload room) :
    CollectiveResPayload room where
  count := BitVec.ofNat 32 pb.resp.length
  resp := old.resp.store (pb.resp.map fun resp => ⟨resp.clientId, getEnumForPBLocationError resp.error⟩)

def pbConvertToLocAPIBatchNotification (pb : PBLocAPIBatchNotification) (old : LocAPIBatchNotification room) :
    LocAPIBatchNotification room where
  status := getEnumForPBBatchingStatus pb.status
  count := BitVec.ofNat 32 pb.location.length
  location := old.location.store (pb.location.map pbConvertToLocation)

/-- One identifier is read, and `count` is not set. -/
def pbConvertToLocAPIGfBreachNotification (pb : PBLocAPIGeofenceBreachNotification)
    (old : LocAPIGeofenceBreachNotification room) : LocAPIGeofenceBreachNotification room where
  timestamp := pb.timestamp
  type := (getGfBreachTypeMaskFromPB pb.breachtype).setWidth 16
  location := pbConvertToLocation pb.location
  id := old.id.store (pb.id.take 1)
  count := old.count

end Conversion

section Header

/-- The converter of the daemon or of a client, which has no state of its own. -/
inductive LocationApiPbMsgConv where
  | converter

structure LocAPIMsgHeader where
  mSocketName : String
  msgId : ELocMsgID
  msgVersion : BitVec 32
  pLocApiPbMsgConv : Option LocationApiPbMsgConv

def LOCATION_REMOTE_API_MSG_VERSION : BitVec 32 := 1

def SERVICE_NAME : String := "locapiservice"

namespace LocAPIMsgHeader

def construct (name : String) (msgId : ELocMsgID) (locApiPbConv : Option LocationApiPbMsgConv) : LocAPIMsgHeader :=
  ⟨name, msgId, LOCATION_REMOTE_API_MSG_VERSION, locApiPbConv⟩

/-- Memory filled with zeros. -/
def zeros : LocAPIMsgHeader := ⟨"", .E_LOCAPI_UNDEFINED_MSG_ID, 0, none⟩

def isValidServerMsg (h : LocAPIMsgHeader) : Bool :=
  h.msgVersion = LOCATION_REMOTE_API_MSG_VERSION && h.mSocketName = SERVICE_NAME

end LocAPIMsgHeader

structure PBLocAPIMsgHeader (Bytes : Type) where
  mSocketName : String
  msgId : PBELocMsgID
  msgVersion : BitVec 32
  payload : Bytes

/-- The encoding of the library for one kind of messages. -/
structure Encoding (Bytes Message : Type) where
  SerializeToString : Message → Bytes
  ParseFromString : Bytes → Option Message
  parse_serialize (message : Message) : ParseFromString (SerializeToString message) = some message

structure Protobuf (Bytes : Type) where
  header : Encoding Bytes (PBLocAPIMsgHeader Bytes)
  collectiveResp : Encoding Bytes PBCollectiveResPayload
  batchingInd : Encoding Bytes PBLocAPIBatchNotification
  geofenceBreachInd : Encoding Bytes PBLocAPIGeofenceBreachNotification

end Header

section Classes

variable {Bytes Body Payload : Type} (protobuf : Protobuf Bytes)

/-- A class of messages: what they have after their header, and how it is converted. -/
structure MsgClass (Bytes Body Payload : Type) where
  encoding : Encoding Bytes Payload
  convertToPB : Body → Payload
  pbConvert : Payload → Body → Body

structure LocAPIMsg (Body : Type) extends LocAPIMsgHeader where
  body : Body

namespace MsgClass

variable (c : MsgClass Bytes Body Payload)

/-- Nothing is made without a converter. -/
def serializeToProtobuf (msg : LocAPIMsg Body) : Option Bytes :=
  match msg.pLocApiPbMsgConv with
  | none => none
  | some _ => some (protobuf.header.SerializeToString
      ⟨msg.mSocketName, getPBEnumForELocMsgID msg.msgId, msg.msgVersion,
        c.encoding.SerializeToString (c.convertToPB msg.body)⟩)

/-- The constructor of the class from a payload, in some memory. -/
def construct (name : String) (msgId : ELocMsgID) (payload : Payload) (pbMsgConv : Option LocationApiPbMsgConv)
    (memory : Body) : LocAPIMsg Body where
  toLocAPIMsgHeader := .construct name msgId pbMsgConv
  body := match pbMsgConv with
    | none => memory
    | some _ => c.pbConvert payload memory

/-- `IpcListener::onReceive` of a client, which takes messages of the daemon only. -/
def onReceive (data : Bytes) (mPbufMsgConv : LocationApiPbMsgConv) (memory : Body) : Option (LocAPIMsg Body) := do
  let pbLocApiMsg ← protobuf.header.ParseFromString data
  let eLocMsgid := getEnumForPBELocMsgID pbLocApiMsg.msgId
  if (LocAPIMsgHeader.construct pbLocApiMsg.mSocketName eLocMsgid none).isValidServerMsg then do
    let payload ← c.encoding.ParseFromString pbLocApiMsg.payload
    pure (c.construct pbLocApiMsg.mSocketName eLocMsgid payload mPbufMsgConv memory)
  else
    none

end MsgClass

def LocAPICollectiveRespMsg : MsgClass Bytes (CollectiveResPayload room) PBCollectiveResPayload :=
  ⟨protobuf.collectiveResp, convertCollectiveResPayloadToPB, pbConvertToCollectiveResPayload⟩

def LocAPIBatchingIndMsg : MsgClass Bytes (LocAPIBatchNotification room) PBLocAPIBatchNotification :=
  ⟨protobuf.batchingInd, convertLocAPIBatchingNotifMsgToPB, pbConvertToLocAPIBatchNotification⟩

def LocAPIGeofenceBreachIndMsg : MsgClass Bytes (LocAPIGeofenceBreachNotification room)
    PBLocAPIGeofenceBreachNotification :=
  ⟨protobuf.geofenceBreachInd, convertLocAPIGfBreachNotifToPB, pbConvertToLocAPIGfBreachNotification⟩

end Classes

namespace LocHalDaemonClientHandler

/-- The header that is written into zeros. -/
def pmsg (msgId : ELocMsgID) : LocAPIMsgHeader :=
  { LocAPIMsgHeader.zeros with
    msgVersion := LOCATION_REMOTE_API_MSG_VERSION
    mSocketName := SERVICE_NAME
    msgId := msgId }

/-- The message with the identifiers that `getClientIds` gives and the errors for them. -/
def onCollectiveResponseCallback (memory : CollectiveResPayload room) (pendingMsgId : ELocMsgID)
    (resp : List GeofenceResponse) : LocAPIMsg (CollectiveResPayload room) where
  toLocAPIMsgHeader := pmsg pendingMsgId
  body := { count := BitVec.ofNat 32 resp.length, resp := memory.resp.store resp }

def onBatchingCb (memory : LocAPIBatchNotification room) (location : List Location) :
    LocAPIMsg (LocAPIBatchNotification room) where
  toLocAPIMsgHeader := pmsg .E_LOCAPI_BATCHING_MSG_ID
  body :=
    { count := BitVec.ofNat 32 location.length
      status := .BATCHING_STATUS_POSITION_AVAILABE
      location := memory.location.store location }

def parseClientGeofenceBreachType : GeofenceBreachType → BitVec 16
  | .GEOFENCE_BREACH_ENTER => GeofenceBreachTypeBits.GEOFENCE_BREACH_ENTER_BIT.header.setWidth 16
  | .GEOFENCE_BREACH_EXIT => GeofenceBreachTypeBits.GEOFENCE_BREACH_EXIT_BIT.header.setWidth 16
  | .GEOFENCE_BREACH_DWELL_IN => GeofenceBreachTypeBits.GEOFENCE_BREACH_DWELL_IN_BIT.header.setWidth 16
  | .GEOFENCE_BREACH_DWELL_OUT => GeofenceBreachTypeBits.GEOFENCE_BREACH_DWELL_OUT_BIT.header.setWidth 16
  | _ => 0

def onGeofenceBreachCb (memory : LocAPIGeofenceBreachNotification room) (timestamp : BitVec 64) (location : Location)
    (type : GeofenceBreachType) (clientIds : List (BitVec 32)) :
    LocAPIMsg (LocAPIGeofenceBreachNotification room) where
  toLocAPIMsgHeader := pmsg .E_LOCAPI_GEOFENCE_BREACH_MSG_ID
  body :=
    { count := BitVec.ofNat 32 clientIds.length
      timestamp := timestamp
      location := location
      type := parseClientGeofenceBreachType type
      id := memory.id.store clientIds }

end LocHalDaemonClientHandler

end Cypfr.LocationApiPb
