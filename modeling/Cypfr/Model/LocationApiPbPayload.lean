import Cypfr.Model.LocationApiPbMsgConv

/-! # Reading messages into arrays

`location_api_msg_proto/src/LocationApiPbMsgConv.cpp`: the elements of a repeated field are copied one by one into an
array of the structure that the message is read into. Each decoder has its own number of them: the size of the field,
a count of the message, or a constant. A read past the end of a repeated field or a write past that of an array is
none.
-/

namespace Cypfr.LocationApiPb

def GNSS_LOC_MAX_NUMBER_OF_SIGNAL_TYPES : ℕ := 20

def MAX_GEOFENCE_ENTRY : ℕ := 20

inductive GnssDataBits where
  | GNSS_LOC_DATA_JAMMER_IND_BIT | GNSS_LOC_DATA_AGC_BIT
deriving DecidableEq

namespace GnssDataBits

def header : GnssDataBits → BitVec 64
  | .GNSS_LOC_DATA_JAMMER_IND_BIT => 1 <<< 0 | .GNSS_LOC_DATA_AGC_BIT => 1 <<< 1

def proto : GnssDataBits → BitVec 64
  | .GNSS_LOC_DATA_JAMMER_IND_BIT => 1 | .GNSS_LOC_DATA_AGC_BIT => 2

def all : List GnssDataBits := [.GNSS_LOC_DATA_JAMMER_IND_BIT, .GNSS_LOC_DATA_AGC_BIT]

end GnssDataBits

def getGnssDataMaskFromPB (mask : BitVec 64) : BitVec 64 :=
  open GnssDataBits in BitMask.translate all proto header mask 0

structure GnssDataNotification where
  gnssDataMask : Vector (BitVec 64) GNSS_LOC_MAX_NUMBER_OF_SIGNAL_TYPES
  jammerInd : Vector CDouble GNSS_LOC_MAX_NUMBER_OF_SIGNAL_TYPES
  agc : Vector CDouble GNSS_LOC_MAX_NUMBER_OF_SIGNAL_TYPES

structure PBGnssDataNotification where
  numberSignalTypes : BitVec 32
  gnssDataMask : List (BitVec 64)
  jammerInd : List CDouble
  agc : List CDouble

structure GeofenceOption where
  breachTypeMask : BitVec 32
  responsiveness : BitVec 32
  dwellTime : BitVec 32

structure PBGeofenceOption where
  breachTypeMask : BitVec 32
  responsiveness : BitVec 32
  dwellTime : BitVec 32

structure GeofenceInfo where
  latitude : CDouble
  longitude : CDouble
  radius : CDouble

structure PBGeofenceInfo where
  latitude : CDouble
  longitude : CDouble
  radius : CDouble

structure GeofencePayload where
  gfClientId : BitVec 32
  gfOption : GeofenceOption
  gfInfo : GeofenceInfo

structure PBGeofencePayload where
  gfClientId : BitVec 32
  gfOption : PBGeofenceOption
  gfInfo : PBGeofenceInfo

structure GeofencesAddedReqPayload where
  count : BitVec 32
  gfPayload : Vector GeofencePayload MAX_GEOFENCE_ENTRY

structure GeofencesReqClientIdPayload where
  count : BitVec 32
  gfIds : Vector (BitVec 32) MAX_GEOFENCE_ENTRY

section Geofences

def pbConvertToGeofenceOption (pb : PBGeofenceOption) : GeofenceOption where
  breachTypeMask := getGfBreachTypeMaskFromPB pb.breachTypeMask
  responsiveness := pb.responsiveness
  dwellTime := pb.dwellTime

def pbConvertToGeofenceInfo (pb : PBGeofenceInfo) : GeofenceInfo where
  latitude := pb.latitude
  longitude := pb.longitude
  radius := pb.radius

/-- The body of the loop of `pbConvertToGfAddReqPayload`. -/
def pbConvertToGeofencePayload (pb : PBGeofencePayload) : GeofencePayload where
  gfClientId := pb.gfClientId
  gfOption := pbConvertToGeofenceOption pb.gfOption
  gfInfo := pbConvertToGeofenceInfo pb.gfInfo

/-- `pbConvertToGfAddReqPayload`, for the field `gfPayload`. -/
def pbConvertToGfAddReqPayload (gfPayload : List PBGeofencePayload) (payload : GeofencesAddedReqPayload) :
    Option GeofencesAddedReqPayload := do
  let copied ← payload.gfPayload.copy pbConvertToGeofencePayload gfPayload gfPayload.length
  return { count := BitVec.ofNat 32 gfPayload.length, gfPayload := copied }

/-- `pbConvertToGfReqClientIdPayload`, for the field `gfIds`. -/
def pbConvertToGfReqClientIdPayload (gfIds : List (BitVec 32)) (payload : GeofencesReqClientIdPayload) :
    Option GeofencesReqClientIdPayload := do
  let copied ← payload.gfIds.copy id gfIds gfIds.length
  return { count := BitVec.ofNat 32 gfIds.length, gfIds := copied }

end Geofences

section Reports

/-- `pbConvertToGnssLocInfoNotif` with its loops. -/
def pbConvertToGnssLocInfoNotif? (pb : PBGnssLocationInfoNotification) (notif : GnssLocationInfoNotification) :
    Option GnssLocationInfoNotification := do
  let measUsageInfo ← notif.measUsageInfo.copy pbConvertToGnssMeasUsageInfo pb.measUsageInfo
    (min pb.numOfMeasReceived.toNat GNSS_SV_MAX)
  let enuVelocityVRPBased ← notif.enuVelocityVRPBased.copy id pb.enuVelocityVRPBased 3
  return { pbConvertToGnssLocInfoNotif pb notif with
    measUsageInfo := measUsageInfo
    enuVelocityVRPBased := enuVelocityVRPBased }

/-- `pbConvertToGnssSvNotif` with its loop. -/
def pbConvertToGnssSvNotif? (pb : PBLocApiGnssSvNotification) (notif : GnssSvNotification) :
    Option GnssSvNotification := do
  let gnssSvs ← notif.gnssSvs.copy pbConvertToGnssSv pb.gnssSvs (min pb.gnssSvs.length GNSS_SV_MAX)
  return { pbConvertToGnssSvNotif pb notif with gnssSvs := gnssSvs }

/-- `pbConvertToGnssDataNotification`; its loop copies an element of each of the three fields in turn. -/
def pbConvertToGnssDataNotification (pb : PBGnssDataNotification) (notif : GnssDataNotification) :
    Option GnssDataNotification := do
  let arrMaxLen := min pb.numberSignalTypes.toNat GNSS_LOC_MAX_NUMBER_OF_SIGNAL_TYPES
  let gnssDataMask ← notif.gnssDataMask.copy getGnssDataMaskFromPB pb.gnssDataMask arrMaxLen
  let jammerInd ← notif.jammerInd.copy id pb.jammerInd arrMaxLen
  let agc ← notif.agc.copy id pb.agc arrMaxLen
  return { gnssDataMask := gnssDataMask, jammerInd := jammerInd, agc := agc }

/-- `pbConvertToGnssMeasNotification` with its loop. -/
def pbConvertToGnssMeasNotification? (pb : PBGnssMeasurementsNotification) (notif : GnssMeasurementsNotification) :
    Option GnssMeasurementsNotification := do
  let measurements ← notif.measurements.copy pbConvertToGnssMeasurementsData pb.measurements pb.measurements.length
  return { pbConvertToGnssMeasNotification pb notif with measurements := measurements }

end Reports

end Cypfr.LocationApiPb
