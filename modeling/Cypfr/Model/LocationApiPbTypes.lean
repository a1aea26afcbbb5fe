import Mathlib.Data.Nat.Notation

/-! # Reports and their messages

The reports of `gps/location/LocationDataTypes.h` and the messages of `location_api_msg_proto/
LocationApiDataTypes.proto`. The structures have the fields with a counterpart in a message; `size`, which is only
set when a report is made from a message, is left out.

Integers are bit vectors of their width. Floating-point values are bits that nothing looks into.
-/

namespace Cypfr.LocationApiPb

abbrev CFloat := BitVec 32

abbrev CDouble := BitVec 64

def GNSS_SV_MAX : ℕ := 128

def GNSS_MEASUREMENTS_MAX : ℕ := 128

section Enums

inductive LocationReliability where
  | LOCATION_RELIABILITY_NOT_SET | LOCATION_RELIABILITY_VERY_LOW | LOCATION_RELIABILITY_LOW
  | LOCATION_RELIABILITY_MEDIUM | LOCATION_RELIABILITY_HIGH
deriving Inhabited

inductive PBLocationReliability where
  | PB_LOCATION_RELIABILITY_NOT_SET | PB_LOCATION_RELIABILITY_VERY_LOW | PB_LOCATION_RELIABILITY_LOW
  | PB_LOCATION_RELIABILITY_MEDIUM | PB_LOCATION_RELIABILITY_HIGH

inductive Gnss_LocSvSystemEnumType where
  | GNSS_LOC_SV_SYSTEM_UNKNOWN | GNSS_LOC_SV_SYSTEM_GPS | GNSS_LOC_SV_SYSTEM_GALILEO | GNSS_LOC_SV_SYSTEM_SBAS
  | GNSS_LOC_SV_SYSTEM_GLONASS | GNSS_LOC_SV_SYSTEM_BDS | GNSS_LOC_SV_SYSTEM_QZSS | GNSS_LOC_SV_SYSTEM_NAVIC
deriving Inhabited

inductive PBLocApiGnss_LocSvSystemEnumType where
  | PB_GNSS_LOC_SV_SYSTEM_INVALID | PB_GNSS_LOC_SV_SYSTEM_GPS | PB_GNSS_LOC_SV_SYSTEM_GALILEO
  | PB_GNSS_LOC_SV_SYSTEM_SBAS | PB_GNSS_LOC_SV_SYSTEM_GLONASS | PB_GNSS_LOC_SV_SYSTEM_BDS
  | PB_GNSS_LOC_SV_SYSTEM_QZSS | PB_GNSS_LOC_SV_SYSTEM_NAVIC

inductive GnssSvType where
  | GNSS_SV_TYPE_UNKNOWN | GNSS_SV_TYPE_GPS | GNSS_SV_TYPE_SBAS | GNSS_SV_TYPE_GLONASS | GNSS_SV_TYPE_QZSS
  | GNSS_SV_TYPE_BEIDOU | GNSS_SV_TYPE_GALILEO | GNSS_SV_TYPE_NAVIC
deriving Inhabited

/-- The engines; `_COUNT`, which ends the enumeration here and in the messages, is their number. -/
inductive LocOutputEngineType where
  | LOC_OUTPUT_ENGINE_FUSED | LOC_OUTPUT_ENGINE_SPE | LOC_OUTPUT_ENGINE_PPE | LOC_OUTPUT_ENGINE_VPE
deriving Inhabited

inductive PBLocApiOutputEngineType where
  | PB_LOC_OUTPUT_ENGINE_FUSED | PB_LOC_OUTPUT_ENGINE_SPE | PB_LOC_OUTPUT_ENGINE_PPE

inductive GnssMeasurementsMultipathIndicator where
  | GNSS_MEASUREMENTS_MULTIPATH_INDICATOR_UNKNOWN | GNSS_MEASUREMENTS_MULTIPATH_INDICATOR_PRESENT
  | GNSS_MEASUREMENTS_MULTIPATH_INDICATOR_NOT_PRESENT
deriving Inhabited

inductive PBGnssMeasurementsMultipathIndicator where
  | PB_GNSS_MEASUREMENTS_MULTIPATH_INDICATOR_UNKNOWN | PB_GNSS_MEASUREMENTS_MULTIPATH_INDICATOR_PRESENT
  | PB_GNSS_MEASUREMENTS_MULTIPATH_INDICATOR_NOT_PRESENT

inductive LocSessStatus where
  | LOC_SESS_SUCCESS | LOC_SESS_INTERMEDIATE | LOC_SESS_FAILURE
deriving Inhabited

inductive PBLocationSessionStatus where
  | PB_LOCATION_SESS_SUCCESS | PB_LOCATION_SESS_INTERMEDIATE | PB_LOCATION_SESS_FAILURE

def getPBEnumForLocationReliability : LocationReliability → PBLocationReliability
  | .LOCATION_RELIABILITY_NOT_SET => .PB_LOCATION_RELIABILITY_NOT_SET
  | .LOCATION_RELIABILITY_VERY_LOW => .PB_LOCATION_RELIABILITY_VERY_LOW
  | .LOCATION_RELIABILITY_LOW => .PB_LOCATION_RELIABILITY_LOW
  | .LOCATION_RELIABILITY_MEDIUM => .PB_LOCATION_RELIABILITY_MEDIUM
  | .LOCATION_RELIABILITY_HIGH => .PB_LOCATION_RELIABILITY_HIGH

def getEnumForPBLocReliability : PBLocationReliability → LocationReliability
  | .PB_LOCATION_RELIABILITY_NOT_SET => .LOCATION_RELIABILITY_NOT_SET
  | .PB_LOCATION_RELIABILITY_VERY_LOW => .LOCATION_RELIABILITY_VERY_LOW
  | .PB_LOCATION_RELIABILITY_LOW => .LOCATION_RELIABILITY_LOW
  | .PB_LOCATION_RELIABILITY_MEDIUM => .LOCATION_RELIABILITY_MEDIUM
  | .PB_LOCATION_RELIABILITY_HIGH => .LOCATION_RELIABILITY_HIGH

def getPBEnumForGnssLocSvSystem : Gnss_LocSvSystemEnumType → PBLocApiGnss_LocSvSystemEnumType
  | .GNSS_LOC_SV_SYSTEM_GPS => .PB_GNSS_LOC_SV_SYSTEM_GPS
  | .GNSS_LOC_SV_SYSTEM_GALILEO => .PB_GNSS_LOC_SV_SYSTEM_GALILEO
  | .GNSS_LOC_SV_SYSTEM_SBAS => .PB_GNSS_LOC_SV_SYSTEM_SBAS
  | .GNSS_LOC_SV_SYSTEM_GLONASS => .PB_GNSS_LOC_SV_SYSTEM_GLONASS
  | .GNSS_LOC_SV_SYSTEM_BDS => .PB_GNSS_LOC_SV_SYSTEM_BDS
  | .GNSS_LOC_SV_SYSTEM_QZSS => .PB_GNSS_LOC_SV_SYSTEM_QZSS
  | .GNSS_LOC_SV_SYSTEM_NAVIC => .PB_GNSS_LOC_SV_SYSTEM_NAVIC
  | _ => .PB_GNSS_LOC_SV_SYSTEM_INVALID

def getEnumForPBGnssLocSvSystem : PBLocApiGnss_LocSvSystemEnumType → Gnss_LocSvSystemEnumType
  | .PB_GNSS_LOC_SV_SYSTEM_INVALID => .GNSS_LOC_SV_SYSTEM_UNKNOWN
  | .PB_GNSS_LOC_SV_SYSTEM_GPS => .GNSS_LOC_SV_SYSTEM_GPS
  | .PB_GNSS_LOC_SV_SYSTEM_GALILEO => .GNSS_LOC_SV_SYSTEM_GALILEO
  | .PB_GNSS_LOC_SV_SYSTEM_SBAS => .GNSS_LOC_SV_SYSTEM_SBAS
  | .PB_GNSS_LOC_SV_SYSTEM_GLONASS => .GNSS_LOC_SV_SYSTEM_GLONASS
  | .PB_GNSS_LOC_SV_SYSTEM_BDS => .GNSS_LOC_SV_SYSTEM_BDS
  | .PB_GNSS_LOC_SV_SYSTEM_QZSS => .GNSS_LOC_SV_SYSTEM_QZSS
  | .PB_GNSS_LOC_SV_SYSTEM_NAVIC => .GNSS_LOC_SV_SYSTEM_NAVIC

def getPBGnssLocSvSysEnumFromGnssSvType : GnssSvType → PBLocApiGnss_LocSvSystemEnumType
  | .GNSS_SV_TYPE_UNKNOWN => .PB_GNSS_LOC_SV_SYSTEM_INVALID
  | .GNSS_SV_TYPE_GPS => .PB_GNSS_LOC_SV_SYSTEM_GPS
  | .GNSS_SV_TYPE_SBAS => .PB_GNSS_LOC_SV_SYSTEM_SBAS
  | .GNSS_SV_TYPE_GLONASS => .PB_GNSS_LOC_SV_SYSTEM_GLONASS
  | .GNSS_SV_TYPE_QZSS => .PB_GNSS_LOC_SV_SYSTEM_QZSS
  | .GNSS_SV_TYPE_BEIDOU => .PB_GNSS_LOC_SV_SYSTEM_BDS
  | .GNSS_SV_TYPE_GALILEO => .PB_GNSS_LOC_SV_SYSTEM_GALILEO
  | .GNSS_SV_TYPE_NAVIC => .PB_GNSS_LOC_SV_SYSTEM_NAVIC

def getGnssSvTypeFromPBGnssLocSvSystemEnumType : PBLocApiGnss_LocSvSystemEnumType → GnssSvType
  | .PB_GNSS_LOC_SV_SYSTEM_GPS => .GNSS_SV_TYPE_GPS
  | .PB_GNSS_LOC_SV_SYSTEM_GALILEO => .GNSS_SV_TYPE_GALILEO
  | .PB_GNSS_LOC_SV_SYSTEM_SBAS => .GNSS_SV_TYPE_SBAS
  | .PB_GNSS_LOC_SV_SYSTEM_GLONASS => .GNSS_SV_TYPE_GLONASS
  | .PB_GNSS_LOC_SV_SYSTEM_BDS => .GNSS_SV_TYPE_BEIDOU
  | .PB_GNSS_LOC_SV_SYSTEM_QZSS => .GNSS_SV_TYPE_QZSS
  | .PB_GNSS_LOC_SV_SYSTEM_NAVIC => .GNSS_SV_TYPE_NAVIC
  | _ => .GNSS_SV_TYPE_UNKNOWN

def getPBEnumForLocOutputEngineType : LocOutputEngineType → PBLocApiOutputEngineType
  | .LOC_OUTPUT_ENGINE_FUSED => .PB_LOC_OUTPUT_ENGINE_FUSED
  | .LOC_OUTPUT_ENGINE_SPE => .PB_LOC_OUTPUT_ENGINE_SPE
  | .LOC_OUTPUT_ENGINE_PPE => .PB_LOC_OUTPUT_ENGINE_PPE
  | _ => .PB_LOC_OUTPUT_ENGINE_FUSED

def getEnumForPBLocOutputEngineType : PBLocApiOutputEngineType → LocOutputEngineType
  | .PB_LOC_OUTPUT_ENGINE_FUSED => .LOC_OUTPUT_ENGINE_FUSED
  | .PB_LOC_OUTPUT_ENGINE_SPE => .LOC_OUTPUT_ENGINE_SPE
  | .PB_LOC_OUTPUT_ENGINE_PPE => .LOC_OUTPUT_ENGINE_PPE

def getPBEnumForGnssMeasMultiPathIndic : GnssMeasurementsMultipathIndicator → PBGnssMeasurementsMultipathIndicator
  | .GNSS_MEASUREMENTS_MULTIPATH_INDICATOR_UNKNOWN => .PB_GNSS_MEASUREMENTS_MULTIPATH_INDICATOR_UNKNOWN
  | .GNSS_MEASUREMENTS_MULTIPATH_INDICATOR_PRESENT => .PB_GNSS_MEASUREMENTS_MULTIPATH_INDICATOR_PRESENT
  | .GNSS_MEASUREMENTS_MULTIPATH_INDICATOR_NOT_PRESENT => .PB_GNSS_MEASUREMENTS_MULTIPATH_INDICATOR_NOT_PRESENT

def getEnumForPBGnssMeasMultipathIndic : PBGnssMeasurementsMultipathIndicator → GnssMeasurementsMultipathIndicator
  | .PB_GNSS_MEASUREMENTS_MULTIPATH_INDICATOR_UNKNOWN => .GNSS_MEASUREMENTS_MULTIPATH_INDICATOR_UNKNOWN
  | .PB_GNSS_MEASUREMENTS_MULTIPATH_INDICATOR_PRESENT => .GNSS_MEASUREMENTS_MULTIPATH_INDICATOR_PRESENT
  | .PB_GNSS_MEASUREMENTS_MULTIPATH_INDICATOR_NOT_PRESENT => .GNSS_MEASUREMENTS_MULTIPATH_INDICATOR_NOT_PRESENT

def getPBEnumForLocSessionStatus : LocSessStatus → PBLocationSessionStatus
  | .LOC_SESS_SUCCESS => .PB_LOCATION_SESS_SUCCESS
  | .LOC_SESS_INTERMEDIATE => .PB_LOCATION_SESS_INTERMEDIATE
  | _ => .PB_LOCATION_SESS_FAILURE

def getLocSessionStatusFromPB : PBLocationSessionStatus → LocSessStatus
  | .PB_LOCATION_SESS_SUCCESS => .LOC_SESS_SUCCESS
  | .PB_LOCATION_SESS_INTERMEDIATE => .LOC_SESS_INTERMEDIATE
  | _ => .LOC_SESS_FAILURE

end Enums

section Reports

structure Location where
  flags : BitVec 16
  timestamp : BitVec 64
  (latitude longitude altitude : CDouble)
  (speed bearing accuracy verticalAccuracy speedAccuracy bearingAccuracy : CFloat)
  techMask : BitVec 16
deriving Inhabited

structure GnssLocationSvUsedInPosition where
  (gpsSvUsedIdsMask gloSvUsedIdsMask galSvUsedIdsMask bdsSvUsedIdsMask qzssSvUsedIdsMask navicSvUsedIdsMask : BitVec 64)
deriving Inhabited

structure GnssMeasUsageInfo where
  gnssSignalType : BitVec 32
  gnssConstellation : Gnss_LocSvSystemEnumType
  gnssSvId : BitVec 16
deriving Inhabited

structure GnssLocationPositionDynamics where
  bodyFrameDataMask : BitVec 32
  (longAccel latAccel vertAccel yawRate pitch longAccelUnc latAccelUnc vertAccelUnc yawRateUnc pitchUnc : CFloat)
deriving Inhabited

structure GnssLocationPositionDynamicsExt where
  bodyFrameDataMask : BitVec 32
  (pitchRate pitchRateUnc roll rollUnc rollRate rollRateUnc yaw yawUnc : CFloat)
deriving Inhabited

structure GnssSystemTimeStructType where
  validityMask : BitVec 32
  systemWeek : BitVec 16
  systemMsec : BitVec 32
  (systemClkTimeBias systemClkTimeUncMs : CFloat)
  (refFCount numClockResets : BitVec 32)
deriving Inhabited

structure GnssGloTimeStructType where
  gloDays : BitVec 16
  validityMask : BitVec 32
  gloMsec : BitVec 32
  (gloClkTimeBias gloClkTimeUncMs : CFloat)
  (refFCount numClockResets : BitVec 32)
  gloFourYear : BitVec 8
deriving Inhabited

/-- The members share their memory; the source of the time selects the one that is read and written. -/
structure SystemTimeStructUnion where
  (gpsSystemTime galSystemTime bdsSystemTime qzssSystemTime : GnssSystemTimeStructType)
  gloSystemTime : GnssGloTimeStructType
  navicSystemTime : GnssSystemTimeStructType
deriving Inhabited

structure GnssSystemTime where
  gnssSystemTimeSrc : Gnss_LocSvSystemEnumType
  u : SystemTimeStructUnion
deriving Inhabited

structure LLAInfo where
  (latitude longitude : CDouble)
  altitude : CFloat
deriving Inhabited

structure GnssLocationInfoNotification where
  location : Location
  flags : BitVec 64
  (altitudeMeanSeaLevel pdop hdop vdop gdop tdop magneticDeviation : CFloat)
  (horReliability verReliability : LocationReliability)
  (horUncEllipseSemiMajor horUncEllipseSemiMinor horUncEllipseOrientAzimuth : CFloat)
  (northStdDeviation eastStdDeviation northVelocity eastVelocity upVelocity : CFloat)
  (northVelocityStdDeviation eastVelocityStdDeviation upVelocityStdDeviation : CFloat)
  numSvUsedInPosition : BitVec 16
  svUsedInPosition : GnssLocationSvUsedInPosition
  navSolutionMask : BitVec 32
  bodyFrameData : GnssLocationPositionDynamics
  gnssSystemTime : GnssSystemTime
  numOfMeasReceived : BitVec 8
  measUsageInfo : Vector GnssMeasUsageInfo GNSS_SV_MAX
  leapSeconds : BitVec 8
  timeUncMs : CFloat
  calibrationConfidence : BitVec 8
  calibrationStatus : BitVec 16
  locOutputEngType : LocOutputEngineType
  locOutputEngMask : BitVec 32
  conformityIndex : CFloat
  bodyFrameDataExt : GnssLocationPositionDynamicsExt
  llaVRPBased : LLAInfo
  enuVelocityVRPBased : Vector CFloat 3
  drSolutionStatusMask : BitVec 32
  altitudeAssumed : Bool
  sessionStatus : LocSessStatus
deriving Inhabited

structure GnssSv where
  svId : BitVec 16
  type : GnssSvType
  (cN0Dbhz elevation azimuth : CFloat)
  gnssSvOptionsMask : BitVec 16
  carrierFrequencyHz : CFloat
  gnssSignalTypeMask : BitVec 32
  basebandCarrierToNoiseDbHz : CDouble
  gloFrequency : BitVec 16
deriving Inhabited

structure GnssSvNotification where
  count : BitVec 32
  gnssSignalTypeMaskValid : Bool
  gnssSvs : Vector GnssSv GNSS_SV_MAX
deriving Inhabited

structure GnssMeasurementsData where
  flags : BitVec 32
  svId : BitVec 16
  svType : GnssSvType
  timeOffsetNs : CDouble
  stateMask : BitVec 32
  (receivedSvTimeNs receivedSvTimeUncertaintyNs : BitVec 64)
  (carrierToNoiseDbHz pseudorangeRateMps pseudorangeRateUncertaintyMps : CDouble)
  adrStateMask : BitVec 16
  (adrMeters adrUncertaintyMeters : CDouble)
  carrierFrequencyHz : CFloat
  carrierCycles : BitVec 64
  (carrierPhase carrierPhaseUncertainty : CDouble)
  multipathIndicator : GnssMeasurementsMultipathIndicator
  (signalToNoiseRatioDb agcLevelDb basebandCarrierToNoiseDbHz : CDouble)
  gnssSignalType : BitVec 32
  (fullInterSignalBiasNs fullInterSignalBiasUncertaintyNs : CDouble)
  cycleSlipCount : BitVec 8
deriving Inhabited

structure GnssMeasurementsClock where
  flags : BitVec 32
  leapSecond : BitVec 16
  timeNs : BitVec 64
  timeUncertaintyNs : CDouble
  fullBiasNs : BitVec 64
  (biasNs biasUncertaintyNs driftNsps driftUncertaintyNsps : CDouble)
  hwClockDiscontinuityCount : BitVec 32
deriving Inhabited

structure GnssMeasurementsNotification where
  count : BitVec 32
  measurements : Vector GnssMeasurementsData GNSS_MEASUREMENTS_MAX
  clock : GnssMeasurementsClock
deriving Inhabited

end Reports

section Messages

structure PBLocation where
  flags : BitVec 32
  timestamp : BitVec 64
  (latitude longitude altitude : CDouble)
  (speed bearing horizontalAccuracy verticalAccuracy speedAccuracy bearingAccuracy : CFloat)
  techMask : BitVec 32

structure PBGnssLocationSvUsedInPosition where
  (gpsSvUsedIdsMask gloSvUsedIdsMask galSvUsedIdsMask bdsSvUsedIdsMask qzssSvUsedIdsMask navicSvUsedIdsMask : BitVec 64)

structure PBGnssMeasUsageInfo where
  gnssConstellation : PBLocApiGnss_LocSvSystemEnumType
  (gnssSvId gnssSignalType : BitVec 32)

structure PBLocApiGnssLocationPositionDynamics where
  bodyFrameDataMask : BitVec 32
  (longAccel latAccel vertAccel longAccelUnc latAccelUnc vertAccelUnc pitch pitchUnc pitchRate pitchRateUnc : CFloat)
  (roll rollUnc rollRate rollRateUnc yaw yawUnc yawRate yawRateUnc : CFloat)

structure PBLocApiGnssSystemTimeStructType where
  (validityMask systemWeek systemMsec : BitVec 32)
  (systemClkTimeBiasMs systemClkTimeBiasUncMs : CFloat)
  (refFCount numClockResets : BitVec 32)
deriving Inhabited

structure PBLocApiGnssGloTimeStructType where
  (validityMask gloFourYear gloDays gloMsec : BitVec 32)
  (gloClkTimeBias gloClkTimeUncMs : CFloat)
  (refFCount numClockResets : BitVec 32)
deriving Inhabited

/-- `oneof`: the member that was set last. -/
inductive PBLocApiSystemTimeStructUnion where
  | notSet
  | gpsSystemTime (time : PBLocApiGnssSystemTimeStructType)
  | galSystemTime (time : PBLocApiGnssSystemTimeStructType)
  | bdsSystemTime (time : PBLocApiGnssSystemTimeStructType)
  | qzssSystemTime (time : PBLocApiGnssSystemTimeStructType)
  | gloSystemTime (time : PBLocApiGnssGloTimeStructType)
  | navicSystemTime (time : PBLocApiGnssSystemTimeStructType)

namespace PBLocApiSystemTimeStructUnion

/-! A member that is not set reads as its default. -/

def gpssystemtime : PBLocApiSystemTimeStructUnion → PBLocApiGnssSystemTimeStructType
  | gpsSystemTime time => time
  | _ => default

def galsystemtime : PBLocApiSystemTimeStructUnion → PBLocApiGnssSystemTimeStructType
  | galSystemTime time => time
  | _ => default

def bdssystemtime : PBLocApiSystemTimeStructUnion → PBLocApiGnssSystemTimeStructType
  | bdsSystemTime time => time
  | _ => default

def qzsssystemtime : PBLocApiSystemTimeStructUnion → PBLocApiGnssSystemTimeStructType
  | qzssSystemTime time => time
  | _ => default

def glosystemtime : PBLocApiSystemTimeStructUnion → PBLocApiGnssGloTimeStructType
  | gloSystemTime time => time
  | _ => default

def navicsystemtime : PBLocApiSystemTimeStructUnion → PBLocApiGnssSystemTimeStructType
  | navicSystemTime time => time
  | _ => default

end PBLocApiSystemTimeStructUnion

structure PBLocApiGnssSystemTime where
  gnssSystemTimeSrc : PBLocApiGnss_LocSvSystemEnumType
  u : PBLocApiSystemTimeStructUnion

structure PBLLAInfo where
  (latitude longitude : CDouble)
  altitude : CFloat

structure PBGnssLocationInfoNotification where
  location : PBLocation
  flags : BitVec 32
  (altitudeMeanSeaLevel pdop hdop vdop gdop tdop magneticDeviation : CFloat)
  (horReliability verReliability : PBLocationReliability)
  (horUncEllipseSemiMajor horUncEllipseSemiMinor horUncEllipseOrientAzimuth : CFloat)
  (northStdDeviation eastStdDeviation northVelocity eastVelocity upVelocity : CFloat)
  (northVelocityStdDeviation eastVelocityStdDeviation upVelocityStdDeviation : CFloat)
  numSvUsedInPosition : BitVec 32
  svUsedInPosition : PBGnssLocationSvUsedInPosition
  navSolutionMask : BitVec 32
  bodyFrameData : PBLocApiGnssLocationPositionDynamics
  gnssSystemTime : PBLocApiGnssSystemTime
  numOfMeasReceived : BitVec 32
  measUsageInfo : List PBGnssMeasUsageInfo
  leapSeconds : BitVec 32
  timeUncMs : CFloat
  (calibrationConfidence calibrationStatus : BitVec 32)
  locOutputEngType : PBLocApiOutputEngineType
  locOutputEngMask : BitVec 32
  conformityIndex : CFloat
  llaVRPBased : PBLLAInfo
  enuVelocityVRPBased : List CFloat
  (drSolutionStatusMask extFlags : BitVec 32)
  altitudeAssumed : Bool
  sessionStatus : PBLocationSessionStatus

structure PBLocApiGnssSv where
  svId : BitVec 32
  type : PBLocApiGnss_LocSvSystemEnumType
  (cN0Dbhz elevation azimuth : CFloat)
  gnssSvOptionsMask : BitVec 32
  carrierFrequencyHz : CFloat
  gnssSignalTypeMask : BitVec 32
  basebandCarrierToNoiseDbHz : CDouble
  gloFrequency : BitVec 32

structure PBLocApiGnssSvNotification where
  gnssSignalTypeMaskValid : Bool
  gnssSvs : List PBLocApiGnssSv

structure PBGnssMeasurementsData where
  (flags svId : BitVec 32)
  svType : PBLocApiGnss_LocSvSystemEnumType
  timeOffsetNs : CDouble
  stateMask : BitVec 32
  (receivedSvTimeNs receivedSvTimeUncertaintyNs : BitVec 64)
  (carrierToNoiseDbHz pseudorangeRateMps pseudorangeRateUncertaintyMps : CDouble)
  adrStateMask : BitVec 32
  (adrMeters adrUncertaintyMeters : CDouble)
  carrierFrequencyHz : CFloat
  carrierCycles : BitVec 64
  (carrierPhase carrierPhaseUncertainty : CDouble)
  multipathIndicator : PBGnssMeasurementsMultipathIndicator
  (signalToNoiseRatioDb agcLevelDb basebandCarrierToNoiseDbHz : CDouble)
  gnssSignalType : BitVec 32
  (fullInterSignalBiasNs fullInterSignalBiasUncertaintyNs : CDouble)
  cycleSlipCount : BitVec 32

structure PBGnssMeasurementsClock where
  (flags leapSecond : BitVec 32)
  timeNs : BitVec 64
  timeUncertaintyNs : CDouble
  fullBiasNs : BitVec 64
  (biasNs biasUncertaintyNs driftNsps driftUncertaintyNsps : CDouble)
  hwClockDiscontinuityCount : BitVec 32

structure PBGnssMeasurementsNotification where
  measurements : List PBGnssMeasurementsData
  clock : PBGnssMeasurementsClock

end Messages

end Cypfr.LocationApiPb
