import Cypfr.Model.LocationApiPbMasks
import Cypfr.Model.LocationApiPbTypes
import Cypfr.ToMathlib.VectorStore

/-! # Reports as protobuf messages

`location_api_msg_proto/src/LocationApiPbMsgConv.cpp`: a report is copied field by field into a message and back. The
message is new when a report is copied into it, and what the generated code allocates is there. An integer is widened
or cut to the width of the field it is copied to; a narrow signed one is extended with its sign.
-/

namespace Cypfr.LocationApiPb

section ToMessage

def convertLocationToPB (location : Location) : PBLocation where
  flags := getPBMaskForLocationFlagsMask (location.flags.setWidth 32)
  timestamp := location.timestamp
  latitude := location.latitude
  longitude := location.longitude
  altitude := location.altitude
  speed := location.speed
  bearing := location.bearing
  horizontalAccuracy := location.accuracy
  verticalAccuracy := location.verticalAccuracy
  speedAccuracy := location.speedAccuracy
  bearingAccuracy := location.bearingAccuracy
  techMask := getPBMaskForLocationTechnologyMask (location.techMask.setWidth 32)

def convertGnssLocSvUsedInPosToPB (used : GnssLocationSvUsedInPosition) : PBGnssLocationSvUsedInPosition where
  gpsSvUsedIdsMask := used.gpsSvUsedIdsMask
  gloSvUsedIdsMask := used.gloSvUsedIdsMask
  galSvUsedIdsMask := used.galSvUsedIdsMask
  bdsSvUsedIdsMask := used.bdsSvUsedIdsMask
  qzssSvUsedIdsMask := used.qzssSvUsedIdsMask
  navicSvUsedIdsMask := used.navicSvUsedIdsMask

def convertGnssMeasUsageInfoToPB (info : GnssMeasUsageInfo) : PBGnssMeasUsageInfo where
  gnssConstellation := getPBEnumForGnssLocSvSystem info.gnssConstellation
  gnssSvId := info.gnssSvId.setWidth 32
  gnssSignalType := getPBMaskForGnssSignalTypeMask info.gnssSignalType

def convertGnssLocationPositionDynamicsToPB (dyn : GnssLocationPositionDynamics)
    (dynExt : GnssLocationPositionDynamicsExt) : PBLocApiGnssLocationPositionDynamics where
  bodyFrameDataMask := getPBMaskForGnssLocationPosDataMask dyn.bodyFrameDataMask dynExt.bodyFrameDataMask
  longAccel := dyn.longAccel
  latAccel := dyn.latAccel
  vertAccel := dyn.vertAccel
  longAccelUnc := dyn.longAccelUnc
  latAccelUnc := dyn.latAccelUnc
  vertAccelUnc := dyn.vertAccelUnc
  pitch := dyn.pitch
  pitchUnc := dyn.pitchUnc
  pitchRate := dynExt.pitchRate
  pitchRateUnc := dynExt.pitchRateUnc
  roll := dynExt.roll
  rollUnc := dynExt.rollUnc
  rollRate := dynExt.rollRate
  rollRateUnc := dynExt.rollRateUnc
  yaw := dynExt.yaw
  yawUnc := dynExt.yawUnc
  yawRate := dyn.yawRate
  yawRateUnc := dyn.yawRateUnc

def convertGnssSystemTimeStructTypeToPB (time : GnssSystemTimeStructType) : PBLocApiGnssSystemTimeStructType where
  validityMask := getPBMaskForGnssSystemTimeStructTypeFlags time.validityMask
  systemWeek := time.systemWeek.setWidth 32
  systemMsec := time.systemMsec
  systemClkTimeBiasMs := time.systemClkTimeBias
  systemClkTimeBiasUncMs := time.systemClkTimeUncMs
  refFCount := time.refFCount
  numClockResets := time.numClockResets

def convertGnssGloTimeStructTypeToPB (time : GnssGloTimeStructType) : PBLocApiGnssGloTimeStructType where
  validityMask := getPBMaskForGnssGloTimeStructTypeFlags time.validityMask
  gloFourYear := time.gloFourYear.setWidth 32
  gloDays := time.gloDays.setWidth 32
  gloMsec := time.gloMsec
  gloClkTimeBias := time.gloClkTimeBias
  gloClkTimeUncMs := time.gloClkTimeUncMs
  refFCount := time.refFCount
  numClockResets := time.numClockResets

def convertSystemTimeStructUnionToPB (source : Gnss_LocSvSystemEnumType) (u : SystemTimeStructUnion) :
    PBLocApiSystemTimeStructUnion :=
  match source with
  | .GNSS_LOC_SV_SYSTEM_GPS => .gpsSystemTime (convertGnssSystemTimeStructTypeToPB u.gpsSystemTime)
  | .GNSS_LOC_SV_SYSTEM_GALILEO => .galSystemTime (convertGnssSystemTimeStructTypeToPB u.galSystemTime)
  | .GNSS_LOC_SV_SYSTEM_BDS => .bdsSystemTime (convertGnssSystemTimeStructTypeToPB u.bdsSystemTime)
  | .GNSS_LOC_SV_SYSTEM_QZSS => .qzssSystemTime (convertGnssSystemTimeStructTypeToPB u.qzssSystemTime)
  | .GNSS_LOC_SV_SYSTEM_GLONASS => .gloSystemTime (convertGnssGloTimeStructTypeToPB u.gloSystemTime)
  | .GNSS_LOC_SV_SYSTEM_NAVIC => .navicSystemTime (convertGnssSystemTimeStructTypeToPB u.navicSystemTime)
  | _ => .notSet

def convertGnssSystemTimeToPB (time : GnssSystemTime) : PBLocApiGnssSystemTime where
  gnssSystemTimeSrc := getPBEnumForGnssLocSvSystem time.gnssSystemTimeSrc
  u := convertSystemTimeStructUnionToPB time.gnssSystemTimeSrc time.u

def convertLLAInfoToPB (info : LLAInfo) : PBLLAInfo where
  latitude := info.latitude
  longitude := info.longitude
  altitude := info.altitude

def convertGnssLocInfoNotifToPB (notif : GnssLocationInfoNotification) : PBGnssLocationInfoNotification where
  location := convertLocationToPB notif.location
  flags := getPBMaskForGnssLocationInfoFlagMask notif.flags
  altitudeMeanSeaLevel := notif.altitudeMeanSeaLevel
  pdop := notif.pdop
  hdop := notif.hdop
  vdop := notif.vdop
  gdop := notif.gdop
  tdop := notif.tdop
  magneticDeviation := notif.magneticDeviation
  horReliability := getPBEnumForLocationReliability notif.horReliability
  verReliability := getPBEnumForLocationReliability notif.verReliability
  horUncEllipseSemiMajor := notif.horUncEllipseSemiMajor
  horUncEllipseSemiMinor := notif.horUncEllipseSemiMinor
  horUncEllipseOrientAzimuth := notif.horUncEllipseOrientAzimuth
  northStdDeviation := notif.northStdDeviation
  eastStdDeviation := notif.eastStdDeviation
  northVelocity := notif.northVelocity
  eastVelocity := notif.eastVelocity
  upVelocity := notif.upVelocity
  northVelocityStdDeviation := notif.northVelocityStdDeviation
  eastVelocityStdDeviation := notif.eastVelocityStdDeviation
  upVelocityStdDeviation := notif.upVelocityStdDeviation
  numSvUsedInPosition := notif.numSvUsedInPosition.setWidth 32
  svUsedInPosition := convertGnssLocSvUsedInPosToPB notif.svUsedInPosition
  navSolutionMask := getPBMaskForGnssLocationNavSolutionMask notif.navSolutionMask
  bodyFrameData := convertGnssLocationPositionDynamicsToPB notif.bodyFrameData notif.bodyFrameDataExt
  gnssSystemTime := convertGnssSystemTimeToPB notif.gnssSystemTime
  numOfMeasReceived := notif.numOfMeasReceived.setWidth 32
  measUsageInfo := (notif.measUsageInfo.front notif.numOfMeasReceived.toNat).map convertGnssMeasUsageInfoToPB
  leapSeconds := notif.leapSeconds.setWidth 32
  timeUncMs := notif.timeUncMs
  calibrationConfidence := notif.calibrationConfidence.setWidth 32
  calibrationStatus := getPBMaskForDrCalibrationStatusMask (notif.calibrationStatus.setWidth 32)
  locOutputEngType := getPBEnumForLocOutputEngineType notif.locOutputEngType
  locOutputEngMask := getPBMaskForPositioningEngineMask notif.locOutputEngMask
  conformityIndex := notif.conformityIndex
  llaVRPBased := convertLLAInfoToPB notif.llaVRPBased
  enuVelocityVRPBased := notif.enuVelocityVRPBased.front 3
  drSolutionStatusMask := getPBMaskForDrSolutionStatusMask notif.drSolutionStatusMask
  extFlags := getPBMaskForGnssLocationInfoExtFlagMask notif.flags
  altitudeAssumed := notif.altitudeAssumed
  sessionStatus := getPBEnumForLocSessionStatus notif.sessionStatus

def convertGnssSvToPB (sv : GnssSv) : PBLocApiGnssSv where
  svId := sv.svId.setWidth 32
  type := getPBGnssLocSvSysEnumFromGnssSvType sv.type
  cN0Dbhz := sv.cN0Dbhz
  elevation := sv.elevation
  azimuth := sv.azimuth
  gnssSvOptionsMask := getPBMaskForGnssSvOptionsMask (sv.gnssSvOptionsMask.setWidth 32)
  carrierFrequencyHz := sv.carrierFrequencyHz
  gnssSignalTypeMask := getPBMaskForGnssSignalTypeMask sv.gnssSignalTypeMask
  basebandCarrierToNoiseDbHz := sv.basebandCarrierToNoiseDbHz
  gloFrequency := sv.gloFrequency.setWidth 32

def convertGnssSvNotifToPB (notif : GnssSvNotification) : PBLocApiGnssSvNotification where
  gnssSignalTypeMaskValid := notif.gnssSignalTypeMaskValid
  gnssSvs := (notif.gnssSvs.front notif.count.toNat).map convertGnssSvToPB

def convertGnssMeasDataToPB (data : GnssMeasurementsData) : PBGnssMeasurementsData where
  flags := getPBMaskForGnssMeasurementsDataFlagsMask data.flags
  svId := data.svId.signExtend 32
  svType := getPBGnssLocSvSysEnumFromGnssSvType data.svType
  timeOffsetNs := data.timeOffsetNs
  stateMask := getPBMaskForGnssMeasurementsStateMask data.stateMask
  receivedSvTimeNs := data.receivedSvTimeNs
  receivedSvTimeUncertaintyNs := data.receivedSvTimeUncertaintyNs
  carrierToNoiseDbHz := data.carrierToNoiseDbHz
  pseudorangeRateMps := data.pseudorangeRateMps
  pseudorangeRateUncertaintyMps := data.pseudorangeRateUncertaintyMps
  adrStateMask := getPBMaskForGnssMeasurementsAdrStateMask (data.adrStateMask.setWidth 32)
  adrMeters := data.adrMeters
  adrUncertaintyMeters := data.adrUncertaintyMeters
  carrierFrequencyHz := data.carrierFrequencyHz
  carrierCycles := data.carrierCycles
  carrierPhase := data.carrierPhase
  carrierPhaseUncertainty := data.carrierPhaseUncertainty
  multipathIndicator := getPBEnumForGnssMeasMultiPathIndic data.multipathIndicator
  signalToNoiseRatioDb := data.signalToNoiseRatioDb
  agcLevelDb := data.agcLevelDb
  basebandCarrierToNoiseDbHz := data.basebandCarrierToNoiseDbHz
  gnssSignalType := getPBMaskForGnssSignalTypeMask data.gnssSignalType
  fullInterSignalBiasNs := data.fullInterSignalBiasNs
  fullInterSignalBiasUncertaintyNs := data.fullInterSignalBiasUncertaintyNs
  cycleSlipCount := data.cycleSlipCount.setWidth 32

def convertGnssMeasClockToPB (clock : GnssMeasurementsClock) : PBGnssMeasurementsClock where
  flags := getPBMaskForGnssMeasurementsClockFlagsMask clock.flags
  leapSecond := clock.leapSecond.signExtend 32
  timeNs := clock.timeNs
  timeUncertaintyNs := clock.timeUncertaintyNs
  fullBiasNs := clock.fullBiasNs
  biasNs := clock.biasNs
  biasUncertaintyNs := clock.biasUncertaintyNs
  driftNsps := clock.driftNsps
  driftUncertaintyNsps := clock.driftUncertaintyNsps
  hwClockDiscontinuityCount := clock.hwClockDiscontinuityCount

def convertGnssMeasNotifToPB (notif : GnssMeasurementsNotification) : PBGnssMeasurementsNotification where
  measurements := (notif.measurements.front notif.count.toNat).map convertGnssMeasDataToPB
  clock := convertGnssMeasClockToPB notif.clock

end ToMessage

section FromMessage

def pbConvertToLocation (pb : PBLocation) : Location where
  flags := (getLocationFlagsMaskFromPB pb.flags).setWidth 16
  timestamp := pb.timestamp
  latitude := pb.latitude
  longitude := pb.longitude
  altitude := pb.altitude
  speed := pb.speed
  bearing := pb.bearing
  accuracy := pb.horizontalAccuracy
  verticalAccuracy := pb.verticalAccuracy
  speedAccuracy := pb.speedAccuracy
  bearingAccuracy := pb.bearingAccuracy
  techMask := (getLocationTechnologyMaskFromPB pb.techMask).setWidth 16

def pbConvertToGnssLocationSvUsedInPosition (pb : PBGnssLocationSvUsedInPosition) : GnssLocationSvUsedInPosition where
  gpsSvUsedIdsMask := pb.gpsSvUsedIdsMask
  gloSvUsedIdsMask := pb.gloSvUsedIdsMask
  galSvUsedIdsMask := pb.galSvUsedIdsMask
  bdsSvUsedIdsMask := pb.bdsSvUsedIdsMask
  qzssSvUsedIdsMask := pb.qzssSvUsedIdsMask
  navicSvUsedIdsMask := pb.navicSvUsedIdsMask

def pbConvertToGnssMeasUsageInfo (pb : PBGnssMeasUsageInfo) : GnssMeasUsageInfo where
  gnssConstellation := getEnumForPBGnssLocSvSystem pb.gnssConstellation
  gnssSvId := pb.gnssSvId.setWidth 16
  gnssSignalType := getGnssSignalTypeMaskFromPB pb.gnssSignalType

/-- `pbConvertToGnssLocationPositionDynamics`, for its first structure. -/
def pbConvertToGnssLocationPositionDynamics (pb : PBLocApiGnssLocationPositionDynamics) :
    GnssLocationPositionDynamics where
  bodyFrameDataMask := getGnssLocationPosDataMaskFromPB pb.bodyFrameDataMask
  longAccel := pb.longAccel
  latAccel := pb.latAccel
  vertAccel := pb.vertAccel
  longAccelUnc := pb.longAccelUnc
  latAccelUnc := pb.latAccelUnc
  vertAccelUnc := pb.vertAccelUnc
  pitch := pb.pitch
  pitchUnc := pb.pitchUnc
  yawRate := pb.yawRate
  yawRateUnc := pb.yawRateUnc

/-- `pbConvertToGnssLocationPositionDynamics`, for its second structure. -/
def pbConvertToGnssLocationPositionDynamicsExt (pb : PBLocApiGnssLocationPositionDynamics) :
    GnssLocationPositionDynamicsExt where
  bodyFrameDataMask := getGnssLocationPosDataMaskExtFromPB pb.bodyFrameDataMask
  pitchRate := pb.pitchRate
  pitchRateUnc := pb.pitchRateUnc
  roll := pb.roll
  rollUnc := pb.rollUnc
  rollRate := pb.rollRate
  rollRateUnc := pb.rollRateUnc
  yaw := pb.yaw
  yawUnc := pb.yawUnc

def pbConvertToGnssSystemTimeStructType (pb : PBLocApiGnssSystemTimeStructType) : GnssSystemTimeStructType where
  validityMask := getGnssSystemTimeStructTypeFlagsFromPB pb.validityMask
  systemWeek := pb.systemWeek.setWidth 16
  systemMsec := pb.systemMsec
  systemClkTimeBias := pb.systemClkTimeBiasMs
  systemClkTimeUncMs := pb.systemClkTimeBiasUncMs
  refFCount := pb.refFCount
  numClockResets := pb.numClockResets

def pbConvertToGnssGloTimeStructType (pb : PBLocApiGnssGloTimeStructType) : GnssGloTimeStructType where
  validityMask := getGnssGloTimeStructTypeFlagsFromPB pb.validityMask
  gloFourYear := pb.gloFourYear.setWidth 8
  gloDays := pb.gloDays.setWidth 16
  gloMsec := pb.gloMsec
  gloClkTimeBias := pb.gloClkTimeBias
  gloClkTimeUncMs := pb.gloClkTimeUncMs
  refFCount := pb.refFCount
  numClockResets := pb.numClockResets

/-- The member which the source selects is written over what the union was. -/
def pbConvertToSystemTimeStructUnion (source : Gnss_LocSvSystemEnumType) (pb : PBLocApiSystemTimeStructUnion)
    (u : SystemTimeStructUnion) : SystemTimeStructUnion :=
  match source with
  | .GNSS_LOC_SV_SYSTEM_GPS => { u with gpsSystemTime := pbConvertToGnssSystemTimeStructType pb.gpssystemtime }
  | .GNSS_LOC_SV_SYSTEM_GALILEO => { u with galSystemTime := pbConvertToGnssSystemTimeStructType pb.galsystemtime }
  | .GNSS_LOC_SV_SYSTEM_BDS => { u with bdsSystemTime := pbConvertToGnssSystemTimeStructType pb.bdssystemtime }
  | .GNSS_LOC_SV_SYSTEM_QZSS => { u with qzssSystemTime := pbConvertToGnssSystemTimeStructType pb.qzsssystemtime }
  | .GNSS_LOC_SV_SYSTEM_GLONASS => { u with gloSystemTime := pbConvertToGnssGloTimeStructType pb.glosystemtime }
  | .GNSS_LOC_SV_SYSTEM_NAVIC => { u with navicSystemTime := pbConvertToGnssSystemTimeStructType pb.navicsystemtime }
  | _ => u

def pbConvertToGnssSystemTime (pb : PBLocApiGnssSystemTime) (time : GnssSystemTime) : GnssSystemTime where
  gnssSystemTimeSrc := getEnumForPBGnssLocSvSystem pb.gnssSystemTimeSrc
  u := pbConvertToSystemTimeStructUnion (getEnumForPBGnssLocSvSystem pb.gnssSystemTimeSrc) pb.u time.u

def pbConvertToLLAInfo (pb : PBLLAInfo) : LLAInfo where
  latitude := pb.latitude
  longitude := pb.longitude
  altitude := pb.altitude

/-- `notif` is what the structure was before. -/
def pbConvertToGnssLocInfoNotif (pb : PBGnssLocationInfoNotification) (notif : GnssLocationInfoNotification) :
    GnssLocationInfoNotification :=
  let numOfMeasReceived := min pb.numOfMeasReceived.toNat GNSS_SV_MAX
  { location := pbConvertToLocation pb.location
    flags := getGnssLocationInfoFlagMaskFromPB pb.flags pb.extFlags
    altitudeMeanSeaLevel := pb.altitudeMeanSeaLevel
    pdop := pb.pdop
    hdop := pb.hdop
    vdop := pb.vdop
    gdop := pb.gdop
    tdop := pb.tdop
    magneticDeviation := pb.magneticDeviation
    horReliability := getEnumForPBLocReliability pb.horReliability
    verReliability := getEnumForPBLocReliability pb.verReliability
    horUncEllipseSemiMajor := pb.horUncEllipseSemiMajor
    horUncEllipseSemiMinor := pb.horUncEllipseSemiMinor
    horUncEllipseOrientAzimuth := pb.horUncEllipseOrientAzimuth
    northStdDeviation := pb.northStdDeviation
    eastStdDeviation := pb.eastStdDeviation
    northVelocity := pb.northVelocity
    eastVelocity := pb.eastVelocity
    upVelocity := pb.upVelocity
    northVelocityStdDeviation := pb.northVelocityStdDeviation
    eastVelocityStdDeviation := pb.eastVelocityStdDeviation
    upVelocityStdDeviation := pb.upVelocityStdDeviation
    numSvUsedInPosition := pb.numSvUsedInPosition.setWidth 16
    svUsedInPosition := pbConvertToGnssLocationSvUsedInPosition pb.svUsedInPosition
    navSolutionMask := getGnssLocationNavSolutionMaskFromPB pb.navSolutionMask
    bodyFrameData := pbConvertToGnssLocationPositionDynamics pb.bodyFrameData
    gnssSystemTime := pbConvertToGnssSystemTime pb.gnssSystemTime notif.gnssSystemTime
    numOfMeasReceived := BitVec.ofNat 8 numOfMeasReceived
    measUsageInfo :=
      notif.measUsageInfo.store ((pb.measUsageInfo.take numOfMeasReceived).map pbConvertToGnssMeasUsageInfo)
    leapSeconds := pb.leapSeconds.setWidth 8
    timeUncMs := pb.timeUncMs
    calibrationConfidence := pb.calibrationConfidence.setWidth 8
    calibrationStatus := (getDrCalibrationStatusMaskFromPB pb.calibrationStatus).setWidth 16
    locOutputEngType := getEnumForPBLocOutputEngineType pb.locOutputEngType
    locOutputEngMask := getEnumForPBPositioningEngineMask pb.locOutputEngMask
    conformityIndex := pb.conformityIndex
    bodyFrameDataExt := pbConvertToGnssLocationPositionDynamicsExt pb.bodyFrameData
    llaVRPBased := pbConvertToLLAInfo pb.llaVRPBased
    enuVelocityVRPBased := notif.enuVelocityVRPBased.store (pb.enuVelocityVRPBased.take 3)
    drSolutionStatusMask := getDrSolutionStatusMaskFromPB pb.drSolutionStatusMask
    altitudeAssumed := pb.altitudeAssumed
    sessionStatus := getLocSessionStatusFromPB pb.sessionStatus }

def pbConvertToGnssSv (pb : PBLocApiGnssSv) : GnssSv where
  svId := pb.svId.setWidth 16
  type := getGnssSvTypeFromPBGnssLocSvSystemEnumType pb.type
  cN0Dbhz := pb.cN0Dbhz
  elevation := pb.elevation
  azimuth := pb.azimuth
  gnssSvOptionsMask := (getGnssSvOptionsMaskFromPB pb.gnssSvOptionsMask).setWidth 16
  carrierFrequencyHz := pb.carrierFrequencyHz
  gnssSignalTypeMask := getGnssSignalTypeMaskFromPB pb.gnssSignalTypeMask
  basebandCarrierToNoiseDbHz := pb.basebandCarrierToNoiseDbHz
  gloFrequency := pb.gloFrequency.setWidth 16

def pbConvertToGnssSvNotif (pb : PBLocApiGnssSvNotification) (notif : GnssSvNotification) : GnssSvNotification :=
  let count := min pb.gnssSvs.length GNSS_SV_MAX
  { gnssSignalTypeMaskValid := pb.gnssSignalTypeMaskValid
    count := BitVec.ofNat 32 count
    gnssSvs := notif.gnssSvs.store ((pb.gnssSvs.take count).map pbConvertToGnssSv) }

/-- The mask of states is copied as it is. -/
def pbConvertToGnssMeasurementsData (pb : PBGnssMeasurementsData) : GnssMeasurementsData where
  flags := getGnssMeasurementsDataFlagsMaskFromPB pb.flags
  svId := pb.svId.setWidth 16
  svType := getGnssSvTypeFromPBGnssLocSvSystemEnumType pb.svType
  timeOffsetNs := pb.timeOffsetNs
  stateMask := pb.stateMask
  receivedSvTimeNs := pb.receivedSvTimeNs
  receivedSvTimeUncertaintyNs := pb.receivedSvTimeUncertaintyNs
  carrierToNoiseDbHz := pb.carrierToNoiseDbHz
  pseudorangeRateMps := pb.pseudorangeRateMps
  pseudorangeRateUncertaintyMps := pb.pseudorangeRateUncertaintyMps
  adrStateMask := (getGnssMeasurementsAdrStateMaskFromPB pb.adrStateMask).setWidth 16
  adrMeters := pb.adrMeters
  adrUncertaintyMeters := pb.adrUncertaintyMeters
  carrierFrequencyHz := pb.carrierFrequencyHz
  carrierCycles := pb.carrierCycles
  carrierPhase := pb.carrierPhase
  carrierPhaseUncertainty := pb.carrierPhaseUncertainty
  multipathIndicator := getEnumForPBGnssMeasMultipathIndic pb.multipathIndicator
  signalToNoiseRatioDb := pb.signalToNoiseRatioDb
  agcLevelDb := pb.agcLevelDb
  basebandCarrierToNoiseDbHz := pb.basebandCarrierToNoiseDbHz
  gnssSignalType := getGnssSignalTypeMaskFromPB pb.gnssSignalType
  fullInterSignalBiasNs := pb.fullInterSignalBiasNs
  fullInterSignalBiasUncertaintyNs := pb.fullInterSignalBiasUncertaintyNs
  cycleSlipCount := pb.cycleSlipCount.setWidth 8

def pbConvertToGnssMeasurementsClock (pb : PBGnssMeasurementsClock) : GnssMeasurementsClock where
  flags := getGnssMeasurementsClockFlagsMaskFromPB pb.flags
  leapSecond := pb.leapSecond.setWidth 16
  timeNs := pb.timeNs
  timeUncertaintyNs := pb.timeUncertaintyNs
  fullBiasNs := pb.fullBiasNs
  biasNs := pb.biasNs
  biasUncertaintyNs := pb.biasUncertaintyNs
  driftNsps := pb.driftNsps
  driftUncertaintyNsps := pb.driftUncertaintyNsps
  hwClockDiscontinuityCount := pb.hwClockDiscontinuityCount

def pbConvertToGnssMeasNotification (pb : PBGnssMeasurementsNotification) (notif : GnssMeasurementsNotification) :
    GnssMeasurementsNotification where
  count := BitVec.ofNat 32 pb.measurements.length
  measurements := notif.measurements.store (pb.measurements.map pbConvertToGnssMeasurementsData)
  clock := pbConvertToGnssMeasurementsClock pb.clock

end FromMessage

end Cypfr.LocationApiPb
