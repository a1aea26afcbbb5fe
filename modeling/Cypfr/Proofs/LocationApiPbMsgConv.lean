import Cypfr.Model.LocationApiPbMsgConv
import Cypfr.Proofs.LocationApiPbMasks

/-! # Reports got back from their messages

A structure is `Known` if its masks have only bits of flags and its enumerations only values with a counterpart. Such
a structure is got back from the message made of it. An array is got back up to its count, and of a system time the
member which its source selects.
-/

open BitMask

namespace Cypfr.LocationApiPb

section Enums

@[simp]
theorem getEnumForPBLocReliability_getPBEnum (reliability : LocationReliability) :
    getEnumForPBLocReliability (getPBEnumForLocationReliability reliability) = reliability := by
  cases reliability <;> rfl

@[simp]
theorem getEnumForPBGnssLocSvSystem_getPBEnum (system : Gnss_LocSvSystemEnumType) :
    getEnumForPBGnssLocSvSystem (getPBEnumForGnssLocSvSystem system) = system := by
  cases system <;> rfl

@[simp]
theorem getGnssSvTypeFromPB_getPBEnum (type : GnssSvType) :
    getGnssSvTypeFromPBGnssLocSvSystemEnumType (getPBGnssLocSvSysEnumFromGnssSvType type) = type := by
  cases type <;> rfl

@[simp]
theorem getEnumForPBGnssMeasMultipathIndic_getPBEnum (indicator : GnssMeasurementsMultipathIndicator) :
    getEnumForPBGnssMeasMultipathIndic (getPBEnumForGnssMeasMultiPathIndic indicator) = indicator := by
  cases indicator <;> rfl

@[simp]
theorem getLocSessionStatusFromPB_getPBEnum (status : LocSessStatus) :
    getLocSessionStatusFromPB (getPBEnumForLocSessionStatus status) = status := by
  cases status <;> rfl

/-- The messages have no engine of the vehicle. -/
theorem getEnumForPBLocOutputEngineType_getPBEnum {type : LocOutputEngineType}
    (known : type ≠ .LOC_OUTPUT_ENGINE_VPE) :
    getEnumForPBLocOutputEngineType (getPBEnumForLocOutputEngineType type) = type := by
  cases type with
  | LOC_OUTPUT_ENGINE_VPE => exact absurd rfl known
  | _ => rfl

end Enums

section Widths

variable {v w : ℕ}

theorem setWidth_setWidth_self (fits : v ≤ w) (x : BitVec v) : (x.setWidth w).setWidth v = x := by
  rw [BitVec.setWidth_setWidth_of_le _ fits, BitVec.setWidth_eq]

theorem setWidth_signExtend_self (fits : v ≤ w) (x : BitVec v) : (x.signExtend w).setWidth v = x := by
  refine BitVec.eq_of_getLsbD_eq fun k inside => ?_
  rw [BitVec.getLsbD_setWidth, decide_eq_true inside, Bool.true_and, BitVec.getLsbD_signExtend, if_pos inside,
    decide_eq_true (Nat.lt_of_lt_of_le inside fits), Bool.true_and]

end Widths

section Arrays

variable {α β : Type} {n count : ℕ}

/-- The elements in use are got back if each of them is. -/
theorem front_store_map_map_front {there : α → β} {back : β → α} {elements others : Vector α n} (room : count ≤ n)
    (same : ∀ x ∈ others.front count, back (there x) = x) :
    (elements.store (((others.front count).map there).map back)).front count = others.front count := by
  have copied : ((others.front count).map there).map back = others.front count := by
    rw [List.map_map]
    exact (List.map_congr_left same).trans (List.map_id _)
  rw [copied, Vector.front_store_front _ _ room]

end Arrays

structure Location.Known (location : Location) : Prop where
  flags : Uses LocationFlagsBits.header (location.flags.setWidth 32)
  techMask : Uses LocationTechnologyBits.header (location.techMask.setWidth 32)

theorem pbConvertToLocation_convert {location : Location} (known : location.Known) :
    pbConvertToLocation (convertLocationToPB location) = location := by
  have flags : getLocationFlagsMaskFromPB (getPBMaskForLocationFlagsMask (location.flags.setWidth 32)) = _ :=
    LocationFlagsBits.coding.roundTrip known.flags
  have techMask :
      getLocationTechnologyMaskFromPB (getPBMaskForLocationTechnologyMask (location.techMask.setWidth 32)) = _ :=
    LocationTechnologyBits.coding.roundTrip known.techMask
  rw [pbConvertToLocation, convertLocationToPB, flags, techMask, setWidth_setWidth_self (by decide),
    setWidth_setWidth_self (by decide)]

theorem pbConvertToGnssLocationSvUsedInPosition_convert (used : GnssLocationSvUsedInPosition) :
    pbConvertToGnssLocationSvUsedInPosition (convertGnssLocSvUsedInPosToPB used) = used := rfl

theorem pbConvertToLLAInfo_convert (info : LLAInfo) : pbConvertToLLAInfo (convertLLAInfoToPB info) = info := rfl

structure GnssMeasUsageInfo.Known (info : GnssMeasUsageInfo) : Prop where
  gnssSignalType : Uses GnssSignalTypeBits.header info.gnssSignalType

theorem pbConvertToGnssMeasUsageInfo_convert {info : GnssMeasUsageInfo} (known : info.Known) :
    pbConvertToGnssMeasUsageInfo (convertGnssMeasUsageInfoToPB info) = info := by
  have gnssSignalType : getGnssSignalTypeMaskFromPB (getPBMaskForGnssSignalTypeMask info.gnssSignalType) = _ :=
    GnssSignalTypeBits.coding.roundTrip known.gnssSignalType
  rw [pbConvertToGnssMeasUsageInfo, convertGnssMeasUsageInfoToPB, gnssSignalType, setWidth_setWidth_self (by decide),
    getEnumForPBGnssLocSvSystem_getPBEnum]

section BodyFrame

variable {dyn : GnssLocationPositionDynamics} {dynExt : GnssLocationPositionDynamicsExt}

theorem pbConvertToGnssLocationPositionDynamics_convert
    (known : Uses GnssLocationPosDataBits.header dyn.bodyFrameDataMask) :
    pbConvertToGnssLocationPositionDynamics (convertGnssLocationPositionDynamicsToPB dyn dynExt) = dyn := by
  rw [pbConvertToGnssLocationPositionDynamics, convertGnssLocationPositionDynamicsToPB,
    getGnssLocationPosDataMaskFromPB_getPBMask known]

theorem pbConvertToGnssLocationPositionDynamicsExt_convert
    (known : Uses GnssLocationPosDataBitsExt.header dynExt.bodyFrameDataMask) :
    pbConvertToGnssLocationPositionDynamicsExt (convertGnssLocationPositionDynamicsToPB dyn dynExt) = dynExt := by
  rw [pbConvertToGnssLocationPositionDynamicsExt, convertGnssLocationPositionDynamicsToPB,
    getGnssLocationPosDataMaskExtFromPB_getPBMask known]

end BodyFrame

section SystemTime

structure GnssSystemTimeStructType.Known (time : GnssSystemTimeStructType) : Prop where
  validityMask : Uses GnssSystemTimeTypeBits.header time.validityMask

structure GnssGloTimeStructType.Known (time : GnssGloTimeStructType) : Prop where
  validityMask : Uses GnssGloTimeTypeBits.header time.validityMask

theorem pbConvertToGnssSystemTimeStructType_convert {time : GnssSystemTimeStructType} (known : time.Known) :
    pbConvertToGnssSystemTimeStructType (convertGnssSystemTimeStructTypeToPB time) = time := by
  have validityMask :
      getGnssSystemTimeStructTypeFlagsFromPB (getPBMaskForGnssSystemTimeStructTypeFlags time.validityMask) = _ :=
    GnssSystemTimeTypeBits.coding.roundTrip known.validityMask
  rw [pbConvertToGnssSystemTimeStructType, convertGnssSystemTimeStructTypeToPB, validityMask,
    setWidth_setWidth_self (by decide)]

theorem pbConvertToGnssGloTimeStructType_convert {time : GnssGloTimeStructType} (known : time.Known) :
    pbConvertToGnssGloTimeStructType (convertGnssGloTimeStructTypeToPB time) = time := by
  have validityMask :
      getGnssGloTimeStructTypeFlagsFromPB (getPBMaskForGnssGloTimeStructTypeFlags time.validityMask) = _ :=
    GnssGloTimeTypeBits.coding.roundTrip known.validityMask
  rw [pbConvertToGnssGloTimeStructType, convertGnssGloTimeStructTypeToPB, validityMask,
    setWidth_setWidth_self (by decide), setWidth_setWidth_self (by decide)]

/-- The member that the source selects has only flags with a counterpart. -/
def SystemTimeStructUnion.Known (source : Gnss_LocSvSystemEnumType) (u : SystemTimeStructUnion) : Prop :=
  match source with
  | .GNSS_LOC_SV_SYSTEM_GPS => u.gpsSystemTime.Known
  | .GNSS_LOC_SV_SYSTEM_GALILEO => u.galSystemTime.Known
  | .GNSS_LOC_SV_SYSTEM_BDS => u.bdsSystemTime.Known
  | .GNSS_LOC_SV_SYSTEM_QZSS => u.qzssSystemTime.Known
  | .GNSS_LOC_SV_SYSTEM_GLONASS => u.gloSystemTime.Known
  | .GNSS_LOC_SV_SYSTEM_NAVIC => u.navicSystemTime.Known
  | _ => True

/-- The members that the source selects are equal. -/
def SystemTimeStructUnion.Agrees (source : Gnss_LocSvSystemEnumType) (u v : SystemTimeStructUnion) : Prop :=
  match source with
  | .GNSS_LOC_SV_SYSTEM_GPS => u.gpsSystemTime = v.gpsSystemTime
  | .GNSS_LOC_SV_SYSTEM_GALILEO => u.galSystemTime = v.galSystemTime
  | .GNSS_LOC_SV_SYSTEM_BDS => u.bdsSystemTime = v.bdsSystemTime
  | .GNSS_LOC_SV_SYSTEM_QZSS => u.qzssSystemTime = v.qzssSystemTime
  | .GNSS_LOC_SV_SYSTEM_GLONASS => u.gloSystemTime = v.gloSystemTime
  | .GNSS_LOC_SV_SYSTEM_NAVIC => u.navicSystemTime = v.navicSystemTime
  | _ => True

theorem pbConvertToSystemTimeStructUnion_convert {source : Gnss_LocSvSystemEnumType} {u : SystemTimeStructUnion}
    (known : u.Known source) (old : SystemTimeStructUnion) :
    (pbConvertToSystemTimeStructUnion source (convertSystemTimeStructUnionToPB source u) old).Agrees source u := by
  cases source with
  | GNSS_LOC_SV_SYSTEM_UNKNOWN | GNSS_LOC_SV_SYSTEM_SBAS => trivial
  | GNSS_LOC_SV_SYSTEM_GLONASS => exact pbConvertToGnssGloTimeStructType_convert known
  | _ => exact pbConvertToGnssSystemTimeStructType_convert known

def GnssSystemTime.Known (time : GnssSystemTime) : Prop := time.u.Known time.gnssSystemTimeSrc

structure GnssSystemTime.Agrees (time other : GnssSystemTime) : Prop where
  source : time.gnssSystemTimeSrc = other.gnssSystemTimeSrc
  u : time.u.Agrees other.gnssSystemTimeSrc other.u

theorem pbConvertToGnssSystemTime_convert {time : GnssSystemTime} (known : time.Known) (old : GnssSystemTime) :
    (pbConvertToGnssSystemTime (convertGnssSystemTimeToPB time) old).Agrees time where
  source := getEnumForPBGnssLocSvSystem_getPBEnum _
  u := by
    rw [pbConvertToGnssSystemTime, convertGnssSystemTimeToPB, getEnumForPBGnssLocSvSystem_getPBEnum]
    exact pbConvertToSystemTimeStructUnion_convert known old.u

end SystemTime

section Satellites

structure GnssSv.Known (sv : GnssSv) : Prop where
  gnssSvOptionsMask : Uses GnssSvOptionsBits.header (sv.gnssSvOptionsMask.setWidth 32)
  gnssSignalTypeMask : Uses GnssSignalTypeBits.header sv.gnssSignalTypeMask

theorem pbConvertToGnssSv_convert {sv : GnssSv} (known : sv.Known) :
    pbConvertToGnssSv (convertGnssSvToPB sv) = sv := by
  have options : getGnssSvOptionsMaskFromPB (getPBMaskForGnssSvOptionsMask (sv.gnssSvOptionsMask.setWidth 32)) = _ :=
    GnssSvOptionsBits.coding.roundTrip known.gnssSvOptionsMask
  have signals : getGnssSignalTypeMaskFromPB (getPBMaskForGnssSignalTypeMask sv.gnssSignalTypeMask) = _ :=
    GnssSignalTypeBits.coding.roundTrip known.gnssSignalTypeMask
  simp only [pbConvertToGnssSv, convertGnssSvToPB, options, signals, getGnssSvTypeFromPB_getPBEnum,
    setWidth_setWidth_self (show 16 ≤ 32 by decide)]

structure GnssSvNotification.Known (notif : GnssSvNotification) : Prop where
  count : notif.count.toNat ≤ GNSS_SV_MAX
  gnssSvs : ∀ sv ∈ notif.gnssSvs.front notif.count.toNat, sv.Known

structure GnssSvNotification.Agrees (notif other : GnssSvNotification) : Prop where
  count : notif.count = other.count
  gnssSignalTypeMaskValid : notif.gnssSignalTypeMaskValid = other.gnssSignalTypeMaskValid
  gnssSvs : notif.gnssSvs.front other.count.toNat = other.gnssSvs.front other.count.toNat

theorem pbConvertToGnssSvNotif_convert {notif : GnssSvNotification} (known : notif.Known)
    (old : GnssSvNotification) : (pbConvertToGnssSvNotif (convertGnssSvNotifToPB notif) old).Agrees notif := by
  have length : ((notif.gnssSvs.front notif.count.toNat).map convertGnssSvToPB).length = notif.count.toNat := by
    rw [List.length_map, Vector.length_front _ known.count]
  have count : min ((notif.gnssSvs.front notif.count.toNat).map convertGnssSvToPB).length GNSS_SV_MAX =
      notif.count.toNat := by
    rw [length, Nat.min_eq_left known.count]
  rw [pbConvertToGnssSvNotif, convertGnssSvNotifToPB]
  refine ⟨?_, rfl, ?_⟩
  · show BitVec.ofNat 32 (min _ _) = _
    rw [count, BitVec.ofNat_toNat, BitVec.setWidth_eq]
  · show (old.gnssSvs.store _).front _ = _
    rw [count, List.take_of_length_le (Nat.le_of_eq length)]
    exact front_store_map_map_front known.count fun sv used => pbConvertToGnssSv_convert (known.gnssSvs sv used)

end Satellites

section Measurements

structure GnssMeasurementsData.Known (data : GnssMeasurementsData) : Prop where
  flags : Uses GnssMeasurementsDataFlagsBits.header data.flags
  stateMask : Uses GnssMeasurementsStateBits.header data.stateMask
  adrStateMask : Uses GnssMeasurementsAdrStateBits.header (data.adrStateMask.setWidth 32)
  gnssSignalType : Uses GnssSignalTypeBits.header data.gnssSignalType

/-- The states have the same bits in the messages, so that the mask needs no translation. -/
theorem GnssMeasurementsStateBits.proto_eq : proto = header := by
  funext flag
  cases flag <;> rfl

theorem getPBMaskForGnssMeasurementsStateMask_of_uses {mask : BitVec 32}
    (uses : Uses GnssMeasurementsStateBits.header mask) : getPBMaskForGnssMeasurementsStateMask mask = mask := by
  have coding := GnssMeasurementsStateBits.coding
  rw [getPBMaskForGnssMeasurementsStateMask, GnssMeasurementsStateBits.proto_eq]
  exact translate_back coding.fromHeader coding.complete (fun _ => Iff.rfl) uses

theorem pbConvertToGnssMeasurementsData_convert {data : GnssMeasurementsData} (known : data.Known) :
    pbConvertToGnssMeasurementsData (convertGnssMeasDataToPB data) = data := by
  have flags : getGnssMeasurementsDataFlagsMaskFromPB (getPBMaskForGnssMeasurementsDataFlagsMask data.flags) = _ :=
    GnssMeasurementsDataFlagsBits.coding.roundTrip known.flags
  have adrStates : getGnssMeasurementsAdrStateMaskFromPB
      (getPBMaskForGnssMeasurementsAdrStateMask (data.adrStateMask.setWidth 32)) = _ :=
    GnssMeasurementsAdrStateBits.coding.roundTrip known.adrStateMask
  have signals : getGnssSignalTypeMaskFromPB (getPBMaskForGnssSignalTypeMask data.gnssSignalType) = _ :=
    GnssSignalTypeBits.coding.roundTrip known.gnssSignalType
  simp only [pbConvertToGnssMeasurementsData, convertGnssMeasDataToPB, flags, adrStates, signals,
    getPBMaskForGnssMeasurementsStateMask_of_uses known.stateMask, getGnssSvTypeFromPB_getPBEnum,
    getEnumForPBGnssMeasMultipathIndic_getPBEnum, setWidth_signExtend_self (show 16 ≤ 32 by decide),
    setWidth_setWidth_self (show 16 ≤ 32 by decide), setWidth_setWidth_self (show 8 ≤ 32 by decide)]

structure GnssMeasurementsClock.Known (clock : GnssMeasurementsClock) : Prop where
  flags : Uses GnssMeasurementsClockFlagsBits.header clock.flags

theorem pbConvertToGnssMeasurementsClock_convert {clock : GnssMeasurementsClock} (known : clock.Known) :
    pbConvertToGnssMeasurementsClock (convertGnssMeasClockToPB clock) = clock := by
  have flags : getGnssMeasurementsClockFlagsMaskFromPB (getPBMaskForGnssMeasurementsClockFlagsMask clock.flags) = _ :=
    GnssMeasurementsClockFlagsBits.coding.roundTrip known.flags
  rw [pbConvertToGnssMeasurementsClock, convertGnssMeasClockToPB, flags, setWidth_signExtend_self (by decide)]

structure GnssMeasurementsNotification.Known (notif : GnssMeasurementsNotification) : Prop where
  count : notif.count.toNat ≤ GNSS_MEASUREMENTS_MAX
  measurements : ∀ data ∈ notif.measurements.front notif.count.toNat, data.Known
  clock : notif.clock.Known

structure GnssMeasurementsNotification.Agrees (notif other : GnssMeasurementsNotification) : Prop where
  count : notif.count = other.count
  measurements : notif.measurements.front other.count.toNat = other.measurements.front other.count.toNat
  clock : notif.clock = other.clock

theorem pbConvertToGnssMeasNotification_convert {notif : GnssMeasurementsNotification} (known : notif.Known)
    (old : GnssMeasurementsNotification) :
    (pbConvertToGnssMeasNotification (convertGnssMeasNotifToPB notif) old).Agrees notif where
  count := by
    rw [pbConvertToGnssMeasNotification, convertGnssMeasNotifToPB, List.length_map, Vector.length_front _ known.count,
      BitVec.ofNat_toNat, BitVec.setWidth_eq]
  measurements := front_store_map_map_front known.count fun data used =>
    pbConvertToGnssMeasurementsData_convert (known.measurements data used)
  clock := pbConvertToGnssMeasurementsClock_convert known.clock

end Measurements

section LocationInfo

structure GnssLocationInfoNotification.Known (notif : GnssLocationInfoNotification) : Prop where
  location : notif.location.Known
  flags : Uses (Sum.elim GnssLocationInfoFlagBits.header GnssLocationInfoExtFlagBits.header) notif.flags
  navSolutionMask : Uses GnssLocationNavSolutionBits.header notif.navSolutionMask
  bodyFrameData : Uses GnssLocationPosDataBits.header notif.bodyFrameData.bodyFrameDataMask
  bodyFrameDataExt : Uses GnssLocationPosDataBitsExt.header notif.bodyFrameDataExt.bodyFrameDataMask
  gnssSystemTime : notif.gnssSystemTime.Known
  numOfMeasReceived : notif.numOfMeasReceived.toNat ≤ GNSS_SV_MAX
  measUsageInfo : ∀ info ∈ notif.measUsageInfo.front notif.numOfMeasReceived.toNat, info.Known
  calibrationStatus : Uses DrCalibrationStatusBits.header (notif.calibrationStatus.setWidth 32)
  locOutputEngType : notif.locOutputEngType ≠ .LOC_OUTPUT_ENGINE_VPE
  locOutputEngMask : Uses PositioningEngineBits.header notif.locOutputEngMask
  drSolutionStatusMask : Uses DrSolutionStatusBits.header notif.drSolutionStatusMask

/-- All fields are equal but for the array of the measurements and the time of the system, which are compared in the
elements in use and in the member selected. -/
structure GnssLocationInfoNotification.Agrees (notif other : GnssLocationInfoNotification) : Prop where
  fields : { notif with measUsageInfo := other.measUsageInfo, gnssSystemTime := other.gnssSystemTime } = other
  measUsageInfo : notif.measUsageInfo.front other.numOfMeasReceived.toNat =
    other.measUsageInfo.front other.numOfMeasReceived.toNat
  gnssSystemTime : notif.gnssSystemTime.Agrees other.gnssSystemTime

theorem pbConvertToGnssLocInfoNotif_convert {notif : GnssLocationInfoNotification} (known : notif.Known)
    (old : GnssLocationInfoNotification) :
    (pbConvertToGnssLocInfoNotif (convertGnssLocInfoNotifToPB notif) old).Agrees notif := by
  have count : min (notif.numOfMeasReceived.setWidth 32).toNat GNSS_SV_MAX = notif.numOfMeasReceived.toNat := by
    rw [BitVec.toNat_setWidth_of_le (by decide), Nat.min_eq_left known.numOfMeasReceived]
  refine ⟨?_, ?_, ?_⟩
  · have location := pbConvertToLocation_convert known.location
    have flags := getGnssLocationInfoFlagMaskFromPB_getPBMask known.flags
    have navSolutionMask :
        getGnssLocationNavSolutionMaskFromPB (getPBMaskForGnssLocationNavSolutionMask notif.navSolutionMask) = _ :=
      GnssLocationNavSolutionBits.coding.roundTrip known.navSolutionMask
    have calibration : getDrCalibrationStatusMaskFromPB
        (getPBMaskForDrCalibrationStatusMask (notif.calibrationStatus.setWidth 32)) = _ :=
      DrCalibrationStatusBits.coding.roundTrip known.calibrationStatus
    have solution : getDrSolutionStatusMaskFromPB (getPBMaskForDrSolutionStatusMask notif.drSolutionStatusMask) = _ :=
      DrSolutionStatusBits.coding.roundTrip known.drSolutionStatusMask
    have velocity : old.enuVelocityVRPBased.store ((notif.enuVelocityVRPBased.front 3).take 3) =
        notif.enuVelocityVRPBased := by
      rw [List.take_of_length_le (Nat.le_of_eq (Vector.length_front _ (Nat.le_refl 3)))]
      exact Vector.store_front_self _ _
    have engines := getEnumForPBPositioningEngineMask_getPBMask known.locOutputEngMask
    simp only [pbConvertToGnssLocInfoNotif, convertGnssLocInfoNotifToPB, count, location, flags, navSolutionMask,
      calibration, solution, engines, pbConvertToGnssLocationPositionDynamics_convert known.bodyFrameData,
      pbConvertToGnssLocationPositionDynamicsExt_convert known.bodyFrameDataExt,
      getEnumForPBLocOutputEngineType_getPBEnum known.locOutputEngType, getEnumForPBLocReliability_getPBEnum,
      getLocSessionStatusFromPB_getPBEnum, pbConvertToLLAInfo_convert, pbConvertToGnssLocationSvUsedInPosition_convert,
      setWidth_setWidth_self (show 16 ≤ 32 by decide), setWidth_setWidth_self (show 8 ≤ 32 by decide),
      BitVec.ofNat_toNat, BitVec.setWidth_eq, velocity]
  · have length : ((notif.measUsageInfo.front notif.numOfMeasReceived.toNat).map convertGnssMeasUsageInfoToPB).length =
        notif.numOfMeasReceived.toNat := by
      rw [List.length_map, Vector.length_front _ known.numOfMeasReceived]
    show (old.measUsageInfo.store (((List.map _ _).take (min _ _)).map _)).front _ = _
    rw [convertGnssLocInfoNotifToPB, count, List.take_of_length_le (Nat.le_of_eq length)]
    exact front_store_map_map_front known.numOfMeasReceived fun info used =>
      pbConvertToGnssMeasUsageInfo_convert (known.measUsageInfo info used)
  · exact pbConvertToGnssSystemTime_convert known.gnssSystemTime old.gnssSystemTime

end LocationInfo

end Cypfr.LocationApiPb
