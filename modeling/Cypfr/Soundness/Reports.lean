import Cypfr.Proofs.LocationApiPbMsgConv

/-! # Reports survive the messages

A report of a position, of satellites or of measurements is got back from the message made of it, whatever the
structure held that the message is read into.
-/

open BitMask

namespace Cypfr.LocationApiPb

/-- What is got back from the messages agrees with the reports they were made of. -/
theorem reports_survive :
    (∀ notif : GnssLocationInfoNotification, notif.Known → ∀ old,
      (pbConvertToGnssLocInfoNotif (convertGnssLocInfoNotifToPB notif) old).Agrees notif) ∧
    (∀ notif : GnssSvNotification, notif.Known → ∀ old,
      (pbConvertToGnssSvNotif (convertGnssSvNotifToPB notif) old).Agrees notif) ∧
    ∀ notif : GnssMeasurementsNotification, notif.Known → ∀ old,
      (pbConvertToGnssMeasNotification (convertGnssMeasNotifToPB notif) old).Agrees notif :=
  ⟨fun _ known old => pbConvertToGnssLocInfoNotif_convert known old,
    fun _ known old => pbConvertToGnssSvNotif_convert known old,
    fun _ known old => pbConvertToGnssMeasNotification_convert known old⟩

/-- A position of two engines at a time of GLONASS, with a flag of each of the two masks of flags. -/
def positionReport : GnssLocationInfoNotification :=
  { (default : GnssLocationInfoNotification) with
    location.flags := 1
    location.timestamp := 1600000000000
    flags := GnssLocationInfoFlagBits.GNSS_LOCATION_INFO_DOP_BIT.header |||
      GnssLocationInfoExtFlagBits.GNSS_LOCATION_INFO_SESSION_STATUS_BIT.header
    pdop := 0x3fc00000
    bodyFrameData.bodyFrameDataMask := GnssLocationPosDataBits.LOCATION_NAV_DATA_HAS_PITCH_BIT.header
    bodyFrameDataExt.bodyFrameDataMask := GnssLocationPosDataBitsExt.LOCATION_NAV_DATA_HAS_ROLL_BIT.header
    gnssSystemTime.gnssSystemTimeSrc := .GNSS_LOC_SV_SYSTEM_GLONASS
    gnssSystemTime.u.gloSystemTime.validityMask := GnssGloTimeTypeBits.GNSS_CLO_DAYS_VALID.header
    gnssSystemTime.u.gloSystemTime.gloDays := 300
    numOfMeasReceived := 2
    measUsageInfo := .replicate _ ⟨GnssSignalTypeBits.GNSS_SIGNAL_GALILEO_E1.header, .GNSS_LOC_SV_SYSTEM_GALILEO, 301⟩
    locOutputEngMask := PositioningEngineBits.STANDARD_POSITIONING_ENGINE.header |||
      PositioningEngineBits.DEAD_RECKONING_ENGINE.header
    sessionStatus := .LOC_SESS_INTERMEDIATE }

/-- Two satellites with an ephemeris that are used in the fix. -/
def satelliteReport : GnssSvNotification where
  count := 2
  gnssSignalTypeMaskValid := true
  gnssSvs := .replicate _ { (default : GnssSv) with
    svId := 301
    type := .GNSS_SV_TYPE_GALILEO
    gnssSvOptionsMask := BitVec.setWidth 16 (GnssSvOptionsBits.GNSS_SV_OPTIONS_HAS_EPHEMER_BIT.header |||
      GnssSvOptionsBits.GNSS_SV_OPTIONS_USED_IN_FIX_BIT.header)
    gnssSignalTypeMask := GnssSignalTypeBits.GNSS_SIGNAL_GALILEO_E1.header }

/-- Measurements that fill the array, of a satellite without a number and in a leap second. -/
def measurementReport : GnssMeasurementsNotification where
  count := 128
  measurements := .replicate _ { (default : GnssMeasurementsData) with
    svId := -1
    flags := GnssMeasurementsDataFlagsBits.GNSS_MEASUREMENTS_DATA_STATE_BIT.header
    stateMask := GnssMeasurementsStateBits.GNSS_MEASUREMENTS_STATE_CODE_LOCK_BIT.header }
  clock := { (default : GnssMeasurementsClock) with
    flags := GnssMeasurementsClockFlagsBits.GNSS_MEASUREMENTS_CLOCK_FLAGS_LEAP_SECOND_BIT.header
    leapSecond := -18 }

section Known

variable {α : Type} {n count : ℕ} {a b : α}

theorem eq_of_mem_front_replicate (used : b ∈ (Vector.replicate n a).front count) : b = a := by
  have inside := List.mem_of_mem_take used
  rw [Vector.toList_replicate] at inside
  exact List.eq_of_mem_replicate inside

theorem positionReport_known : positionReport.Known where
  location := ⟨.flag LocationFlagsBits.header .LOCATION_HAS_LAT_LONG_BIT, .zero⟩
  flags := .or (.flag (Sum.elim _ _) (.inl GnssLocationInfoFlagBits.GNSS_LOCATION_INFO_DOP_BIT))
    (.flag (Sum.elim _ _) (.inr GnssLocationInfoExtFlagBits.GNSS_LOCATION_INFO_SESSION_STATUS_BIT))
  navSolutionMask := .zero
  bodyFrameData := .flag GnssLocationPosDataBits.header .LOCATION_NAV_DATA_HAS_PITCH_BIT
  bodyFrameDataExt := .flag GnssLocationPosDataBitsExt.header .LOCATION_NAV_DATA_HAS_ROLL_BIT
  gnssSystemTime := ⟨.flag GnssGloTimeTypeBits.header .GNSS_CLO_DAYS_VALID⟩
  numOfMeasReceived := by decide
  measUsageInfo := by
    intro info used
    obtain rfl := eq_of_mem_front_replicate used
    exact ⟨.flag GnssSignalTypeBits.header .GNSS_SIGNAL_GALILEO_E1⟩
  calibrationStatus := .zero
  locOutputEngType := by rintro ⟨⟩
  locOutputEngMask := .or (.flag PositioningEngineBits.header .STANDARD_POSITIONING_ENGINE)
    (.flag PositioningEngineBits.header .DEAD_RECKONING_ENGINE)
  drSolutionStatusMask := .zero

theorem satelliteReport_known : satelliteReport.Known where
  count := by decide
  gnssSvs := by
    intro sv used
    obtain rfl := eq_of_mem_front_replicate used
    exact ⟨.or (.flag GnssSvOptionsBits.header .GNSS_SV_OPTIONS_HAS_EPHEMER_BIT)
      (.flag GnssSvOptionsBits.header .GNSS_SV_OPTIONS_USED_IN_FIX_BIT),
      .flag GnssSignalTypeBits.header .GNSS_SIGNAL_GALILEO_E1⟩

theorem measurementReport_known : measurementReport.Known where
  count := by decide
  measurements := by
    intro data used
    obtain rfl := eq_of_mem_front_replicate used
    exact ⟨.flag GnssMeasurementsDataFlagsBits.header .GNSS_MEASUREMENTS_DATA_STATE_BIT,
      .flag GnssMeasurementsStateBits.header .GNSS_MEASUREMENTS_STATE_CODE_LOCK_BIT, .zero, .zero⟩
  clock := ⟨.flag GnssMeasurementsClockFlagsBits.header .GNSS_MEASUREMENTS_CLOCK_FLAGS_LEAP_SECOND_BIT⟩

end Known

theorem reports_survive_examples :
    (pbConvertToGnssLocInfoNotif (convertGnssLocInfoNotifToPB positionReport) default).Agrees positionReport ∧
    (pbConvertToGnssSvNotif (convertGnssSvNotifToPB satelliteReport) default).Agrees satelliteReport ∧
    (pbConvertToGnssMeasNotification (convertGnssMeasNotifToPB measurementReport) default).Agrees measurementReport :=
  ⟨reports_survive.1 _ positionReport_known _, reports_survive.2.1 _ satelliteReport_known _,
    reports_survive.2.2 _ measurementReport_known _⟩

end Cypfr.LocationApiPb
