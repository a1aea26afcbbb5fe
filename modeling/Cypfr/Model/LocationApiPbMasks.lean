import Cypfr.ToMathlib.BitMask

/-! # Masks of the location messages

`location_api_msg_proto/src/LocationApiPbMsgConv.cpp`: the masks of a report are translated flag by flag between
`gps/location/LocationDataTypes.h`, whose bits are `header`, and `LocationApiDataTypes.proto`, whose bits are
`proto`. The flags are those with a bit in both, in the order in which the functions test them. In the messages a
flag has the same name after `PB_`; those of signals end with `_BIT`, and `CALIBRATION_CONFIDENCE` is
`CALIBRATION_CONFIDENCE_PERCENT`.
-/

open BitMask

namespace Cypfr.LocationApiPb

inductive LocationFlagsBits where
  | LOCATION_HAS_LAT_LONG_BIT | LOCATION_HAS_ALTITUDE_BIT | LOCATION_HAS_SPEED_BIT | LOCATION_HAS_BEARING_BIT
  | LOCATION_HAS_ACCURACY_BIT | LOCATION_HAS_VERTICAL_ACCURACY_BIT | LOCATION_HAS_SPEED_ACCURACY_BIT
  | LOCATION_HAS_BEARING_ACCURACY_BIT
  deriving DecidableEq

namespace LocationFlagsBits

def header : LocationFlagsBits → BitVec 32
  | .LOCATION_HAS_LAT_LONG_BIT => 1 <<< 0 | .LOCATION_HAS_ALTITUDE_BIT => 1 <<< 1
  | .LOCATION_HAS_SPEED_BIT => 1 <<< 2 | .LOCATION_HAS_BEARING_BIT => 1 <<< 3
  | .LOCATION_HAS_ACCURACY_BIT => 1 <<< 4 | .LOCATION_HAS_VERTICAL_ACCURACY_BIT => 1 <<< 5
  | .LOCATION_HAS_SPEED_ACCURACY_BIT => 1 <<< 6 | .LOCATION_HAS_BEARING_ACCURACY_BIT => 1 <<< 7

def proto : LocationFlagsBits → BitVec 32
  | .LOCATION_HAS_LAT_LONG_BIT => 1 | .LOCATION_HAS_ALTITUDE_BIT => 2 | .LOCATION_HAS_SPEED_BIT => 4
  | .LOCATION_HAS_BEARING_BIT => 8 | .LOCATION_HAS_ACCURACY_BIT => 16 | .LOCATION_HAS_VERTICAL_ACCURACY_BIT => 32
  | .LOCATION_HAS_SPEED_ACCURACY_BIT => 64 | .LOCATION_HAS_BEARING_ACCURACY_BIT => 128

def all : List LocationFlagsBits :=
  [.LOCATION_HAS_LAT_LONG_BIT, .LOCATION_HAS_ALTITUDE_BIT, .LOCATION_HAS_SPEED_BIT, .LOCATION_HAS_BEARING_BIT,
   .LOCATION_HAS_ACCURACY_BIT, .LOCATION_HAS_VERTICAL_ACCURACY_BIT, .LOCATION_HAS_SPEED_ACCURACY_BIT,
   .LOCATION_HAS_BEARING_ACCURACY_BIT]

end LocationFlagsBits

inductive LocationTechnologyBits where
  | LOCATION_TECHNOLOGY_GNSS_BIT | LOCATION_TECHNOLOGY_CELL_BIT | LOCATION_TECHNOLOGY_WIFI_BIT
  | LOCATION_TECHNOLOGY_SENSORS_BIT | LOCATION_TECHNOLOGY_REFERENCE_LOCATION_BIT
  | LOCATION_TECHNOLOGY_INJECTED_COARSE_POSITION_BIT | LOCATION_TECHNOLOGY_AFLT_BIT | LOCATION_TECHNOLOGY_HYBRID_BIT
  | LOCATION_TECHNOLOGY_PPE_BIT | LOCATION_TECHNOLOGY_VEH_BIT | LOCATION_TECHNOLOGY_VIS_BIT
  deriving DecidableEq

namespace LocationTechnologyBits

def header : LocationTechnologyBits → BitVec 32
  | .LOCATION_TECHNOLOGY_GNSS_BIT => 1 <<< 0 | .LOCATION_TECHNOLOGY_CELL_BIT => 1 <<< 1
  | .LOCATION_TECHNOLOGY_WIFI_BIT => 1 <<< 2 | .LOCATION_TECHNOLOGY_SENSORS_BIT => 1 <<< 3
  | .LOCATION_TECHNOLOGY_REFERENCE_LOCATION_BIT => 1 <<< 4
  | .LOCATION_TECHNOLOGY_INJECTED_COARSE_POSITION_BIT => 1 <<< 5 | .LOCATION_TECHNOLOGY_AFLT_BIT => 1 <<< 6
  | .LOCATION_TECHNOLOGY_HYBRID_BIT => 1 <<< 7 | .LOCATION_TECHNOLOGY_PPE_BIT => 1 <<< 8
  | .LOCATION_TECHNOLOGY_VEH_BIT => 1 <<< 9 | .LOCATION_TECHNOLOGY_VIS_BIT => 1 <<< 10

def proto : LocationTechnologyBits → BitVec 32
  | .LOCATION_TECHNOLOGY_GNSS_BIT => 1 | .LOCATION_TECHNOLOGY_CELL_BIT => 2 | .LOCATION_TECHNOLOGY_WIFI_BIT => 4
  | .LOCATION_TECHNOLOGY_SENSORS_BIT => 8 | .LOCATION_TECHNOLOGY_REFERENCE_LOCATION_BIT => 16
  | .LOCATION_TECHNOLOGY_INJECTED_COARSE_POSITION_BIT => 32 | .LOCATION_TECHNOLOGY_AFLT_BIT => 64
  | .LOCATION_TECHNOLOGY_HYBRID_BIT => 128 | .LOCATION_TECHNOLOGY_PPE_BIT => 256
  | .LOCATION_TECHNOLOGY_VEH_BIT => 512 | .LOCATION_TECHNOLOGY_VIS_BIT => 1024

def all : List LocationTechnologyBits :=
  [.LOCATION_TECHNOLOGY_GNSS_BIT, .LOCATION_TECHNOLOGY_CELL_BIT, .LOCATION_TECHNOLOGY_WIFI_BIT,
   .LOCATION_TECHNOLOGY_SENSORS_BIT, .LOCATION_TECHNOLOGY_REFERENCE_LOCATION_BIT,
   .LOCATION_TECHNOLOGY_INJECTED_COARSE_POSITION_BIT, .LOCATION_TECHNOLOGY_AFLT_BIT, .LOCATION_TECHNOLOGY_HYBRID_BIT,
   .LOCATION_TECHNOLOGY_PPE_BIT, .LOCATION_TECHNOLOGY_VEH_BIT, .LOCATION_TECHNOLOGY_VIS_BIT]

end LocationTechnologyBits

inductive GnssLocationNavSolutionBits where
  | LOCATION_SBAS_CORRECTION_IONO_BIT | LOCATION_SBAS_CORRECTION_FAST_BIT | LOCATION_SBAS_CORRECTION_LONG_BIT
  | LOCATION_SBAS_INTEGRITY_BIT | LOCATION_NAV_CORRECTION_DGNSS_BIT | LOCATION_NAV_CORRECTION_RTK_BIT
  | LOCATION_NAV_CORRECTION_PPP_BIT | LOCATION_NAV_CORRECTION_RTK_FIXED_BIT
  | LOCATION_NAV_CORRECTION_ONLY_SBAS_CORRECTED_SV_USED_BIT
  deriving DecidableEq

namespace GnssLocationNavSolutionBits

def header : GnssLocationNavSolutionBits → BitVec 32
  | .LOCATION_SBAS_CORRECTION_IONO_BIT => 1 <<< 0 | .LOCATION_SBAS_CORRECTION_FAST_BIT => 1 <<< 1
  | .LOCATION_SBAS_CORRECTION_LONG_BIT => 1 <<< 2 | .LOCATION_SBAS_INTEGRITY_BIT => 1 <<< 3
  | .LOCATION_NAV_CORRECTION_DGNSS_BIT => 1 <<< 4 | .LOCATION_NAV_CORRECTION_RTK_BIT => 1 <<< 5
  | .LOCATION_NAV_CORRECTION_PPP_BIT => 1 <<< 6 | .LOCATION_NAV_CORRECTION_RTK_FIXED_BIT => 1 <<< 7
  | .LOCATION_NAV_CORRECTION_ONLY_SBAS_CORRECTED_SV_USED_BIT => 1 <<< 8

def proto : GnssLocationNavSolutionBits → BitVec 32
  | .LOCATION_SBAS_CORRECTION_IONO_BIT => 1 | .LOCATION_SBAS_CORRECTION_FAST_BIT => 2
  | .LOCATION_SBAS_CORRECTION_LONG_BIT => 4 | .LOCATION_SBAS_INTEGRITY_BIT => 8
  | .LOCATION_NAV_CORRECTION_DGNSS_BIT => 16 | .LOCATION_NAV_CORRECTION_RTK_BIT => 32
  | .LOCATION_NAV_CORRECTION_PPP_BIT => 64 | .LOCATION_NAV_CORRECTION_RTK_FIXED_BIT => 128
  | .LOCATION_NAV_CORRECTION_ONLY_SBAS_CORRECTED_SV_USED_BIT => 256

def all : List GnssLocationNavSolutionBits :=
  [.LOCATION_SBAS_CORRECTION_IONO_BIT, .LOCATION_SBAS_CORRECTION_FAST_BIT, .LOCATION_SBAS_CORRECTION_LONG_BIT,
   .LOCATION_SBAS_INTEGRITY_BIT, .LOCATION_NAV_CORRECTION_DGNSS_BIT, .LOCATION_NAV_CORRECTION_RTK_BIT,
   .LOCATION_NAV_CORRECTION_PPP_BIT, .LOCATION_NAV_CORRECTION_RTK_FIXED_BIT,
   .LOCATION_NAV_CORRECTION_ONLY_SBAS_CORRECTED_SV_USED_BIT]

end GnssLocationNavSolutionBits

inductive DrCalibrationStatusBits where
  | DR_ROLL_CALIBRATION_NEEDED | DR_PITCH_CALIBRATION_NEEDED | DR_YAW_CALIBRATION_NEEDED | DR_ODO_CALIBRATION_NEEDED
  | DR_GYRO_CALIBRATION_NEEDED
  deriving DecidableEq

namespace DrCalibrationStatusBits

def header : DrCalibrationStatusBits → BitVec 32
  | .DR_ROLL_CALIBRATION_NEEDED => 1 <<< 0 | .DR_PITCH_CALIBRATION_NEEDED => 1 <<< 1
  | .DR_YAW_CALIBRATION_NEEDED => 1 <<< 2 | .DR_ODO_CALIBRATION_NEEDED => 1 <<< 3
  | .DR_GYRO_CALIBRATION_NEEDED => 1 <<< 4

def proto : DrCalibrationStatusBits → BitVec 32
  | .DR_ROLL_CALIBRATION_NEEDED => 1 | .DR_PITCH_CALIBRATION_NEEDED => 2 | .DR_YAW_CALIBRATION_NEEDED => 4
  | .DR_ODO_CALIBRATION_NEEDED => 8 | .DR_GYRO_CALIBRATION_NEEDED => 16

def all : List DrCalibrationStatusBits :=
  [.DR_ROLL_CALIBRATION_NEEDED, .DR_PITCH_CALIBRATION_NEEDED, .DR_YAW_CALIBRATION_NEEDED, .DR_ODO_CALIBRATION_NEEDED,
   .DR_GYRO_CALIBRATION_NEEDED]

end DrCalibrationStatusBits

inductive PositioningEngineBits where
  | STANDARD_POSITIONING_ENGINE | DEAD_RECKONING_ENGINE | PRECISE_POSITIONING_ENGINE
  deriving DecidableEq

namespace PositioningEngineBits

def header : PositioningEngineBits → BitVec 32
  | .STANDARD_POSITIONING_ENGINE => 1 <<< 0 | .DEAD_RECKONING_ENGINE => 1 <<< 1
  | .PRECISE_POSITIONING_ENGINE => 1 <<< 2

def proto : PositioningEngineBits → BitVec 32
  | .STANDARD_POSITIONING_ENGINE => 1 | .DEAD_RECKONING_ENGINE => 2 | .PRECISE_POSITIONING_ENGINE => 4

def all : List PositioningEngineBits :=
  [.STANDARD_POSITIONING_ENGINE, .DEAD_RECKONING_ENGINE, .PRECISE_POSITIONING_ENGINE]

end PositioningEngineBits

inductive DrSolutionStatusBits where
  | VEHICLE_SENSOR_SPEED_INPUT_DETECTED | VEHICLE_SENSOR_SPEED_INPUT_USED
  deriving DecidableEq

namespace DrSolutionStatusBits

def header : DrSolutionStatusBits → BitVec 32
  | .VEHICLE_SENSOR_SPEED_INPUT_DETECTED => 1 <<< 0 | .VEHICLE_SENSOR_SPEED_INPUT_USED => 1 <<< 1

def proto : DrSolutionStatusBits → BitVec 32
  | .VEHICLE_SENSOR_SPEED_INPUT_DETECTED => 1 | .VEHICLE_SENSOR_SPEED_INPUT_USED => 2

def all : List DrSolutionStatusBits :=
  [.VEHICLE_SENSOR_SPEED_INPUT_DETECTED, .VEHICLE_SENSOR_SPEED_INPUT_USED]

end DrSolutionStatusBits

inductive GnssSystemTimeTypeBits where
  | GNSS_SYSTEM_TIME_WEEK_VALID | GNSS_SYSTEM_TIME_WEEK_MS_VALID | GNSS_SYSTEM_CLK_TIME_BIAS_VALID
  | GNSS_SYSTEM_CLK_TIME_BIAS_UNC_VALID | GNSS_SYSTEM_REF_FCOUNT_VALID | GNSS_SYSTEM_NUM_CLOCK_RESETS_VALID
  deriving DecidableEq

namespace GnssSystemTimeTypeBits

def header : GnssSystemTimeTypeBits → BitVec 32
  | .GNSS_SYSTEM_TIME_WEEK_VALID => 1 <<< 0 | .GNSS_SYSTEM_TIME_WEEK_MS_VALID => 1 <<< 1
  | .GNSS_SYSTEM_CLK_TIME_BIAS_VALID => 1 <<< 2 | .GNSS_SYSTEM_CLK_TIME_BIAS_UNC_VALID => 1 <<< 3
  | .GNSS_SYSTEM_REF_FCOUNT_VALID => 1 <<< 4 | .GNSS_SYSTEM_NUM_CLOCK_RESETS_VALID => 1 <<< 5

def proto : GnssSystemTimeTypeBits → BitVec 32
  | .GNSS_SYSTEM_TIME_WEEK_VALID => 1 | .GNSS_SYSTEM_TIME_WEEK_MS_VALID => 2 | .GNSS_SYSTEM_CLK_TIME_BIAS_VALID => 4
  | .GNSS_SYSTEM_CLK_TIME_BIAS_UNC_VALID => 8 | .GNSS_SYSTEM_REF_FCOUNT_VALID => 16
  | .GNSS_SYSTEM_NUM_CLOCK_RESETS_VALID => 32

def all : List GnssSystemTimeTypeBits :=
  [.GNSS_SYSTEM_TIME_WEEK_VALID, .GNSS_SYSTEM_TIME_WEEK_MS_VALID, .GNSS_SYSTEM_CLK_TIME_BIAS_VALID,
   .GNSS_SYSTEM_CLK_TIME_BIAS_UNC_VALID, .GNSS_SYSTEM_REF_FCOUNT_VALID, .GNSS_SYSTEM_NUM_CLOCK_RESETS_VALID]

end GnssSystemTimeTypeBits

inductive GnssGloTimeTypeBits where
  | GNSS_CLO_DAYS_VALID | GNSS_GLO_MSEC_VALID | GNSS_GLO_CLK_TIME_BIAS_VALID | GNSS_GLO_CLK_TIME_BIAS_UNC_VALID
  | GNSS_GLO_REF_FCOUNT_VALID | GNSS_GLO_NUM_CLOCK_RESETS_VALID | GNSS_GLO_FOUR_YEAR_VALID
  deriving DecidableEq

namespace GnssGloTimeTypeBits

def header : GnssGloTimeTypeBits → BitVec 32
  | .GNSS_CLO_DAYS_VALID => 1 <<< 0 | .GNSS_GLO_MSEC_VALID => 1 <<< 1 | .GNSS_GLO_CLK_TIME_BIAS_VALID => 1 <<< 2
  | .GNSS_GLO_CLK_TIME_BIAS_UNC_VALID => 1 <<< 3 | .GNSS_GLO_REF_FCOUNT_VALID => 1 <<< 4
  | .GNSS_GLO_NUM_CLOCK_RESETS_VALID => 1 <<< 5 | .GNSS_GLO_FOUR_YEAR_VALID => 1 <<< 6

def proto : GnssGloTimeTypeBits → BitVec 32
  | .GNSS_CLO_DAYS_VALID => 2 | .GNSS_GLO_MSEC_VALID => 4 | .GNSS_GLO_CLK_TIME_BIAS_VALID => 8
  | .GNSS_GLO_CLK_TIME_BIAS_UNC_VALID => 16 | .GNSS_GLO_REF_FCOUNT_VALID => 32
  | .GNSS_GLO_NUM_CLOCK_RESETS_VALID => 64 | .GNSS_GLO_FOUR_YEAR_VALID => 1

def all : List GnssGloTimeTypeBits :=
  [.GNSS_CLO_DAYS_VALID, .GNSS_GLO_MSEC_VALID, .GNSS_GLO_CLK_TIME_BIAS_VALID, .GNSS_GLO_CLK_TIME_BIAS_UNC_VALID,
   .GNSS_GLO_REF_FCOUNT_VALID, .GNSS_GLO_NUM_CLOCK_RESETS_VALID, .GNSS_GLO_FOUR_YEAR_VALID]

end GnssGloTimeTypeBits

inductive GnssSvOptionsBits where
  | GNSS_SV_OPTIONS_HAS_EPHEMER_BIT | GNSS_SV_OPTIONS_HAS_ALMANAC_BIT | GNSS_SV_OPTIONS_USED_IN_FIX_BIT
  | GNSS_SV_OPTIONS_HAS_CARRIER_FREQUENCY_BIT | GNSS_SV_OPTIONS_HAS_GNSS_SIGNAL_TYPE_BIT
  deriving DecidableEq

namespace GnssSvOptionsBits

def header : GnssSvOptionsBits → BitVec 32
  | .GNSS_SV_OPTIONS_HAS_EPHEMER_BIT => 1 <<< 0 | .GNSS_SV_OPTIONS_HAS_ALMANAC_BIT => 1 <<< 1
  | .GNSS_SV_OPTIONS_USED_IN_FIX_BIT => 1 <<< 2 | .GNSS_SV_OPTIONS_HAS_CARRIER_FREQUENCY_BIT => 1 <<< 3
  | .GNSS_SV_OPTIONS_HAS_GNSS_SIGNAL_TYPE_BIT => 1 <<< 4

def proto : GnssSvOptionsBits → BitVec 32
  | .GNSS_SV_OPTIONS_HAS_EPHEMER_BIT => 1 | .GNSS_SV_OPTIONS_HAS_ALMANAC_BIT => 2
  | .GNSS_SV_OPTIONS_USED_IN_FIX_BIT => 4 | .GNSS_SV_OPTIONS_HAS_CARRIER_FREQUENCY_BIT => 8
  | .GNSS_SV_OPTIONS_HAS_GNSS_SIGNAL_TYPE_BIT => 16

def all : List GnssSvOptionsBits :=
  [.GNSS_SV_OPTIONS_HAS_EPHEMER_BIT, .GNSS_SV_OPTIONS_HAS_ALMANAC_BIT, .GNSS_SV_OPTIONS_USED_IN_FIX_BIT,
   .GNSS_SV_OPTIONS_HAS_CARRIER_FREQUENCY_BIT, .GNSS_SV_OPTIONS_HAS_GNSS_SIGNAL_TYPE_BIT]

end GnssSvOptionsBits

inductive GnssSignalTypeBits where
  | GNSS_SIGNAL_GPS_L1CA | GNSS_SIGNAL_GPS_L1C | GNSS_SIGNAL_GPS_L2 | GNSS_SIGNAL_GPS_L5 | GNSS_SIGNAL_GLONASS_G1
  | GNSS_SIGNAL_GLONASS_G2 | GNSS_SIGNAL_GALILEO_E1 | GNSS_SIGNAL_GALILEO_E5A | GNSS_SIGNAL_GALILEO_E5B
  | GNSS_SIGNAL_BEIDOU_B1 | GNSS_SIGNAL_BEIDOU_B2 | GNSS_SIGNAL_QZSS_L1CA | GNSS_SIGNAL_QZSS_L1S
  | GNSS_SIGNAL_QZSS_L2 | GNSS_SIGNAL_QZSS_L5 | GNSS_SIGNAL_SBAS_L1 | GNSS_SIGNAL_BEIDOU_B1I
  | GNSS_SIGNAL_BEIDOU_B1C | GNSS_SIGNAL_BEIDOU_B2I | GNSS_SIGNAL_BEIDOU_B2AI | GNSS_SIGNAL_NAVIC_L5
  | GNSS_SIGNAL_BEIDOU_B2AQ
  deriving DecidableEq

namespace GnssSignalTypeBits

def header : GnssSignalTypeBits → BitVec 32
  | .GNSS_SIGNAL_GPS_L1CA => 1 <<< 0 | .GNSS_SIGNAL_GPS_L1C => 1 <<< 1 | .GNSS_SIGNAL_GPS_L2 => 1 <<< 2
  | .GNSS_SIGNAL_GPS_L5 => 1 <<< 3 | .GNSS_SIGNAL_GLONASS_G1 => 1 <<< 4 | .GNSS_SIGNAL_GLONASS_G2 => 1 <<< 5
  | .GNSS_SIGNAL_GALILEO_E1 => 1 <<< 6 | .GNSS_SIGNAL_GALILEO_E5A => 1 <<< 7 | .GNSS_SIGNAL_GALILEO_E5B => 1 <<< 8
  | .GNSS_SIGNAL_BEIDOU_B1 => 1 <<< 9 | .GNSS_SIGNAL_BEIDOU_B2 => 1 <<< 10 | .GNSS_SIGNAL_QZSS_L1CA => 1 <<< 11
  | .GNSS_SIGNAL_QZSS_L1S => 1 <<< 12 | .GNSS_SIGNAL_QZSS_L2 => 1 <<< 13 | .GNSS_SIGNAL_QZSS_L5 => 1 <<< 14
  | .GNSS_SIGNAL_SBAS_L1 => 1 <<< 15 | .GNSS_SIGNAL_BEIDOU_B1I => 1 <<< 16 | .GNSS_SIGNAL_BEIDOU_B1C => 1 <<< 17
  | .GNSS_SIGNAL_BEIDOU_B2I => 1 <<< 18 | .GNSS_SIGNAL_BEIDOU_B2AI => 1 <<< 19 | .GNSS_SIGNAL_NAVIC_L5 => 1 <<< 20
  | .GNSS_SIGNAL_BEIDOU_B2AQ => 1 <<< 21

def proto : GnssSignalTypeBits → BitVec 32
  | .GNSS_SIGNAL_GPS_L1CA => 1 | .GNSS_SIGNAL_GPS_L1C => 2 | .GNSS_SIGNAL_GPS_L2 => 4 | .GNSS_SIGNAL_GPS_L5 => 8
  | .GNSS_SIGNAL_GLONASS_G1 => 16 | .GNSS_SIGNAL_GLONASS_G2 => 32 | .GNSS_SIGNAL_GALILEO_E1 => 64
  | .GNSS_SIGNAL_GALILEO_E5A => 128 | .GNSS_SIGNAL_GALILEO_E5B => 256 | .GNSS_SIGNAL_BEIDOU_B1 => 512
  | .GNSS_SIGNAL_BEIDOU_B2 => 1024 | .GNSS_SIGNAL_QZSS_L1CA => 2048 | .GNSS_SIGNAL_QZSS_L1S => 4096
  | .GNSS_SIGNAL_QZSS_L2 => 8192 | .GNSS_SIGNAL_QZSS_L5 => 16384 | .GNSS_SIGNAL_SBAS_L1 => 32768
  | .GNSS_SIGNAL_BEIDOU_B1I => 65536 | .GNSS_SIGNAL_BEIDOU_B1C => 131072 | .GNSS_SIGNAL_BEIDOU_B2I => 262144
  | .GNSS_SIGNAL_BEIDOU_B2AI => 524288 | .GNSS_SIGNAL_NAVIC_L5 => 1048576 | .GNSS_SIGNAL_BEIDOU_B2AQ => 2097152

def all : List GnssSignalTypeBits :=
  [.GNSS_SIGNAL_GPS_L1CA, .GNSS_SIGNAL_GPS_L1C, .GNSS_SIGNAL_GPS_L2, .GNSS_SIGNAL_GPS_L5, .GNSS_SIGNAL_GLONASS_G1,
   .GNSS_SIGNAL_GLONASS_G2, .GNSS_SIGNAL_GALILEO_E1, .GNSS_SIGNAL_GALILEO_E5A, .GNSS_SIGNAL_GALILEO_E5B,
   .GNSS_SIGNAL_BEIDOU_B1, .GNSS_SIGNAL_BEIDOU_B2, .GNSS_SIGNAL_QZSS_L1CA, .GNSS_SIGNAL_QZSS_L1S,
   .GNSS_SIGNAL_QZSS_L2, .GNSS_SIGNAL_QZSS_L5, .GNSS_SIGNAL_SBAS_L1, .GNSS_SIGNAL_BEIDOU_B1I,
   .GNSS_SIGNAL_BEIDOU_B1C, .GNSS_SIGNAL_BEIDOU_B2I, .GNSS_SIGNAL_BEIDOU_B2AI, .GNSS_SIGNAL_NAVIC_L5,
   .GNSS_SIGNAL_BEIDOU_B2AQ]

end GnssSignalTypeBits

inductive GnssMeasurementsDataFlagsBits where
  | GNSS_MEASUREMENTS_DATA_SV_ID_BIT | GNSS_MEASUREMENTS_DATA_SV_TYPE_BIT | GNSS_MEASUREMENTS_DATA_STATE_BIT
  | GNSS_MEASUREMENTS_DATA_RECEIVED_SV_TIME_BIT | GNSS_MEASUREMENTS_DATA_RECEIVED_SV_TIME_UNCERTAINTY_BIT
  | GNSS_MEASUREMENTS_DATA_CARRIER_TO_NOISE_BIT | GNSS_MEASUREMENTS_DATA_PSEUDORANGE_RATE_BIT
  | GNSS_MEASUREMENTS_DATA_PSEUDORANGE_RATE_UNCERTAINTY_BIT | GNSS_MEASUREMENTS_DATA_ADR_STATE_BIT
  | GNSS_MEASUREMENTS_DATA_ADR_BIT | GNSS_MEASUREMENTS_DATA_ADR_UNCERTAINTY_BIT
  | GNSS_MEASUREMENTS_DATA_CARRIER_FREQUENCY_BIT | GNSS_MEASUREMENTS_DATA_CARRIER_CYCLES_BIT
  | GNSS_MEASUREMENTS_DATA_CARRIER_PHASE_BIT | GNSS_MEASUREMENTS_DATA_CARRIER_PHASE_UNCERTAINTY_BIT
  | GNSS_MEASUREMENTS_DATA_MULTIPATH_INDICATOR_BIT | GNSS_MEASUREMENTS_DATA_SIGNAL_TO_NOISE_RATIO_BIT
  | GNSS_MEASUREMENTS_DATA_AUTOMATIC_GAIN_CONTROL_BIT | GNSS_MEASUREMENTS_DATA_FULL_ISB_BIT
  | GNSS_MEASUREMENTS_DATA_FULL_ISB_UNCERTAINTY_BIT | GNSS_MEASUREMENTS_DATA_CYCLE_SLIP_COUNT_BIT
  deriving DecidableEq

namespace GnssMeasurementsDataFlagsBits

def header : GnssMeasurementsDataFlagsBits → BitVec 32
  | .GNSS_MEASUREMENTS_DATA_SV_ID_BIT => 1 <<< 0 | .GNSS_MEASUREMENTS_DATA_SV_TYPE_BIT => 1 <<< 1
  | .GNSS_MEASUREMENTS_DATA_STATE_BIT => 1 <<< 2 | .GNSS_MEASUREMENTS_DATA_RECEIVED_SV_TIME_BIT => 1 <<< 3
  | .GNSS_MEASUREMENTS_DATA_RECEIVED_SV_TIME_UNCERTAINTY_BIT => 1 <<< 4
  | .GNSS_MEASUREMENTS_DATA_CARRIER_TO_NOISE_BIT => 1 <<< 5
  | .GNSS_MEASUREMENTS_DATA_PSEUDORANGE_RATE_BIT => 1 <<< 6
  | .GNSS_MEASUREMENTS_DATA_PSEUDORANGE_RATE_UNCERTAINTY_BIT => 1 <<< 7
  | .GNSS_MEASUREMENTS_DATA_ADR_STATE_BIT => 1 <<< 8 | .GNSS_MEASUREMENTS_DATA_ADR_BIT => 1 <<< 9
  | .GNSS_MEASUREMENTS_DATA_ADR_UNCERTAINTY_BIT => 1 <<< 10
  | .GNSS_MEASUREMENTS_DATA_CARRIER_FREQUENCY_BIT => 1 <<< 11
  | .GNSS_MEASUREMENTS_DATA_CARRIER_CYCLES_BIT => 1 <<< 12 | .GNSS_MEASUREMENTS_DATA_CARRIER_PHASE_BIT => 1 <<< 13
  | .GNSS_MEASUREMENTS_DATA_CARRIER_PHASE_UNCERTAINTY_BIT => 1 <<< 14
  | .GNSS_MEASUREMENTS_DATA_MULTIPATH_INDICATOR_BIT => 1 <<< 15
  | .GNSS_MEASUREMENTS_DATA_SIGNAL_TO_NOISE_RATIO_BIT => 1 <<< 16
  | .GNSS_MEASUREMENTS_DATA_AUTOMATIC_GAIN_CONTROL_BIT => 1 <<< 17
  | .GNSS_MEASUREMENTS_DATA_FULL_ISB_BIT => 1 <<< 18 | .GNSS_MEASUREMENTS_DATA_FULL_ISB_UNCERTAINTY_BIT => 1 <<< 19
  | .GNSS_MEASUREMENTS_DATA_CYCLE_SLIP_COUNT_BIT => 1 <<< 22

def proto : GnssMeasurementsDataFlagsBits → BitVec 32
  | .GNSS_MEASUREMENTS_DATA_SV_ID_BIT => 1 | .GNSS_MEASUREMENTS_DATA_SV_TYPE_BIT => 2
  | .GNSS_MEASUREMENTS_DATA_STATE_BIT => 4 | .GNSS_MEASUREMENTS_DATA_RECEIVED_SV_TIME_BIT => 8
  | .GNSS_MEASUREMENTS_DATA_RECEIVED_SV_TIME_UNCERTAINTY_BIT => 16
  | .GNSS_MEASUREMENTS_DATA_CARRIER_TO_NOISE_BIT => 32 | .GNSS_MEASUREMENTS_DATA_PSEUDORANGE_RATE_BIT => 64
  | .GNSS_MEASUREMENTS_DATA_PSEUDORANGE_RATE_UNCERTAINTY_BIT => 128 | .GNSS_MEASUREMENTS_DATA_ADR_STATE_BIT => 256
  | .GNSS_MEASUREMENTS_DATA_ADR_BIT => 512 | .GNSS_MEASUREMENTS_DATA_ADR_UNCERTAINTY_BIT => 1024
  | .GNSS_MEASUREMENTS_DATA_CARRIER_FREQUENCY_BIT => 2048 | .GNSS_MEASUREMENTS_DATA_CARRIER_CYCLES_BIT => 4096
  | .GNSS_MEASUREMENTS_DATA_CARRIER_PHASE_BIT => 8192
  | .GNSS_MEASUREMENTS_DATA_CARRIER_PHASE_UNCERTAINTY_BIT => 16384
  | .GNSS_MEASUREMENTS_DATA_MULTIPATH_INDICATOR_BIT => 32768
  | .GNSS_MEASUREMENTS_DATA_SIGNAL_TO_NOISE_RATIO_BIT => 65536
  | .GNSS_MEASUREMENTS_DATA_AUTOMATIC_GAIN_CONTROL_BIT => 131072 | .GNSS_MEASUREMENTS_DATA_FULL_ISB_BIT => 262144
  | .GNSS_MEASUREMENTS_DATA_FULL_ISB_UNCERTAINTY_BIT => 524288
  | .GNSS_MEASUREMENTS_DATA_CYCLE_SLIP_COUNT_BIT => 1048576

def all : List GnssMeasurementsDataFlagsBits :=
  [.GNSS_MEASUREMENTS_DATA_SV_ID_BIT, .GNSS_MEASUREMENTS_DATA_SV_TYPE_BIT, .GNSS_MEASUREMENTS_DATA_STATE_BIT,
   .GNSS_MEASUREMENTS_DATA_RECEIVED_SV_TIME_BIT, .GNSS_MEASUREMENTS_DATA_RECEIVED_SV_TIME_UNCERTAINTY_BIT,
   .GNSS_MEASUREMENTS_DATA_CARRIER_TO_NOISE_BIT, .GNSS_MEASUREMENTS_DATA_PSEUDORANGE_RATE_BIT,
   .GNSS_MEASUREMENTS_DATA_PSEUDORANGE_RATE_UNCERTAINTY_BIT, .GNSS_MEASUREMENTS_DATA_ADR_STATE_BIT,
   .GNSS_MEASUREMENTS_DATA_ADR_BIT, .GNSS_MEASUREMENTS_DATA_ADR_UNCERTAINTY_BIT,
   .GNSS_MEASUREMENTS_DATA_CARRIER_FREQUENCY_BIT, .GNSS_MEASUREMENTS_DATA_CARRIER_CYCLES_BIT,
   .GNSS_MEASUREMENTS_DATA_CARRIER_PHASE_BIT, .GNSS_MEASUREMENTS_DATA_CARRIER_PHASE_UNCERTAINTY_BIT,
   .GNSS_MEASUREMENTS_DATA_MULTIPATH_INDICATOR_BIT, .GNSS_MEASUREMENTS_DATA_SIGNAL_TO_NOISE_RATIO_BIT,
   .GNSS_MEASUREMENTS_DATA_AUTOMATIC_GAIN_CONTROL_BIT, .GNSS_MEASUREMENTS_DATA_FULL_ISB_BIT,
   .GNSS_MEASUREMENTS_DATA_FULL_ISB_UNCERTAINTY_BIT, .GNSS_MEASUREMENTS_DATA_CYCLE_SLIP_COUNT_BIT]

end GnssMeasurementsDataFlagsBits

inductive GnssMeasurementsStateBits where
  | GNSS_MEASUREMENTS_STATE_CODE_LOCK_BIT | GNSS_MEASUREMENTS_STATE_BIT_SYNC_BIT
  | GNSS_MEASUREMENTS_STATE_SUBFRAME_SYNC_BIT | GNSS_MEASUREMENTS_STATE_TOW_DECODED_BIT
  | GNSS_MEASUREMENTS_STATE_MSEC_AMBIGUOUS_BIT | GNSS_MEASUREMENTS_STATE_SYMBOL_SYNC_BIT
  | GNSS_MEASUREMENTS_STATE_GLO_STRING_SYNC_BIT | GNSS_MEASUREMENTS_STATE_GLO_TOD_DECODED_BIT
  | GNSS_MEASUREMENTS_STATE_BDS_D2_BIT_SYNC_BIT | GNSS_MEASUREMENTS_STATE_BDS_D2_SUBFRAME_SYNC_BIT
  | GNSS_MEASUREMENTS_STATE_GAL_E1BC_CODE_LOCK_BIT | GNSS_MEASUREMENTS_STATE_GAL_E1C_2ND_CODE_LOCK_BIT
  | GNSS_MEASUREMENTS_STATE_GAL_E1B_PAGE_SYNC_BIT | GNSS_MEASUREMENTS_STATE_SBAS_SYNC_BIT
  deriving DecidableEq

namespace GnssMeasurementsStateBits

def header : GnssMeasurementsStateBits → BitVec 32
  | .GNSS_MEASUREMENTS_STATE_CODE_LOCK_BIT => 1 <<< 0 | .GNSS_MEASUREMENTS_STATE_BIT_SYNC_BIT => 1 <<< 1
  | .GNSS_MEASUREMENTS_STATE_SUBFRAME_SYNC_BIT => 1 <<< 2 | .GNSS_MEASUREMENTS_STATE_TOW_DECODED_BIT => 1 <<< 3
  | .GNSS_MEASUREMENTS_STATE_MSEC_AMBIGUOUS_BIT => 1 <<< 4 | .GNSS_MEASUREMENTS_STATE_SYMBOL_SYNC_BIT => 1 <<< 5
  | .GNSS_MEASUREMENTS_STATE_GLO_STRING_SYNC_BIT => 1 <<< 6
  | .GNSS_MEASUREMENTS_STATE_GLO_TOD_DECODED_BIT => 1 <<< 7
  | .GNSS_MEASUREMENTS_STATE_BDS_D2_BIT_SYNC_BIT => 1 <<< 8
  | .GNSS_MEASUREMENTS_STATE_BDS_D2_SUBFRAME_SYNC_BIT => 1 <<< 9
  | .GNSS_MEASUREMENTS_STATE_GAL_E1BC_CODE_LOCK_BIT => 1 <<< 10
  | .GNSS_MEASUREMENTS_STATE_GAL_E1C_2ND_CODE_LOCK_BIT => 1 <<< 11
  | .GNSS_MEASUREMENTS_STATE_GAL_E1B_PAGE_SYNC_BIT => 1 <<< 12 | .GNSS_MEASUREMENTS_STATE_SBAS_SYNC_BIT => 1 <<< 13

def proto : GnssMeasurementsStateBits → BitVec 32
  | .GNSS_MEASUREMENTS_STATE_CODE_LOCK_BIT => 1 | .GNSS_MEASUREMENTS_STATE_BIT_SYNC_BIT => 2
  | .GNSS_MEASUREMENTS_STATE_SUBFRAME_SYNC_BIT => 4 | .GNSS_MEASUREMENTS_STATE_TOW_DECODED_BIT => 8
  | .GNSS_MEASUREMENTS_STATE_MSEC_AMBIGUOUS_BIT => 16 | .GNSS_MEASUREMENTS_STATE_SYMBOL_SYNC_BIT => 32
  | .GNSS_MEASUREMENTS_STATE_GLO_STRING_SYNC_BIT => 64 | .GNSS_MEASUREMENTS_STATE_GLO_TOD_DECODED_BIT => 128
  | .GNSS_MEASUREMENTS_STATE_BDS_D2_BIT_SYNC_BIT => 256 | .GNSS_MEASUREMENTS_STATE_BDS_D2_SUBFRAME_SYNC_BIT => 512
  | .GNSS_MEASUREMENTS_STATE_GAL_E1BC_CODE_LOCK_BIT => 1024
  | .GNSS_MEASUREMENTS_STATE_GAL_E1C_2ND_CODE_LOCK_BIT => 2048
  | .GNSS_MEASUREMENTS_STATE_GAL_E1B_PAGE_SYNC_BIT => 4096 | .GNSS_MEASUREMENTS_STATE_SBAS_SYNC_BIT => 8192

def all : List GnssMeasurementsStateBits :=
  [.GNSS_MEASUREMENTS_STATE_CODE_LOCK_BIT, .GNSS_MEASUREMENTS_STATE_BIT_SYNC_BIT,
   .GNSS_MEASUREMENTS_STATE_SUBFRAME_SYNC_BIT, .GNSS_MEASUREMENTS_STATE_TOW_DECODED_BIT,
   .GNSS_MEASUREMENTS_STATE_MSEC_AMBIGUOUS_BIT, .GNSS_MEASUREMENTS_STATE_SYMBOL_SYNC_BIT,
   .GNSS_MEASUREMENTS_STATE_GLO_STRING_SYNC_BIT, .GNSS_MEASUREMENTS_STATE_GLO_TOD_DECODED_BIT,
   .GNSS_MEASUREMENTS_STATE_BDS_D2_BIT_SYNC_BIT, .GNSS_MEASUREMENTS_STATE_BDS_D2_SUBFRAME_SYNC_BIT,
   .GNSS_MEASUREMENTS_STATE_GAL_E1BC_CODE_LOCK_BIT, .GNSS_MEASUREMENTS_STATE_GAL_E1C_2ND_CODE_LOCK_BIT,
   .GNSS_MEASUREMENTS_STATE_GAL_E1B_PAGE_SYNC_BIT, .GNSS_MEASUREMENTS_STATE_SBAS_SYNC_BIT]

end GnssMeasurementsStateBits

inductive GnssMeasurementsAdrStateBits where
  | GNSS_MEASUREMENTS_ACCUMULATED_DELTA_RANGE_STATE_VALID_BIT
  | GNSS_MEASUREMENTS_ACCUMULATED_DELTA_RANGE_STATE_RESET_BIT
  | GNSS_MEASUREMENTS_ACCUMULATED_DELTA_RANGE_STATE_CYCLE_SLIP_BIT
  deriving DecidableEq

namespace GnssMeasurementsAdrStateBits

def header : GnssMeasurementsAdrStateBits → BitVec 32
  | .GNSS_MEASUREMENTS_ACCUMULATED_DELTA_RANGE_STATE_VALID_BIT => 1 <<< 0
  | .GNSS_MEASUREMENTS_ACCUMULATED_DELTA_RANGE_STATE_RESET_BIT => 1 <<< 1
  | .GNSS_MEASUREMENTS_ACCUMULATED_DELTA_RANGE_STATE_CYCLE_SLIP_BIT => 1 <<< 2

def proto : GnssMeasurementsAdrStateBits → BitVec 32
  | .GNSS_MEASUREMENTS_ACCUMULATED_DELTA_RANGE_STATE_VALID_BIT => 1
  | .GNSS_MEASUREMENTS_ACCUMULATED_DELTA_RANGE_STATE_RESET_BIT => 2
  | .GNSS_MEASUREMENTS_ACCUMULATED_DELTA_RANGE_STATE_CYCLE_SLIP_BIT => 4

def all : List GnssMeasurementsAdrStateBits :=
  [.GNSS_MEASUREMENTS_ACCUMULATED_DELTA_RANGE_STATE_VALID_BIT,
   .GNSS_MEASUREMENTS_ACCUMULATED_DELTA_RANGE_STATE_RESET_BIT,
   .GNSS_MEASUREMENTS_ACCUMULATED_DELTA_RANGE_STATE_CYCLE_SLIP_BIT]

end GnssMeasurementsAdrStateBits

inductive GnssMeasurementsClockFlagsBits where
  | GNSS_MEASUREMENTS_CLOCK_FLAGS_LEAP_SECOND_BIT | GNSS_MEASUREMENTS_CLOCK_FLAGS_TIME_BIT
  | GNSS_MEASUREMENTS_CLOCK_FLAGS_TIME_UNCERTAINTY_BIT | GNSS_MEASUREMENTS_CLOCK_FLAGS_FULL_BIAS_BIT
  | GNSS_MEASUREMENTS_CLOCK_FLAGS_BIAS_BIT | GNSS_MEASUREMENTS_CLOCK_FLAGS_BIAS_UNCERTAINTY_BIT
  | GNSS_MEASUREMENTS_CLOCK_FLAGS_DRIFT_BIT | GNSS_MEASUREMENTS_CLOCK_FLAGS_DRIFT_UNCERTAINTY_BIT
  | GNSS_MEASUREMENTS_CLOCK_FLAGS_HW_CLOCK_DISCONTINUITY_COUNT_BIT
  deriving DecidableEq

namespace GnssMeasurementsClockFlagsBits

def header : GnssMeasurementsClockFlagsBits → BitVec 32
  | .GNSS_MEASUREMENTS_CLOCK_FLAGS_LEAP_SECOND_BIT => 1 <<< 0 | .GNSS_MEASUREMENTS_CLOCK_FLAGS_TIME_BIT => 1 <<< 1
  | .GNSS_MEASUREMENTS_CLOCK_FLAGS_TIME_UNCERTAINTY_BIT => 1 <<< 2
  | .GNSS_MEASUREMENTS_CLOCK_FLAGS_FULL_BIAS_BIT => 1 <<< 3 | .GNSS_MEASUREMENTS_CLOCK_FLAGS_BIAS_BIT => 1 <<< 4
  | .GNSS_MEASUREMENTS_CLOCK_FLAGS_BIAS_UNCERTAINTY_BIT => 1 <<< 5
  | .GNSS_MEASUREMENTS_CLOCK_FLAGS_DRIFT_BIT => 1 <<< 6
  | .GNSS_MEASUREMENTS_CLOCK_FLAGS_DRIFT_UNCERTAINTY_BIT => 1 <<< 7
  | .GNSS_MEASUREMENTS_CLOCK_FLAGS_HW_CLOCK_DISCONTINUITY_COUNT_BIT => 1 <<< 8

def proto : GnssMeasurementsClockFlagsBits → BitVec 32
  | .GNSS_MEASUREMENTS_CLOCK_FLAGS_LEAP_SECOND_BIT => 1 | .GNSS_MEASUREMENTS_CLOCK_FLAGS_TIME_BIT => 2
  | .GNSS_MEASUREMENTS_CLOCK_FLAGS_TIME_UNCERTAINTY_BIT => 4 | .GNSS_MEASUREMENTS_CLOCK_FLAGS_FULL_BIAS_BIT => 8
  | .GNSS_MEASUREMENTS_CLOCK_FLAGS_BIAS_BIT => 16 | .GNSS_MEASUREMENTS_CLOCK_FLAGS_BIAS_UNCERTAINTY_BIT => 32
  | .GNSS_MEASUREMENTS_CLOCK_FLAGS_DRIFT_BIT => 64 | .GNSS_MEASUREMENTS_CLOCK_FLAGS_DRIFT_UNCERTAINTY_BIT => 128
  | .GNSS_MEASUREMENTS_CLOCK_FLAGS_HW_CLOCK_DISCONTINUITY_COUNT_BIT => 256

def all : List GnssMeasurementsClockFlagsBits :=
  [.GNSS_MEASUREMENTS_CLOCK_FLAGS_LEAP_SECOND_BIT, .GNSS_MEASUREMENTS_CLOCK_FLAGS_TIME_BIT,
   .GNSS_MEASUREMENTS_CLOCK_FLAGS_TIME_UNCERTAINTY_BIT, .GNSS_MEASUREMENTS_CLOCK_FLAGS_FULL_BIAS_BIT,
   .GNSS_MEASUREMENTS_CLOCK_FLAGS_BIAS_BIT, .GNSS_MEASUREMENTS_CLOCK_FLAGS_BIAS_UNCERTAINTY_BIT,
   .GNSS_MEASUREMENTS_CLOCK_FLAGS_DRIFT_BIT, .GNSS_MEASUREMENTS_CLOCK_FLAGS_DRIFT_UNCERTAINTY_BIT,
   .GNSS_MEASUREMENTS_CLOCK_FLAGS_HW_CLOCK_DISCONTINUITY_COUNT_BIT]

end GnssMeasurementsClockFlagsBits

inductive GeofenceBreachTypeBits where
  | GEOFENCE_BREACH_ENTER_BIT | GEOFENCE_BREACH_EXIT_BIT | GEOFENCE_BREACH_DWELL_IN_BIT
  | GEOFENCE_BREACH_DWELL_OUT_BIT
  deriving DecidableEq

namespace GeofenceBreachTypeBits

def header : GeofenceBreachTypeBits → BitVec 32
  | .GEOFENCE_BREACH_ENTER_BIT => 1 <<< 0 | .GEOFENCE_BREACH_EXIT_BIT => 1 <<< 1
  | .GEOFENCE_BREACH_DWELL_IN_BIT => 1 <<< 2 | .GEOFENCE_BREACH_DWELL_OUT_BIT => 1 <<< 3

def proto : GeofenceBreachTypeBits → BitVec 32
  | .GEOFENCE_BREACH_ENTER_BIT => 1 | .GEOFENCE_BREACH_EXIT_BIT => 2 | .GEOFENCE_BREACH_DWELL_IN_BIT => 4
  | .GEOFENCE_BREACH_DWELL_OUT_BIT => 8

def all : List GeofenceBreachTypeBits :=
  [.GEOFENCE_BREACH_ENTER_BIT, .GEOFENCE_BREACH_EXIT_BIT, .GEOFENCE_BREACH_DWELL_IN_BIT,
   .GEOFENCE_BREACH_DWELL_OUT_BIT]

end GeofenceBreachTypeBits

inductive GnssLocationPosDataBits where
  | LOCATION_NAV_DATA_HAS_LONG_ACCEL_BIT | LOCATION_NAV_DATA_HAS_LAT_ACCEL_BIT
  | LOCATION_NAV_DATA_HAS_VERT_ACCEL_BIT | LOCATION_NAV_DATA_HAS_YAW_RATE_BIT | LOCATION_NAV_DATA_HAS_PITCH_BIT
  | LOCATION_NAV_DATA_HAS_LONG_ACCEL_UNC_BIT | LOCATION_NAV_DATA_HAS_LAT_ACCEL_UNC_BIT
  | LOCATION_NAV_DATA_HAS_VERT_ACCEL_UNC_BIT | LOCATION_NAV_DATA_HAS_YAW_RATE_UNC_BIT
  | LOCATION_NAV_DATA_HAS_PITCH_UNC_BIT
  deriving DecidableEq

namespace GnssLocationPosDataBits

def header : GnssLocationPosDataBits → BitVec 32
  | .LOCATION_NAV_DATA_HAS_LONG_ACCEL_BIT => 1 <<< 0 | .LOCATION_NAV_DATA_HAS_LAT_ACCEL_BIT => 1 <<< 1
  | .LOCATION_NAV_DATA_HAS_VERT_ACCEL_BIT => 1 <<< 2 | .LOCATION_NAV_DATA_HAS_YAW_RATE_BIT => 1 <<< 3
  | .LOCATION_NAV_DATA_HAS_PITCH_BIT => 1 <<< 4 | .LOCATION_NAV_DATA_HAS_LONG_ACCEL_UNC_BIT => 1 <<< 5
  | .LOCATION_NAV_DATA_HAS_LAT_ACCEL_UNC_BIT => 1 <<< 6 | .LOCATION_NAV_DATA_HAS_VERT_ACCEL_UNC_BIT => 1 <<< 7
  | .LOCATION_NAV_DATA_HAS_YAW_RATE_UNC_BIT => 1 <<< 8 | .LOCATION_NAV_DATA_HAS_PITCH_UNC_BIT => 1 <<< 9

def proto : GnssLocationPosDataBits → BitVec 32
  | .LOCATION_NAV_DATA_HAS_LONG_ACCEL_BIT => 1 | .LOCATION_NAV_DATA_HAS_LAT_ACCEL_BIT => 2
  | .LOCATION_NAV_DATA_HAS_VERT_ACCEL_BIT => 4 | .LOCATION_NAV_DATA_HAS_YAW_RATE_BIT => 8
  | .LOCATION_NAV_DATA_HAS_PITCH_BIT => 128 | .LOCATION_NAV_DATA_HAS_LONG_ACCEL_UNC_BIT => 2048
  | .LOCATION_NAV_DATA_HAS_LAT_ACCEL_UNC_BIT => 4096 | .LOCATION_NAV_DATA_HAS_VERT_ACCEL_UNC_BIT => 8192
  | .LOCATION_NAV_DATA_HAS_YAW_RATE_UNC_BIT => 16 | .LOCATION_NAV_DATA_HAS_PITCH_UNC_BIT => 256

def all : List GnssLocationPosDataBits :=
  [.LOCATION_NAV_DATA_HAS_LONG_ACCEL_BIT, .LOCATION_NAV_DATA_HAS_LAT_ACCEL_BIT,
   .LOCATION_NAV_DATA_HAS_VERT_ACCEL_BIT, .LOCATION_NAV_DATA_HAS_YAW_RATE_BIT, .LOCATION_NAV_DATA_HAS_PITCH_BIT,
   .LOCATION_NAV_DATA_HAS_LONG_ACCEL_UNC_BIT, .LOCATION_NAV_DATA_HAS_LAT_ACCEL_UNC_BIT,
   .LOCATION_NAV_DATA_HAS_VERT_ACCEL_UNC_BIT, .LOCATION_NAV_DATA_HAS_YAW_RATE_UNC_BIT,
   .LOCATION_NAV_DATA_HAS_PITCH_UNC_BIT]

end GnssLocationPosDataBits

inductive GnssLocationPosDataBitsExt where
  | LOCATION_NAV_DATA_HAS_PITCH_RATE_BIT | LOCATION_NAV_DATA_HAS_PITCH_RATE_UNC_BIT | LOCATION_NAV_DATA_HAS_ROLL_BIT
  | LOCATION_NAV_DATA_HAS_ROLL_UNC_BIT | LOCATION_NAV_DATA_HAS_ROLL_RATE_BIT
  | LOCATION_NAV_DATA_HAS_ROLL_RATE_UNC_BIT | LOCATION_NAV_DATA_HAS_YAW_BIT | LOCATION_NAV_DATA_HAS_YAW_UNC_BIT
  deriving DecidableEq

namespace GnssLocationPosDataBitsExt

def header : GnssLocationPosDataBitsExt → BitVec 32
  | .LOCATION_NAV_DATA_HAS_PITCH_RATE_BIT => 1 <<< 0 | .LOCATION_NAV_DATA_HAS_PITCH_RATE_UNC_BIT => 1 <<< 1
  | .LOCATION_NAV_DATA_HAS_ROLL_BIT => 1 <<< 2 | .LOCATION_NAV_DATA_HAS_ROLL_UNC_BIT => 1 <<< 3
  | .LOCATION_NAV_DATA_HAS_ROLL_RATE_BIT => 1 <<< 4 | .LOCATION_NAV_DATA_HAS_ROLL_RATE_UNC_BIT => 1 <<< 5
  | .LOCATION_NAV_DATA_HAS_YAW_BIT => 1 <<< 6 | .LOCATION_NAV_DATA_HAS_YAW_UNC_BIT => 1 <<< 7

def proto : GnssLocationPosDataBitsExt → BitVec 32
  | .LOCATION_NAV_DATA_HAS_PITCH_RATE_BIT => 512 | .LOCATION_NAV_DATA_HAS_PITCH_RATE_UNC_BIT => 1024
  | .LOCATION_NAV_DATA_HAS_ROLL_BIT => 16384 | .LOCATION_NAV_DATA_HAS_ROLL_UNC_BIT => 32768
  | .LOCATION_NAV_DATA_HAS_ROLL_RATE_BIT => 65536 | .LOCATION_NAV_DATA_HAS_ROLL_RATE_UNC_BIT => 131072
  | .LOCATION_NAV_DATA_HAS_YAW_BIT => 32 | .LOCATION_NAV_DATA_HAS_YAW_UNC_BIT => 64

def all : List GnssLocationPosDataBitsExt :=
  [.LOCATION_NAV_DATA_HAS_PITCH_RATE_BIT, .LOCATION_NAV_DATA_HAS_PITCH_RATE_UNC_BIT, .LOCATION_NAV_DATA_HAS_ROLL_BIT,
   .LOCATION_NAV_DATA_HAS_ROLL_UNC_BIT, .LOCATION_NAV_DATA_HAS_ROLL_RATE_BIT,
   .LOCATION_NAV_DATA_HAS_ROLL_RATE_UNC_BIT, .LOCATION_NAV_DATA_HAS_YAW_BIT, .LOCATION_NAV_DATA_HAS_YAW_UNC_BIT]

end GnssLocationPosDataBitsExt

inductive GnssLocationInfoFlagBits where
  | GNSS_LOCATION_INFO_ALTITUDE_MEAN_SEA_LEVEL_BIT | GNSS_LOCATION_INFO_DOP_BIT
  | GNSS_LOCATION_INFO_MAGNETIC_DEVIATION_BIT | GNSS_LOCATION_INFO_HOR_RELIABILITY_BIT
  | GNSS_LOCATION_INFO_VER_RELIABILITY_BIT | GNSS_LOCATION_INFO_HOR_ACCURACY_ELIP_SEMI_MAJOR_BIT
  | GNSS_LOCATION_INFO_HOR_ACCURACY_ELIP_SEMI_MINOR_BIT | GNSS_LOCATION_INFO_HOR_ACCURACY_ELIP_AZIMUTH_BIT
  | GNSS_LOCATION_INFO_GNSS_SV_USED_DATA_BIT | GNSS_LOCATION_INFO_NAV_SOLUTION_MASK_BIT
  | GNSS_LOCATION_INFO_POS_DYNAMICS_DATA_BIT | GNSS_LOCATION_INFO_EXT_DOP_BIT | GNSS_LOCATION_INFO_NORTH_STD_DEV_BIT
  | GNSS_LOCATION_INFO_EAST_STD_DEV_BIT | GNSS_LOCATION_INFO_NORTH_VEL_BIT | GNSS_LOCATION_INFO_EAST_VEL_BIT
  | GNSS_LOCATION_INFO_UP_VEL_BIT | GNSS_LOCATION_INFO_NORTH_VEL_UNC_BIT | GNSS_LOCATION_INFO_EAST_VEL_UNC_BIT
  | GNSS_LOCATION_INFO_UP_VEL_UNC_BIT | GNSS_LOCATION_INFO_LEAP_SECONDS_BIT | GNSS_LOCATION_INFO_TIME_UNC_BIT
  | GNSS_LOCATION_INFO_NUM_SV_USED_IN_POSITION_BIT | GNSS_LOCATION_INFO_CALIBRATION_CONFIDENCE_BIT
  | GNSS_LOCATION_INFO_CALIBRATION_STATUS_BIT | GNSS_LOCATION_INFO_OUTPUT_ENG_TYPE_BIT
  | GNSS_LOCATION_INFO_OUTPUT_ENG_MASK_BIT | GNSS_LOCATION_INFO_CONFORMITY_INDEX_BIT
  | GNSS_LOCATION_INFO_LLA_VRP_BASED_BIT | GNSS_LOCATION_INFO_ENU_VELOCITY_VRP_BASED_BIT
  | GNSS_LOCATION_INFO_DR_SOLUTION_STATUS_MASK_BIT
  deriving DecidableEq

namespace GnssLocationInfoFlagBits

def header : GnssLocationInfoFlagBits → BitVec 64
  | .GNSS_LOCATION_INFO_ALTITUDE_MEAN_SEA_LEVEL_BIT => 1 <<< 0 | .GNSS_LOCATION_INFO_DOP_BIT => 1 <<< 1
  | .GNSS_LOCATION_INFO_MAGNETIC_DEVIATION_BIT => 1 <<< 2 | .GNSS_LOCATION_INFO_HOR_RELIABILITY_BIT => 1 <<< 3
  | .GNSS_LOCATION_INFO_VER_RELIABILITY_BIT => 1 <<< 4
  | .GNSS_LOCATION_INFO_HOR_ACCURACY_ELIP_SEMI_MAJOR_BIT => 1 <<< 5
  | .GNSS_LOCATION_INFO_HOR_ACCURACY_ELIP_SEMI_MINOR_BIT => 1 <<< 6
  | .GNSS_LOCATION_INFO_HOR_ACCURACY_ELIP_AZIMUTH_BIT => 1 <<< 7
  | .GNSS_LOCATION_INFO_GNSS_SV_USED_DATA_BIT => 1 <<< 8 | .GNSS_LOCATION_INFO_NAV_SOLUTION_MASK_BIT => 1 <<< 9
  | .GNSS_LOCATION_INFO_POS_DYNAMICS_DATA_BIT => 1 <<< 11 | .GNSS_LOCATION_INFO_EXT_DOP_BIT => 1 <<< 12
  | .GNSS_LOCATION_INFO_NORTH_STD_DEV_BIT => 1 <<< 13 | .GNSS_LOCATION_INFO_EAST_STD_DEV_BIT => 1 <<< 14
  | .GNSS_LOCATION_INFO_NORTH_VEL_BIT => 1 <<< 15 | .GNSS_LOCATION_INFO_EAST_VEL_BIT => 1 <<< 16
  | .GNSS_LOCATION_INFO_UP_VEL_BIT => 1 <<< 17 | .GNSS_LOCATION_INFO_NORTH_VEL_UNC_BIT => 1 <<< 18
  | .GNSS_LOCATION_INFO_EAST_VEL_UNC_BIT => 1 <<< 19 | .GNSS_LOCATION_INFO_UP_VEL_UNC_BIT => 1 <<< 20
  | .GNSS_LOCATION_INFO_LEAP_SECONDS_BIT => 1 <<< 21 | .GNSS_LOCATION_INFO_TIME_UNC_BIT => 1 <<< 22
  | .GNSS_LOCATION_INFO_NUM_SV_USED_IN_POSITION_BIT => 1 <<< 23
  | .GNSS_LOCATION_INFO_CALIBRATION_CONFIDENCE_BIT => 1 <<< 24
  | .GNSS_LOCATION_INFO_CALIBRATION_STATUS_BIT => 1 <<< 25 | .GNSS_LOCATION_INFO_OUTPUT_ENG_TYPE_BIT => 1 <<< 26
  | .GNSS_LOCATION_INFO_OUTPUT_ENG_MASK_BIT => 1 <<< 27 | .GNSS_LOCATION_INFO_CONFORMITY_INDEX_BIT => 1 <<< 28
  | .GNSS_LOCATION_INFO_LLA_VRP_BASED_BIT => 1 <<< 29 | .GNSS_LOCATION_INFO_ENU_VELOCITY_VRP_BASED_BIT => 1 <<< 30
  | .GNSS_LOCATION_INFO_DR_SOLUTION_STATUS_MASK_BIT => 1 <<< 31

def proto : GnssLocationInfoFlagBits → BitVec 32
  | .GNSS_LOCATION_INFO_ALTITUDE_MEAN_SEA_LEVEL_BIT => 1 | .GNSS_LOCATION_INFO_DOP_BIT => 2
  | .GNSS_LOCATION_INFO_MAGNETIC_DEVIATION_BIT => 8 | .GNSS_LOCATION_INFO_HOR_RELIABILITY_BIT => 16
  | .GNSS_LOCATION_INFO_VER_RELIABILITY_BIT => 32 | .GNSS_LOCATION_INFO_HOR_ACCURACY_ELIP_SEMI_MAJOR_BIT => 64
  | .GNSS_LOCATION_INFO_HOR_ACCURACY_ELIP_SEMI_MINOR_BIT => 128
  | .GNSS_LOCATION_INFO_HOR_ACCURACY_ELIP_AZIMUTH_BIT => 256 | .GNSS_LOCATION_INFO_GNSS_SV_USED_DATA_BIT => 512
  | .GNSS_LOCATION_INFO_NAV_SOLUTION_MASK_BIT => 1024 | .GNSS_LOCATION_INFO_POS_DYNAMICS_DATA_BIT => 2048
  | .GNSS_LOCATION_INFO_EXT_DOP_BIT => 4 | .GNSS_LOCATION_INFO_NORTH_STD_DEV_BIT => 4096
  | .GNSS_LOCATION_INFO_EAST_STD_DEV_BIT => 8192 | .GNSS_LOCATION_INFO_NORTH_VEL_BIT => 16384
  | .GNSS_LOCATION_INFO_EAST_VEL_BIT => 32768 | .GNSS_LOCATION_INFO_UP_VEL_BIT => 65536
  | .GNSS_LOCATION_INFO_NORTH_VEL_UNC_BIT => 131072 | .GNSS_LOCATION_INFO_EAST_VEL_UNC_BIT => 262144
  | .GNSS_LOCATION_INFO_UP_VEL_UNC_BIT => 524288 | .GNSS_LOCATION_INFO_LEAP_SECONDS_BIT => 1048576
  | .GNSS_LOCATION_INFO_TIME_UNC_BIT => 2097152 | .GNSS_LOCATION_INFO_NUM_SV_USED_IN_POSITION_BIT => 4194304
  | .GNSS_LOCATION_INFO_CALIBRATION_CONFIDENCE_BIT => 8388608
  | .GNSS_LOCATION_INFO_CALIBRATION_STATUS_BIT => 16777216 | .GNSS_LOCATION_INFO_OUTPUT_ENG_TYPE_BIT => 33554432
  | .GNSS_LOCATION_INFO_OUTPUT_ENG_MASK_BIT => 67108864 | .GNSS_LOCATION_INFO_CONFORMITY_INDEX_BIT => 134217728
  | .GNSS_LOCATION_INFO_LLA_VRP_BASED_BIT => 268435456 | .GNSS_LOCATION_INFO_ENU_VELOCITY_VRP_BASED_BIT => 536870912
  | .GNSS_LOCATION_INFO_DR_SOLUTION_STATUS_MASK_BIT => 1073741824

def all : List GnssLocationInfoFlagBits :=
  [.GNSS_LOCATION_INFO_ALTITUDE_MEAN_SEA_LEVEL_BIT, .GNSS_LOCATION_INFO_DOP_BIT,
   .GNSS_LOCATION_INFO_MAGNETIC_DEVIATION_BIT, .GNSS_LOCATION_INFO_HOR_RELIABILITY_BIT,
   .GNSS_LOCATION_INFO_VER_RELIABILITY_BIT, .GNSS_LOCATION_INFO_HOR_ACCURACY_ELIP_SEMI_MAJOR_BIT,
   .GNSS_LOCATION_INFO_HOR_ACCURACY_ELIP_SEMI_MINOR_BIT, .GNSS_LOCATION_INFO_HOR_ACCURACY_ELIP_AZIMUTH_BIT,
   .GNSS_LOCATION_INFO_GNSS_SV_USED_DATA_BIT, .GNSS_LOCATION_INFO_NAV_SOLUTION_MASK_BIT,
   .GNSS_LOCATION_INFO_POS_DYNAMICS_DATA_BIT, .GNSS_LOCATION_INFO_EXT_DOP_BIT, .GNSS_LOCATION_INFO_NORTH_STD_DEV_BIT,
   .GNSS_LOCATION_INFO_EAST_STD_DEV_BIT, .GNSS_LOCATION_INFO_NORTH_VEL_BIT, .GNSS_LOCATION_INFO_EAST_VEL_BIT,
   .GNSS_LOCATION_INFO_UP_VEL_BIT, .GNSS_LOCATION_INFO_NORTH_VEL_UNC_BIT, .GNSS_LOCATION_INFO_EAST_VEL_UNC_BIT,
   .GNSS_LOCATION_INFO_UP_VEL_UNC_BIT, .GNSS_LOCATION_INFO_LEAP_SECONDS_BIT, .GNSS_LOCATION_INFO_TIME_UNC_BIT,
   .GNSS_LOCATION_INFO_NUM_SV_USED_IN_POSITION_BIT, .GNSS_LOCATION_INFO_CALIBRATION_CONFIDENCE_BIT,
   .GNSS_LOCATION_INFO_CALIBRATION_STATUS_BIT, .GNSS_LOCATION_INFO_OUTPUT_ENG_TYPE_BIT,
   .GNSS_LOCATION_INFO_OUTPUT_ENG_MASK_BIT, .GNSS_LOCATION_INFO_CONFORMITY_INDEX_BIT,
   .GNSS_LOCATION_INFO_LLA_VRP_BASED_BIT, .GNSS_LOCATION_INFO_ENU_VELOCITY_VRP_BASED_BIT,
   .GNSS_LOCATION_INFO_DR_SOLUTION_STATUS_MASK_BIT]

end GnssLocationInfoFlagBits

inductive GnssLocationInfoExtFlagBits where
  | GNSS_LOCATION_INFO_ALTITUDE_ASSUMED_BIT | GNSS_LOCATION_INFO_SESSION_STATUS_BIT
  deriving DecidableEq

namespace GnssLocationInfoExtFlagBits

def header : GnssLocationInfoExtFlagBits → BitVec 64
  | .GNSS_LOCATION_INFO_ALTITUDE_ASSUMED_BIT => 1 <<< 32 | .GNSS_LOCATION_INFO_SESSION_STATUS_BIT => 1 <<< 33

def proto : GnssLocationInfoExtFlagBits → BitVec 32
  | .GNSS_LOCATION_INFO_ALTITUDE_ASSUMED_BIT => 1 | .GNSS_LOCATION_INFO_SESSION_STATUS_BIT => 2

def all : List GnssLocationInfoExtFlagBits :=
  [.GNSS_LOCATION_INFO_ALTITUDE_ASSUMED_BIT, .GNSS_LOCATION_INFO_SESSION_STATUS_BIT]

end GnssLocationInfoExtFlagBits

section Masks

def getPBMaskForLocationFlagsMask (mask : BitVec 32) : BitVec 32 :=
  open LocationFlagsBits in translate all header proto mask 0

def getLocationFlagsMaskFromPB (mask : BitVec 32) : BitVec 32 :=
  open LocationFlagsBits in translate all proto header mask 0

def getPBMaskForLocationTechnologyMask (mask : BitVec 32) : BitVec 32 :=
  open LocationTechnologyBits in translate all header proto mask 0

def getLocationTechnologyMaskFromPB (mask : BitVec 32) : BitVec 32 :=
  open LocationTechnologyBits in translate all proto header mask 0

def getPBMaskForGnssLocationNavSolutionMask (mask : BitVec 32) : BitVec 32 :=
  open GnssLocationNavSolutionBits in translate all header proto mask 0

def getGnssLocationNavSolutionMaskFromPB (mask : BitVec 32) : BitVec 32 :=
  open GnssLocationNavSolutionBits in translate all proto header mask 0

def getPBMaskForDrCalibrationStatusMask (mask : BitVec 32) : BitVec 32 :=
  open DrCalibrationStatusBits in translate all header proto mask 0

def getDrCalibrationStatusMaskFromPB (mask : BitVec 32) : BitVec 32 :=
  open DrCalibrationStatusBits in translate all proto header mask 0

def getPBMaskForPositioningEngineMask (mask : BitVec 32) : BitVec 32 :=
  open PositioningEngineBits in translate all header proto mask 0

def getEnumForPBPositioningEngineMask (mask : BitVec 32) : BitVec 32 :=
  translate [.STANDARD_POSITIONING_ENGINE, .PRECISE_POSITIONING_ENGINE, .DEAD_RECKONING_ENGINE]
    PositioningEngineBits.proto PositioningEngineBits.header mask 0

def getPBMaskForDrSolutionStatusMask (mask : BitVec 32) : BitVec 32 :=
  open DrSolutionStatusBits in translate all header proto mask 0

def getDrSolutionStatusMaskFromPB (mask : BitVec 32) : BitVec 32 :=
  open DrSolutionStatusBits in translate all proto header mask 0

def getPBMaskForGnssSystemTimeStructTypeFlags (mask : BitVec 32) : BitVec 32 :=
  open GnssSystemTimeTypeBits in translate all header proto mask 0

def getGnssSystemTimeStructTypeFlagsFromPB (mask : BitVec 32) : BitVec 32 :=
  open GnssSystemTimeTypeBits in translate all proto header mask 0

def getPBMaskForGnssGloTimeStructTypeFlags (mask : BitVec 32) : BitVec 32 :=
  open GnssGloTimeTypeBits in translate all header proto mask 0

def getGnssGloTimeStructTypeFlagsFromPB (mask : BitVec 32) : BitVec 32 :=
  open GnssGloTimeTypeBits in translate all proto header mask 0

def getPBMaskForGnssSvOptionsMask (mask : BitVec 32) : BitVec 32 :=
  open GnssSvOptionsBits in translate all header proto mask 0

def getGnssSvOptionsMaskFromPB (mask : BitVec 32) : BitVec 32 :=
  open GnssSvOptionsBits in translate all proto header mask 0

def getPBMaskForGnssSignalTypeMask (mask : BitVec 32) : BitVec 32 :=
  open GnssSignalTypeBits in translate all header proto mask 0

def getGnssSignalTypeMaskFromPB (mask : BitVec 32) : BitVec 32 :=
  open GnssSignalTypeBits in translate all proto header mask 0

def getPBMaskForGnssMeasurementsDataFlagsMask (mask : BitVec 32) : BitVec 32 :=
  open GnssMeasurementsDataFlagsBits in translate all header proto mask 0

def getGnssMeasurementsDataFlagsMaskFromPB (mask : BitVec 32) : BitVec 32 :=
  open GnssMeasurementsDataFlagsBits in translate all proto header mask 0

/-- The test of the flag for an unknown state, which is 0, never holds. -/
def getPBMaskForGnssMeasurementsStateMask (mask : BitVec 32) : BitVec 32 :=
  open GnssMeasurementsStateBits in translate all header proto mask 0

/-- The test of the flag for an unknown state, which is 0, never holds. -/
def getPBMaskForGnssMeasurementsAdrStateMask (mask : BitVec 32) : BitVec 32 :=
  open GnssMeasurementsAdrStateBits in translate all header proto mask 0

def getGnssMeasurementsAdrStateMaskFromPB (mask : BitVec 32) : BitVec 32 :=
  open GnssMeasurementsAdrStateBits in translate all proto header mask 0

def getPBMaskForGnssMeasurementsClockFlagsMask (mask : BitVec 32) : BitVec 32 :=
  open GnssMeasurementsClockFlagsBits in translate all header proto mask 0

def getGnssMeasurementsClockFlagsMaskFromPB (mask : BitVec 32) : BitVec 32 :=
  open GnssMeasurementsClockFlagsBits in translate all proto header mask 0

def getGfBreachTypeMaskFromPB (mask : BitVec 32) : BitVec 32 :=
  open GeofenceBreachTypeBits in translate all proto header mask 0

def getPBMaskForGnssLocationPosDataMask (mask maskExt : BitVec 32) : BitVec 32 :=
  translate GnssLocationPosDataBitsExt.all GnssLocationPosDataBitsExt.header GnssLocationPosDataBitsExt.proto maskExt
    (open GnssLocationPosDataBits in translate all header proto mask 0)

def getGnssLocationPosDataMaskFromPB (mask : BitVec 32) : BitVec 32 :=
  open GnssLocationPosDataBits in translate all proto header mask 0

def getGnssLocationPosDataMaskExtFromPB (mask : BitVec 32) : BitVec 32 :=
  open GnssLocationPosDataBitsExt in translate all proto header mask 0

def getPBMaskForGnssLocationInfoFlagMask (mask : BitVec 64) : BitVec 32 :=
  open GnssLocationInfoFlagBits in translate all header proto mask 0

def getPBMaskForGnssLocationInfoExtFlagMask (mask : BitVec 64) : BitVec 32 :=
  open GnssLocationInfoExtFlagBits in translate all header proto mask 0

/-- The bit which `getGnssLocationInfoFlagMaskFromPB` sets for a flag: for the dilution of precision that of the
message. -/
def GnssLocationInfoFlagBits.fromPB : GnssLocationInfoFlagBits → BitVec 64
  | .GNSS_LOCATION_INFO_DOP_BIT => (proto .GNSS_LOCATION_INFO_DOP_BIT).setWidth 64
  | flag => flag.header

def getGnssLocationInfoFlagMaskFromPB (mask extMask : BitVec 32) : BitVec 64 :=
  translate GnssLocationInfoExtFlagBits.all GnssLocationInfoExtFlagBits.proto GnssLocationInfoExtFlagBits.header extMask
    (open GnssLocationInfoFlagBits in translate all proto fromPB mask 0)

end Masks

end Cypfr.LocationApiPb
