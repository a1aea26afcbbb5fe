import Cypfr.Model.CNumber
import Cypfr.Model.SystemStatus

/-! # The debug sentences of the system status

`gps/core/SystemStatus.cpp`: a sentence is split at its commas and the parser of its type makes a record of the fields,
of which the reports take an item each. A parser that finds too few fields returns its record as it is: all zeros, or
whatever was in its memory.
-/

namespace Cypfr.SystemStatus

/-- Floating point: `double` and `float`, what is read of a string, and comparisons for difference. -/
structure FloatOps (D F : Type) where
  zero : D
  atof : Bytes → D
  toFloat : D → F
  intToFloat : Int32 → F
  differs : D → D → Bool
  differsFloat : F → F → Bool

/-- `SystemStatusPQWM1`. -/
structure SystemStatusPQWM1 (D : Type) where
  mGpsWeek : UInt16
  mGpsTowMs : UInt32
  mTimeValid : UInt8
  mTimeSource : UInt8
  mTimeUnc : Int32
  mClockFreqBias : Int32
  mClockFreqBiasUnc : Int32
  mXoState : UInt8
  mPgaGain : Int32
  mGpsBpAmpI : UInt32
  mGpsBpAmpQ : UInt32
  mAdcI : UInt32
  mAdcQ : UInt32
  mJammerGps : UInt32
  mJammerGlo : UInt32
  mJammerBds : UInt32
  mJammerGal : UInt32
  mRecErrorRecovery : UInt32
  mAgcGps : D
  mAgcGlo : D
  mAgcBds : D
  mAgcGal : D
  mLeapSeconds : Int32
  mLeapSecUnc : Int32
  mGloBpAmpI : UInt32
  mGloBpAmpQ : UInt32
  mBdsBpAmpI : UInt32
  mBdsBpAmpQ : UInt32
  mGalBpAmpI : UInt32
  mGalBpAmpQ : UInt32
  mTimeUncNs : UInt64

/-- `SystemStatusPQWP1`, with the fields of `SystemStatusInjectedPosition`. -/
structure SystemStatusPQWP1 (F : Type) where
  mEpiValidity : UInt8
  mEpiLat : F
  mEpiLon : F
  mEpiAlt : F
  mEpiHepe : F
  mEpiAltUnc : F
  mEpiSrc : UInt8

/-- `SystemStatusPQWP2`, with the fields of `SystemStatusBestPosition`, whose `mValid` is set for each. -/
structure SystemStatusPQWP2 (F : Type) where
  mBestLat : F
  mBestLon : F
  mBestAlt : F
  mBestHepe : F
  mBestAltUnc : F

/-- `SystemStatusPQWP3`, with the fields of `SystemStatusXtra`. -/
structure SystemStatusPQWP3 where
  mXtraValidMask : UInt8
  mGpsXtraAge : UInt32
  mGloXtraAge : UInt32
  mBdsXtraAge : UInt32
  mGalXtraAge : UInt32
  mQzssXtraAge : UInt32
  mNavicXtraAge : UInt32
  mGpsXtraValid : UInt32
  mGloXtraValid : UInt32
  mBdsXtraValid : UInt64
  mGalXtraValid : UInt64
  mQzssXtraValid : UInt8
  mNavicXtraValid : UInt32
  deriving DecidableEq

/-- `SystemStatusPQWP4`, with the fields of `SystemStatusEphemeris`. -/
structure SystemStatusPQWP4 where
  mGpsEpheValid : UInt32
  mGloEpheValid : UInt32
  mBdsEpheValid : UInt64
  mGalEpheValid : UInt64
  mQzssEpheValid : UInt8
  deriving DecidableEq

/-- The masks of `SystemStatusPQWP5` and `SystemStatusSvHealth` of one kind. -/
structure SvMasks where
  mGpsMask : UInt32
  mGloMask : UInt32
  mBdsMask : UInt64
  mGalMask : UInt64
  mQzssMask : UInt8
  mNavicMask : UInt32
  deriving DecidableEq

/-- `SystemStatusPQWP5`, with the fields of `SystemStatusSvHealth`: the masks of unknown, good and bad satellites. -/
structure SystemStatusPQWP5 where
  unknown : SvMasks
  good : SvMasks
  bad : SvMasks

/-- `SystemStatusPQWP6`, with the field of `SystemStatusPdr`. -/
structure SystemStatusPQWP6 where
  mFixInfoMask : UInt32
  deriving DecidableEq

/-- `SystemStatusNav`. -/
structure SystemStatusNav where
  mType : Int32
  mSource : Int32
  mAgeSec : Int32
  deriving DecidableEq

/-- `SV_ALL_NUM_MIN` and `SV_ALL_NUM`. -/
def svAllNumMin : ℕ := 134
def svAllNum : ℕ := 148

/-- `SystemStatusPQWP7`, with the fields of `SystemStatusNavData`. -/
abbrev SystemStatusPQWP7 := Fin svAllNum → SystemStatusNav

/-- `SystemStatusPQWS1`, with the fields of `SystemStatusPositionFailure`. -/
structure SystemStatusPQWS1 where
  mFixInfoMask : UInt32
  mHepeLimit : UInt32
  deriving DecidableEq

/-- `SystemStatusTimeAndClock`. -/
structure SystemStatusTimeAndClock where
  mGpsWeek : UInt16
  mGpsTowMs : UInt32
  mTimeValid : UInt8
  mTimeSource : UInt8
  mTimeUnc : Int32
  mClockFreqBias : Int32
  mClockFreqBiasUnc : Int32
  mLeapSeconds : Int32
  mLeapSecUnc : Int32
  mTimeUncNs : UInt64
  deriving DecidableEq

/-- `SystemStatusXoState`. -/
structure SystemStatusXoState where
  mXoState : UInt8
  deriving DecidableEq

/-- `SystemStatusRfAndParams`. -/
structure SystemStatusRfAndParams (D : Type) where
  mPgaGain : Int32
  mGpsBpAmpI : UInt32
  mGpsBpAmpQ : UInt32
  mAdcI : UInt32
  mAdcQ : UInt32
  mJammerGps : UInt32
  mJammerGlo : UInt32
  mJammerBds : UInt32
  mJammerGal : UInt32
  mAgcGps : D
  mAgcGlo : D
  mAgcBds : D
  mAgcGal : D
  mGloBpAmpI : UInt32
  mGloBpAmpQ : UInt32
  mBdsBpAmpI : UInt32
  mBdsBpAmpQ : UInt32
  mGalBpAmpI : UInt32
  mGalBpAmpQ : UInt32

/-- `SystemStatusErrRecovery`. -/
structure SystemStatusErrRecovery where
  mRecErrorRecovery : UInt32
  deriving DecidableEq

/-- The reports of `SystemStatusReports` that sentences are stored in. -/
structure SystemStatusReports (D F : Type) where
  mTimeAndClock : List (Reported SystemStatusTimeAndClock)
  mXoState : List (Reported SystemStatusXoState)
  mRfAndParams : List (Reported (SystemStatusRfAndParams D))
  mErrRecovery : List (Reported SystemStatusErrRecovery)
  mInjectedPosition : List (Reported (SystemStatusPQWP1 F))
  mBestPosition : List (Reported (SystemStatusPQWP2 F))
  mXtra : List (Reported SystemStatusPQWP3)
  mEphemeris : List (Reported SystemStatusPQWP4)
  mSvHealth : List (Reported SystemStatusPQWP5)
  mPdr : List (Reported SystemStatusPQWP6)
  mNavData : List (Reported SystemStatusPQWP7)
  mPositionFailure : List (Reported SystemStatusPQWS1)

/-- What the memory of the parsers' records holds before they are set. -/
structure ParserMemory (F : Type) where
  mP1 : SystemStatusPQWP1 F
  mP2 : SystemStatusPQWP2 F
  mP3 : SystemStatusPQWP3
  mP4 : SystemStatusPQWP4
  mP5 : SystemStatusPQWP5
  mP6 : SystemStatusPQWP6
  mP7 : SystemStatusPQWP7
  mS1 : SystemStatusPQWS1

/-- `loc_nmea_is_debug`. -/
def locNmeaIsDebug (nmea : Bytes) (length : ℕ) : Bool :=
  decide (6 ≤ length) && decide (length ≤ 4096) && nmea.getD 0 0 == 36 && nmea.getD 1 0 == 80 &&
    nmea.getD 2 0 == 81 && nmea.getD 3 0 == 87

/-- The pieces before each comma. -/
def tokenize : Bytes → Bytes → List Bytes
  | [], _ => []
  | b :: parser, str => if b = 44 then str :: tokenize parser [] else tokenize parser (str ++ [b])

/-- `SystemStatusNmeaBase::SystemStatusNmeaBase`: `mField`. -/
def mField (str_in : Bytes) (len_in : ℕ) : List Bytes :=
  if locNmeaIsDebug str_in len_in then
    match str_in.dropWhile (· != 42) with
    | [] => []
    | _ :: rest => tokenize (str_in.takeWhile (· != 42) ++ 44 :: rest) []
  else []

section Parsers

variable {D F : Type} (ops : FloatOps D F) (field : List Bytes)

/-- `atoi(mField[i].c_str())`, cut to the size of an unsigned field. -/
def fieldInt (i : ℕ) : Int32 := atoi (field.getD i [])
def fieldUInt32 (i : ℕ) : UInt32 := (fieldInt field i).toUInt32
def fieldUInt8 (i : ℕ) : UInt8 := (fieldUInt32 field i).toUInt8

/-- `strtol(mField[i].c_str(), NULL, 16)`. -/
def fieldHex (i : ℕ) : UInt64 := (strtol 16 (field.getD i [])).toUInt64

/-- `atof(mField[i].c_str())`. -/
def fieldDouble (i : ℕ) : D := ops.atof (field.getD i [])
def fieldFloat (i : ℕ) : F := ops.toFloat (fieldDouble ops field i)

/-- The record that `memset` leaves. -/
def zeroPQWM1 : SystemStatusPQWM1 D where
  mGpsWeek := 0
  mGpsTowMs := 0
  mTimeValid := 0
  mTimeSource := 0
  mTimeUnc := 0
  mClockFreqBias := 0
  mClockFreqBiasUnc := 0
  mXoState := 0
  mPgaGain := 0
  mGpsBpAmpI := 0
  mGpsBpAmpQ := 0
  mAdcI := 0
  mAdcQ := 0
  mJammerGps := 0
  mJammerGlo := 0
  mJammerBds := 0
  mJammerGal := 0
  mRecErrorRecovery := 0
  mAgcGps := ops.zero
  mAgcGlo := ops.zero
  mAgcBds := ops.zero
  mAgcGal := ops.zero
  mLeapSeconds := 0
  mLeapSecUnc := 0
  mGloBpAmpI := 0
  mGloBpAmpQ := 0
  mBdsBpAmpI := 0
  mBdsBpAmpQ := 0
  mGalBpAmpI := 0
  mGalBpAmpQ := 0
  mTimeUncNs := 0

/-- `SystemStatusPQWM1parser`. -/
def parsePQWM1 : SystemStatusPQWM1 D :=
  if field.length ≤ 22 then zeroPQWM1 ops
  else
    let leap (i : ℕ) : Int32 := if 24 < field.length then fieldInt field i else 0
    let amp (i : ℕ) : UInt32 := if 30 < field.length then fieldUInt32 field i else 0
    { mGpsWeek := (fieldUInt32 field 1).toUInt16
      mGpsTowMs := fieldUInt32 field 2
      mTimeValid := fieldUInt8 field 3
      mTimeSource := fieldUInt8 field 4
      mTimeUnc := fieldInt field 5
      mClockFreqBias := fieldInt field 6
      mClockFreqBiasUnc := fieldInt field 7
      mXoState := fieldUInt8 field 8
      mPgaGain := fieldInt field 9
      mGpsBpAmpI := fieldUInt32 field 10
      mGpsBpAmpQ := fieldUInt32 field 11
      mAdcI := fieldUInt32 field 12
      mAdcQ := fieldUInt32 field 13
      mJammerGps := fieldUInt32 field 14
      mJammerGlo := fieldUInt32 field 15
      mJammerBds := fieldUInt32 field 16
      mJammerGal := fieldUInt32 field 17
      mRecErrorRecovery := fieldUInt32 field 18
      mAgcGps := fieldDouble ops field 19
      mAgcGlo := fieldDouble ops field 20
      mAgcBds := fieldDouble ops field 21
      mAgcGal := fieldDouble ops field 22
      mLeapSeconds := leap 23
      mLeapSecUnc := leap 24
      mGloBpAmpI := amp 25
      mGloBpAmpQ := amp 26
      mBdsBpAmpI := amp 27
      mBdsBpAmpQ := amp 28
      mGalBpAmpI := amp 29
      mGalBpAmpQ := amp 30
      mTimeUncNs := if 31 < field.length then strtoull 10 (field.getD 31 []) else 0 }

/-- `SystemStatusPQWP1parser`. -/
def parsePQWP1 (mP1 : SystemStatusPQWP1 F) : SystemStatusPQWP1 F :=
  if field.length < 9 then mP1
  else
    { mEpiValidity := (fieldHex field 2).toUInt8
      mEpiLat := fieldFloat ops field 3
      mEpiLon := fieldFloat ops field 4
      mEpiAlt := fieldFloat ops field 5
      mEpiHepe := ops.intToFloat (fieldInt field 6)
      mEpiAltUnc := fieldFloat ops field 7
      mEpiSrc := fieldUInt8 field 8 }

/-- `SystemStatusPQWP2parser`. -/
def parsePQWP2 (mP2 : SystemStatusPQWP2 F) : SystemStatusPQWP2 F :=
  if field.length < 7 then mP2
  else
    { mBestLat := fieldFloat ops field 2
      mBestLon := fieldFloat ops field 3
      mBestAlt := fieldFloat ops field 4
      mBestHepe := fieldFloat ops field 5
      mBestAltUnc := fieldFloat ops field 6 }

/-- `SystemStatusPQWP3parser`. -/
def parsePQWP3 (mP3 : SystemStatusPQWP3) : SystemStatusPQWP3 :=
  if field.length < 13 then mP3
  else
    { mXtraValidMask := (fieldHex field 2).toUInt8
      mGpsXtraAge := fieldUInt32 field 3
      mGloXtraAge := fieldUInt32 field 4
      mBdsXtraAge := fieldUInt32 field 5
      mGalXtraAge := fieldUInt32 field 6
      mQzssXtraAge := fieldUInt32 field 7
      mNavicXtraAge := 0
      mGpsXtraValid := (fieldHex field 8).toUInt32
      mGloXtraValid := (fieldHex field 9).toUInt32
      mBdsXtraValid := fieldHex field 10
      mGalXtraValid := fieldHex field 11
      mQzssXtraValid := (fieldHex field 12).toUInt8
      mNavicXtraValid := 0 }

/-- `SystemStatusPQWP4parser`. -/
def parsePQWP4 (mP4 : SystemStatusPQWP4) : SystemStatusPQWP4 :=
  if field.length < 7 then mP4
  else
    { mGpsEpheValid := (fieldHex field 2).toUInt32
      mGloEpheValid := (fieldHex field 3).toUInt32
      mBdsEpheValid := fieldHex field 4
      mGalEpheValid := fieldHex field 5
      mQzssEpheValid := (fieldHex field 6).toUInt8 }

/-- The masks in five fields. -/
def fieldMasks (i : ℕ) : SvMasks where
  mGpsMask := (fieldHex field i).toUInt32
  mGloMask := (fieldHex field (i + 1)).toUInt32
  mBdsMask := fieldHex field (i + 2)
  mGalMask := fieldHex field (i + 3)
  mQzssMask := (fieldHex field (i + 4)).toUInt8
  mNavicMask := 0

/-- `SystemStatusPQWP5parser`. -/
def parsePQWP5 (mP5 : SystemStatusPQWP5) : SystemStatusPQWP5 :=
  if field.length < 17 then mP5 else ⟨fieldMasks field 2, fieldMasks field 7, fieldMasks field 12⟩

/-- `SystemStatusPQWP6parser`. -/
def parsePQWP6 (mP6 : SystemStatusPQWP6) : SystemStatusPQWP6 :=
  if field.length < 3 then mP6 else ⟨(fieldHex field 2).toUInt32⟩

/-- `SystemStatusPQWP7parser`; a sentence may be without the satellites of NAVIC. -/
def parsePQWP7 (mP7 : SystemStatusPQWP7) : SystemStatusPQWP7 :=
  if field.length < 2 + svAllNumMin * 3 then mP7
  else
    let svLimit := if field.length < 2 + svAllNum * 3 then svAllNumMin else svAllNum
    fun i =>
      if i.val < svLimit then
        ⟨fieldInt field (i.val * 3 + 2), fieldInt field (i.val * 3 + 3), fieldInt field (i.val * 3 + 4)⟩
      else ⟨0, 0, 0⟩

/-- `SystemStatusPQWS1parser`. -/
def parsePQWS1 (mS1 : SystemStatusPQWS1) : SystemStatusPQWS1 :=
  if field.length < 4 then mS1 else ⟨fieldUInt32 field 2, fieldUInt32 field 3⟩

end Parsers

section Items

variable {D F : Type}

/-- The items that are made of a `SystemStatusPQWM1`. -/
def SystemStatusTimeAndClock.ofNmea (nmea : SystemStatusPQWM1 D) : SystemStatusTimeAndClock where
  mGpsWeek := nmea.mGpsWeek
  mGpsTowMs := nmea.mGpsTowMs
  mTimeValid := nmea.mTimeValid
  mTimeSource := nmea.mTimeSource
  mTimeUnc := nmea.mTimeUnc
  mClockFreqBias := nmea.mClockFreqBias
  mClockFreqBiasUnc := nmea.mClockFreqBiasUnc
  mLeapSeconds := nmea.mLeapSeconds
  mLeapSecUnc := nmea.mLeapSecUnc
  mTimeUncNs := nmea.mTimeUncNs

def SystemStatusXoState.ofNmea (nmea : SystemStatusPQWM1 D) : SystemStatusXoState := ⟨nmea.mXoState⟩

def SystemStatusRfAndParams.ofNmea (nmea : SystemStatusPQWM1 D) : SystemStatusRfAndParams D where
  mPgaGain := nmea.mPgaGain
  mGpsBpAmpI := nmea.mGpsBpAmpI
  mGpsBpAmpQ := nmea.mGpsBpAmpQ
  mAdcI := nmea.mAdcI
  mAdcQ := nmea.mAdcQ
  mJammerGps := nmea.mJammerGps
  mJammerGlo := nmea.mJammerGlo
  mJammerBds := nmea.mJammerBds
  mJammerGal := nmea.mJammerGal
  mAgcGps := nmea.mAgcGps
  mAgcGlo := nmea.mAgcGlo
  mAgcBds := nmea.mAgcBds
  mAgcGal := nmea.mAgcGal
  mGloBpAmpI := nmea.mGloBpAmpI
  mGloBpAmpQ := nmea.mGloBpAmpQ
  mBdsBpAmpI := nmea.mBdsBpAmpI
  mBdsBpAmpQ := nmea.mBdsBpAmpQ
  mGalBpAmpI := nmea.mGalBpAmpI
  mGalBpAmpQ := nmea.mGalBpAmpQ

def SystemStatusErrRecovery.ofNmea (nmea : SystemStatusPQWM1 D) : SystemStatusErrRecovery := ⟨nmea.mRecErrorRecovery⟩

/-- `SystemStatusRfAndParams::equals`. -/
def SystemStatusRfAndParams.equals (ops : FloatOps D F) (item peer : SystemStatusRfAndParams D) : Bool :=
  item.mPgaGain == peer.mPgaGain && item.mGpsBpAmpI == peer.mGpsBpAmpI && item.mGpsBpAmpQ == peer.mGpsBpAmpQ &&
    item.mAdcI == peer.mAdcI && item.mAdcQ == peer.mAdcQ && item.mJammerGps == peer.mJammerGps &&
    item.mJammerGlo == peer.mJammerGlo && item.mJammerBds == peer.mJammerBds && item.mJammerGal == peer.mJammerGal &&
    !ops.differs item.mAgcGps peer.mAgcGps && !ops.differs item.mAgcGlo peer.mAgcGlo &&
    !ops.differs item.mAgcBds peer.mAgcBds && !ops.differs item.mAgcGal peer.mAgcGal &&
    item.mGloBpAmpI == peer.mGloBpAmpI && item.mGloBpAmpQ == peer.mGloBpAmpQ && item.mBdsBpAmpI == peer.mBdsBpAmpI &&
    item.mBdsBpAmpQ == peer.mBdsBpAmpQ && item.mGalBpAmpI == peer.mGalBpAmpI && item.mGalBpAmpQ == peer.mGalBpAmpQ

/-- `SystemStatusInjectedPosition::equals`. -/
def SystemStatusPQWP1.equals (ops : FloatOps D F) (item peer : SystemStatusPQWP1 F) : Bool :=
  item.mEpiValidity == peer.mEpiValidity && !ops.differsFloat item.mEpiLat peer.mEpiLat &&
    !ops.differsFloat item.mEpiLon peer.mEpiLon && !ops.differsFloat item.mEpiAlt peer.mEpiAlt &&
    !ops.differsFloat item.mEpiHepe peer.mEpiHepe && !ops.differsFloat item.mEpiAltUnc peer.mEpiAltUnc &&
    item.mEpiSrc == peer.mEpiSrc

/-- `SystemStatusBestPosition::equals`. -/
def SystemStatusPQWP2.equals (ops : FloatOps D F) (item peer : SystemStatusPQWP2 F) : Bool :=
  !ops.differsFloat item.mBestLat peer.mBestLat && !ops.differsFloat item.mBestLon peer.mBestLon &&
    !ops.differsFloat item.mBestAlt peer.mBestAlt && !ops.differsFloat item.mBestHepe peer.mBestHepe &&
    !ops.differsFloat item.mBestAltUnc peer.mBestAltUnc

/-- `SystemStatusSvHealth::equals`, which leaves out the masks of NAVIC. -/
def SvMasks.equals (masks peer : SvMasks) : Bool :=
  masks.mGpsMask == peer.mGpsMask && masks.mGloMask == peer.mGloMask && masks.mBdsMask == peer.mBdsMask &&
    masks.mGalMask == peer.mGalMask && masks.mQzssMask == peer.mQzssMask

def SystemStatusPQWP5.equals (item peer : SystemStatusPQWP5) : Bool :=
  item.unknown.equals peer.unknown && item.good.equals peer.good && item.bad.equals peer.bad

/-- `equals` of an item that compares all of its fields. -/
def equalsAll {T : Type} [DecidableEq T] (item peer : T) : Bool := decide (item = peer)

/-- `SystemStatus::setIteminReport` for an item that takes nothing from the one before it. -/
def setItem {T : Type} (equals : T → T → Bool) (report : List (Reported T)) (item : T) (utc : ℕ) : List (Reported T) :=
  (setIteminReport (fun _ => false) equals (fun s _ => s) report ⟨item, utc, utc⟩).1

end Items

/-- The types of sentences that are parsed. -/
inductive Sentence where
  | pqwm1 | pqwp1 | pqwp2 | pqwp3 | pqwp4 | pqwp5 | pqwp6 | pqwp7 | pqws1

def Sentence.text : Sentence → String
  | pqwm1 => "$PQWM1"
  | pqwp1 => "$PQWP1"
  | pqwp2 => "$PQWP2"
  | pqwp3 => "$PQWP3"
  | pqwp4 => "$PQWP4"
  | pqwp5 => "$PQWP5"
  | pqwp6 => "$PQWP6"
  | pqwp7 => "$PQWP7"
  | pqws1 => "$PQWS1"

/-- The first type whose text the data begin with. -/
def sentenceOf (data : Bytes) : Option Sentence :=
  [Sentence.pqwm1, .pqwp1, .pqwp2, .pqwp3, .pqwp4, .pqwp5, .pqwp6, .pqwp7, .pqws1].find? fun sentence =>
    strncmpEq 6 data (ascii sentence.text)

/-- The branches of `SystemStatus::setNmeaString`, at a time. -/
def storeSentence {D F : Type} (ops : FloatOps D F) (memory : ParserMemory F) (utc : ℕ)
    (mCache : SystemStatusReports D F) (field : List Bytes) : Sentence → SystemStatusReports D F
  | .pqwm1 =>
    let s := parsePQWM1 ops field
    { mCache with
      mTimeAndClock := setItem equalsAll mCache.mTimeAndClock (.ofNmea s) utc
      mXoState := setItem equalsAll mCache.mXoState (.ofNmea s) utc
      mRfAndParams := setItem (SystemStatusRfAndParams.equals ops) mCache.mRfAndParams (.ofNmea s) utc
      mErrRecovery := (setIteminReport (fun item => item.mRecErrorRecovery == 0) equalsAll (fun s _ => s)
        mCache.mErrRecovery ⟨.ofNmea s, utc, utc⟩).1 }
  | .pqwp1 =>
    { mCache with
      mInjectedPosition :=
        setItem (SystemStatusPQWP1.equals ops) mCache.mInjectedPosition (parsePQWP1 ops field memory.mP1) utc }
  | .pqwp2 =>
    { mCache with
      mBestPosition :=
        setItem (SystemStatusPQWP2.equals ops) mCache.mBestPosition (parsePQWP2 ops field memory.mP2) utc }
  | .pqwp3 => { mCache with mXtra := setItem equalsAll mCache.mXtra (parsePQWP3 field memory.mP3) utc }
  | .pqwp4 => { mCache with mEphemeris := setItem equalsAll mCache.mEphemeris (parsePQWP4 field memory.mP4) utc }
  | .pqwp5 =>
    { mCache with mSvHealth := setItem SystemStatusPQWP5.equals mCache.mSvHealth (parsePQWP5 field memory.mP5) utc }
  | .pqwp6 => { mCache with mPdr := setItem equalsAll mCache.mPdr (parsePQWP6 field memory.mP6) utc }
  | .pqwp7 => { mCache with mNavData := setItem equalsAll mCache.mNavData (parsePQWP7 field memory.mP7) utc }
  | .pqws1 =>
    { mCache with mPositionFailure := setItem equalsAll mCache.mPositionFailure (parsePQWS1 field memory.mS1) utc }

/-- `SystemStatus::setNmeaString`. -/
def setNmeaString {D F : Type} (ops : FloatOps D F) (memory : ParserMemory F) (utc : ℕ)
    (mCache : SystemStatusReports D F) (data : Bytes) (len : ℕ) : SystemStatusReports D F × Bool :=
  if locNmeaIsDebug data len then
    let buf := strlcpy data 4097
    match sentenceOf data with
    | some sentence => (storeSentence ops memory utc mCache (mField buf len) sentence, true)
    | none => (mCache, true)
  else (mCache, false)

end Cypfr.SystemStatus
