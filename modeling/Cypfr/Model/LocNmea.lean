import Mathlib

/-! # The satellite sentences of NMEA

`gps/utils/loc_nmea.cpp`: the GSA sentences list the satellites used in a fix, twelve in each, and those of one call
are a group under a code; the GSV sentences list the satellites in view by talker and signal, four in each. A sentence
is the list of what is printed into it; of its text only the length matters, by which printing it may end early.
-/

namespace Cypfr.LocNmea

/-- `GnssSvType`. -/
inductive GnssSvType where
  | unknown | gps | sbas | glonass | qzss | beidou | galileo | navic
  deriving DecidableEq

/-- The number of a type. -/
def GnssSvType.number : GnssSvType → UInt32
  | unknown => 0
  | gps => 1
  | sbas => 2
  | glonass => 3
  | qzss => 4
  | beidou => 5
  | galileo => 6
  | navic => 7

/-- `1 << type`. -/
def GnssSvType.bit (type : GnssSvType) : UInt32 := 1 <<< type.number

/-- `GnssSignalTypeMask`, whose values are those of the `GNSS_SIGNAL_` enumeration. -/
abbrev GnssSignalTypeMask := UInt32

namespace Signal

def bit (n : UInt32) : GnssSignalTypeMask := 1 <<< n

def gpsL1ca : GnssSignalTypeMask := bit 0
def gpsL1c : GnssSignalTypeMask := bit 1
def gpsL2 : GnssSignalTypeMask := bit 2
def gpsL5 : GnssSignalTypeMask := bit 3
def glonassG1 : GnssSignalTypeMask := bit 4
def glonassG2 : GnssSignalTypeMask := bit 5
def galileoE1 : GnssSignalTypeMask := bit 6
def galileoE5a : GnssSignalTypeMask := bit 7
def galileoE5b : GnssSignalTypeMask := bit 8
def qzssL1ca : GnssSignalTypeMask := bit 11
def qzssL2 : GnssSignalTypeMask := bit 13
def qzssL5 : GnssSignalTypeMask := bit 14
def sbasL1 : GnssSignalTypeMask := bit 15
def beidouB1i : GnssSignalTypeMask := bit 16
def beidouB1c : GnssSignalTypeMask := bit 17
def beidouB2i : GnssSignalTypeMask := bit 18
def beidouB2ai : GnssSignalTypeMask := bit 19
def navicL5 : GnssSignalTypeMask := bit 20
def beidouB2aq : GnssSignalTypeMask := bit 21

end Signal

open Signal in
/-- `convert_signalType_to_signalId`. -/
def convertSignalTypeToSignalId (signalType : GnssSignalTypeMask) : UInt32 :=
  if signalType = gpsL1ca ∨ signalType = sbasL1 then 1
  else if signalType = gpsL2 then 6
  else if signalType = gpsL5 then 8
  else if signalType = glonassG1 then 1
  else if signalType = glonassG2 then 3
  else if signalType = galileoE1 then 7
  else if signalType = galileoE5a then 1
  else if signalType = galileoE5b then 2
  else if signalType = qzssL1ca then 1
  else if signalType = qzssL2 then 6
  else if signalType = qzssL5 then 8
  else if signalType = beidouB1i then 1
  else if signalType = beidouB1c then 3
  else if signalType = beidouB2i then 0xB
  else if signalType = beidouB2ai ∨ signalType = beidouB2aq then 5
  else if signalType = navicL5 then 1
  else 0

/-- The counters of `loc_sv_cache_info`. -/
inductive SvCounter where
  | gpsL1 | gpsL2 | gpsL5 | gloG1 | gloG2 | galE1 | galE5 | galE5b | qzssL1 | qzssL2 | qzssL5 | bdsB1i | bdsB1c | bdsB2
  | navicL5
  deriving DecidableEq

/-- `loc_sv_cache_info`. -/
structure LocSvCacheInfo where
  gps_used_mask : UInt64
  glo_used_mask : UInt64
  gal_used_mask : UInt64
  qzss_used_mask : UInt64
  bds_used_mask : UInt64
  navic_used_mask : UInt64
  count : SvCounter → UInt32

/-- `loc_nmea_sv_meta`. -/
structure LocNmeaSvMeta where
  talker : String
  svTypeMask : UInt32
  mask : UInt64
  svCount : UInt32
  totalSvUsedCount : UInt32
  svIdOffset : UInt32
  signalId : UInt32
  systemId : UInt32

/-- `get_sv_count_from_mask`. -/
def getSvCountFromMask (svMask : UInt64) (totalSvCount : ℕ) : UInt32 :=
  UInt32.ofNat ((List.range totalSvCount).countP svMask.toNat.testBit)

/-- `totalSvUsedCount`. -/
def LocSvCacheInfo.totalSvUsedCount (info : LocSvCacheInfo) : UInt32 :=
  getSvCountFromMask info.gps_used_mask 32 + getSvCountFromMask info.glo_used_mask 32 +
    getSvCountFromMask info.gal_used_mask 36 + getSvCountFromMask info.qzss_used_mask 5 +
      getSvCountFromMask info.bds_used_mask 63 + getSvCountFromMask info.navic_used_mask 14

/-- More than one constellation is used. -/
def LocSvCacheInfo.combined (info : LocSvCacheInfo) : Bool :=
  decide (1 < [info.gps_used_mask, info.glo_used_mask, info.gal_used_mask, info.qzss_used_mask, info.bds_used_mask,
    info.navic_used_mask].countP (· != 0))

/-- The talker, the mask, the offset of the ids, the number of the system and the counters of a constellation. -/
structure Constellation where
  talker : String
  mask : LocSvCacheInfo → UInt64
  svIdOffset : UInt32
  systemId : UInt32
  counters : List (GnssSignalTypeMask × SvCounter)

open Signal in
/-- The cases of `loc_nmea_sv_meta_init`. -/
def GnssSvType.constellation : GnssSvType → Option Constellation
  | gps => some ⟨"GP", (·.gps_used_mask), 0, 1, [(gpsL1ca, .gpsL1), (gpsL5, .gpsL5), (gpsL2, .gpsL2)]⟩
  | glonass => some ⟨"GL", (·.glo_used_mask), 64, 2, [(glonassG1, .gloG1), (glonassG2, .gloG2)]⟩
  | galileo =>
    some ⟨"GA", (·.gal_used_mask), 300, 3, [(galileoE1, .galE1), (galileoE5a, .galE5), (galileoE5b, .galE5b)]⟩
  | qzss => some ⟨"GQ", (·.qzss_used_mask), 192, 5, [(qzssL1ca, .qzssL1), (qzssL2, .qzssL2), (qzssL5, .qzssL5)]⟩
  | beidou =>
    some ⟨"GB", (·.bds_used_mask), 200, 4, [(beidouB1i, .bdsB1i), (beidouB1c, .bdsB1c), (beidouB2ai, .bdsB2)]⟩
  | navic => some ⟨"GI", (·.navic_used_mask), 400, 6, [(navicL5, .navicL5)]⟩
  | unknown => none
  | sbas => none

/-- `loc_nmea_sv_meta_init`. -/
def locNmeaSvMetaInit (info : LocSvCacheInfo) (svType : GnssSvType) (signalType : GnssSignalTypeMask)
    (needCombine : Bool) : Option LocNmeaSvMeta :=
  svType.constellation.map fun constellation =>
    { talker := if needCombine && info.combined then "GN" else constellation.talker
      svTypeMask := if svType = .gps then svType.bit ||| GnssSvType.sbas.bit else svType.bit
      mask := constellation.mask info
      svCount := ((constellation.counters.lookup signalType).map info.count).getD 0
      totalSvUsedCount := info.totalSvUsedCount
      svIdOffset := constellation.svIdOffset
      signalId := convertSignalTypeToSignalId signalType
      systemId := constellation.systemId }

/-- The number of digits of a number of 32 bits. -/
def digitCount (n : ℕ) : ℕ := 1 + [10, 10 ^ 2, 10 ^ 3, 10 ^ 4, 10 ^ 5, 10 ^ 6, 10 ^ 7, 10 ^ 8, 10 ^ 9].countP (· ≤ n)

/-- The length of an `int` that is printed with a width. -/
def printedLength (width : ℕ) (n : ℤ) : ℕ := max width (digitCount n.natAbs + if n < 0 then 1 else 0)

/-- The length of a `uint32_t` that is printed as an `int`. -/
def printedLength32 (width : ℕ) (n : UInt32) : ℕ := printedLength width n.toInt32.toInt

/-- `NMEA_SENTENCE_MAX_LENGTH`, the size of the buffer. -/
def nmeaSentenceMaxLength : ℕ := 200

/-- `MAX_TAG_BLOCK_GROUP_CODE`. -/
def maxTagBlockGroupCode : UInt32 := 99999

section Gsa

/-- `\g:` and the number of the sentence, that of the sentences and the code. -/
structure TagBlock where
  sentenceNumber : UInt32
  sentenceCount : UInt32
  code : UInt32
  deriving DecidableEq

/-- The length of a tag block with its checksum. -/
def TagBlock.length (tag : TagBlock) : ℕ :=
  3 + printedLength32 1 tag.sentenceNumber + 1 + printedLength32 1 tag.sentenceCount + 1 +
    printedLength32 1 tag.code + 4

/-- A GSA sentence; `dop` is the text of its three values. -/
structure GsaSentence where
  tagBlock : Option TagBlock
  talker : String
  fixType : Char
  svIds : List UInt32
  dop : String
  systemId : UInt32

/-- The numbers of the set bits of a mask from `i` on, with an offset; at most `room` are taken. -/
def svUsedList (svIdOffset : UInt32) : ℕ → ℕ → UInt64 → List UInt32
  | 0, _, _ => []
  | rounds + 1, i, mask =>
    if mask = 0 then []
    else if mask &&& 1 ≠ 0 then (UInt32.ofNat i + svIdOffset) :: svUsedList svIdOffset rounds (i + 1) (mask >>> 1)
    else svUsedList svIdOffset rounds (i + 1) (mask >>> 1)

/-- The offset that a constellation's ids are used with. -/
def LocNmeaSvMeta.gsaOffset (svMeta : LocNmeaSvMeta) : UInt32 :=
  if svMeta.svTypeMask &&& GnssSvType.glonass.bit = 0 then 0 else svMeta.svIdOffset

/-- Printing one text after the other into what remains of the buffer. -/
def printAll : ℕ → List ℕ → Bool
  | _, [] => true
  | lengthRemaining, length :: rest =>
    if lengthRemaining ≤ length then false else printAll (lengthRemaining - length) rest

/-- The lengths of what is printed before the values of the DOP: the talker with the type of the fix, and twelve ids. -/
def gsaLengths (talker : String) (svIds : List UInt32) : List ℕ :=
  (talker.length + 9) :: (svIds.map (fun svId => printedLength32 2 svId + 1) ++ List.replicate (12 - svIds.length) 1)

/-- The loop of `loc_nmea_generate_GSA`: the sentences, the code and whether it came to its end. -/
def gsaLoop (svMeta : LocNmeaSvMeta) (dop : String) (isTagBlockGroupingEnabled grouped : Bool)
    (sentenceCount : UInt32) : ℕ → UInt32 → List UInt32 → UInt32 → List GsaSentence × UInt32 × Bool
  | 0, _, _, code => ([], code, true)
  | left + 1, sentenceNumber, svIds, code =>
    let tagBlock := if grouped then some ⟨sentenceNumber, sentenceCount, code⟩ else none
    let code := if grouped && maxTagBlockGroupCode == code then 1 else code
    let fixType := if svMeta.totalSvUsedCount = 0 then '1' else if svMeta.totalSvUsedCount ≤ 3 then '2' else '3'
    if printAll (nmeaSentenceMaxLength - (tagBlock.map (·.length)).getD 0)
        (gsaLengths svMeta.talker (svIds.take 12)) then
      let sentence := ⟨tagBlock, svMeta.talker, fixType, svIds.take 12, dop, svMeta.systemId⟩
      if isTagBlockGroupingEnabled then
        let later := gsaLoop svMeta dop isTagBlockGroupingEnabled grouped sentenceCount left (sentenceNumber + 1)
          (svIds.drop 12) code
        (sentence :: later.1, later.2)
      else ([sentence], code, true)
    else ([], code, false)

/-- The ids of a call. -/
def LocNmeaSvMeta.used (svMeta : LocNmeaSvMeta) : List UInt32 := svUsedList svMeta.gsaOffset 64 1 svMeta.mask

/-- `loc_nmea_generate_GSA`: the sentences, the code for the next call and the number of satellites. -/
def locNmeaGenerateGSA (code : UInt32) (svMeta : LocNmeaSvMeta) (dop : String) (isTagBlockGroupingEnabled : Bool) :
    List GsaSentence × UInt32 × ℕ :=
  let svUsedCount := svMeta.used.length
  let grouped := decide (12 < svUsedCount) && isTagBlockGroupingEnabled
  if svUsedCount = 0 then ([], code, 0)
  else
    let sentenceCount := svUsedCount / 12 + if svUsedCount % 12 = 0 then 0 else 1
    let result :=
      gsaLoop svMeta dop isTagBlockGroupingEnabled grouped (UInt32.ofNat sentenceCount) sentenceCount 1 svMeta.used code
    if result.2.2 then (result.1, if grouped then result.2.1 + 1 else result.2.1, svUsedCount)
    else (result.1, result.2.1, 0)

/-- A call for a constellation, with its satellites and the text of the DOP. -/
structure GsaCall where
  info : LocSvCacheInfo
  svType : GnssSvType
  signalType : GnssSignalTypeMask
  dop : String

/-- The static code, the last call with its sentences and the code of the group before. -/
structure GsaRun where
  code : UInt32
  last : Option (LocNmeaSvMeta × List GsaSentence)
  previous : Option UInt32

namespace GsaRun

def start : GsaRun := ⟨1, none, none⟩

/-- The code of the last group. -/
def groupCode (r : GsaRun) : Option UInt32 :=
  match r.last with
  | some (svMeta, sentences) =>
    if 12 < svMeta.used.length then (sentences.head?.bind (·.tagBlock)).map (·.code) else r.previous
  | none => r.previous

/-- A call with more satellites than one sentence lists. -/
def grouped (call : GsaCall) : Bool :=
  (locNmeaSvMetaInit call.info call.svType call.signalType true).any fun svMeta => decide (12 < svMeta.used.length)

/-- A call with grouping enabled. -/
def step (r : GsaRun) (call : GsaCall) : GsaRun :=
  match locNmeaSvMetaInit call.info call.svType call.signalType true with
  | none => { r with last := none, previous := r.groupCode }
  | some svMeta =>
    let result := locNmeaGenerateGSA r.code svMeta call.dop true
    ⟨result.2.1, some (svMeta, result.1), r.groupCode⟩

end GsaRun

end Gsa

section Gsv

/-- `GnssSv`: the elevation and the azimuth as they are rounded, and the strength so if it is positive. -/
structure GnssSv where
  svId : UInt16
  type : GnssSvType
  cN0Dbhz : Option Int32
  elevation : Int32
  azimuth : Int32
  usedInFix : Bool
  gnssSignalTypeMask : GnssSignalTypeMask
  deriving DecidableEq

/-- `GNSS_SV_MAX`. -/
def gnssSvMax : ℕ := 128

/-- `GnssSvNotification`. -/
structure GnssSvNotification where
  gnssSvs : List GnssSv
  count_le : gnssSvs.length ≤ gnssSvMax

open Signal in
/-- The counter that a satellite is counted by. -/
def GnssSv.counter (sv : GnssSv) : Option SvCounter :=
  match sv.type with
  | .gps | .sbas =>
    if sv.gnssSignalTypeMask = gpsL5 then some .gpsL5
    else if sv.gnssSignalTypeMask = gpsL2 then some .gpsL2
    else some .gpsL1
  | .glonass => if sv.gnssSignalTypeMask = glonassG2 then some .gloG2 else some .gloG1
  | .galileo =>
    if sv.gnssSignalTypeMask = galileoE5a then some .galE5
    else if sv.gnssSignalTypeMask = galileoE5b then some .galE5b
    else some .galE1
  | .qzss =>
    if sv.gnssSignalTypeMask = qzssL5 then some .qzssL5
    else if sv.gnssSignalTypeMask = qzssL2 then some .qzssL2
    else some .qzssL1
  | .beidou =>
    if sv.gnssSignalTypeMask = beidouB2ai ∨ sv.gnssSignalTypeMask = beidouB2aq then some .bdsB2
    else if sv.gnssSignalTypeMask = beidouB1c then some .bdsB1c
    else some .bdsB1i
  | .navic => some .navicL5
  | .unknown => none

/-- `setSvMask`. -/
def setSvMask (mask : UInt64) (svIdOneBase : UInt16) : UInt64 :=
  if 1 ≤ svIdOneBase ∧ svIdOneBase ≤ 64 then mask ||| 1 <<< (svIdOneBase.toUInt64 - 1) else mask

/-- A satellite is counted. -/
def LocSvCacheInfo.add (info : LocSvCacheInfo) (sv : GnssSv) : LocSvCacheInfo :=
  { info with
    bds_used_mask :=
      if sv.type = .beidou ∧ sv.usedInFix = true then setSvMask info.bds_used_mask sv.svId else info.bds_used_mask
    count :=
      match sv.counter with
      | some counter => Function.update info.count counter (info.count counter + 1)
      | none => info.count }

/-- The counts of a report. -/
def GnssSvNotification.cacheInfo (svNotify : GnssSvNotification) : LocSvCacheInfo :=
  svNotify.gnssSvs.foldl LocSvCacheInfo.add ⟨0, 0, 0, 0, 0, 0, fun _ => 0⟩

open Signal in
/-- The signal of a satellite, or that of its type when there is none. -/
def GnssSv.signalType (sv : GnssSv) : Option GnssSignalTypeMask :=
  if sv.gnssSignalTypeMask = 0 then
    match sv.type with
    | .gps => some gpsL1ca
    | .glonass => some glonassG1
    | .galileo => some galileoE1
    | .qzss => some qzssL1ca
    | .beidou => some beidouB1i
    | .sbas => some sbasL1
    | .navic => some navicL5
    | .unknown => none
  else some sv.gnssSignalTypeMask

/-- A satellite is listed under a talker and a signal. -/
def LocNmeaSvMeta.lists (svMeta : LocNmeaSvMeta) (sv : GnssSv) : Bool :=
  sv.signalType.any fun signalType =>
    svMeta.svTypeMask &&& sv.type.bit != 0 && svMeta.signalId == convertSignalTypeToSignalId signalType

/-- `SBAS_SV_ID_OFFSET`. -/
def sbasSvIdOffset : UInt32 := 87

/-- `GLO_SV_PRN_SLOT_UNKNOWN`. -/
def gloSvPrnSlotUnknown : UInt16 := 255

/-- A block of a sentence: a satellite with its number in the report, and its id as it is printed. -/
structure GsvBlock where
  sv : GnssSv
  svNumber : ℕ
  svId : Option UInt32
  deriving DecidableEq

/-- The offset after a satellite is met. -/
def GnssSv.offset (sv : GnssSv) (svIdOffset : UInt32) : UInt32 :=
  if sv.type = .sbas then sbasSvIdOffset else svIdOffset

/-- The block of a satellite. -/
def gsvBlock (svIdOffset : UInt32) (entry : GnssSv × ℕ) : GsvBlock where
  sv := entry.1
  svNumber := entry.2
  svId :=
    if entry.1.type = .glonass ∧ entry.1.svId = gloSvPrnSlotUnknown then none
    else some (entry.1.svId.toUInt32 - svIdOffset)

/-- The lengths of what is printed for a block: the id and the angles, and the strength. -/
def GsvBlock.lengths (block : GsvBlock) : List ℕ :=
  (4 + (block.svId.map (printedLength32 2)).getD 0 + printedLength 2 block.sv.elevation.toInt +
    printedLength 3 block.sv.azimuth.toInt) ::
    block.sv.cN0Dbhz.toList.map fun strength => printedLength 2 strength.toInt

/-- The inner loop of `loc_nmea_generate_GSV`: the blocks, the offset after them and the satellites that are left,
unless it ends early. -/
def gsvBlocks (svMeta : LocNmeaSvMeta) :
    ℕ → ℕ → UInt32 → List (GnssSv × ℕ) → Option (List GsvBlock × UInt32 × List (GnssSv × ℕ))
  | _, _, svIdOffset, [] => some ([], svIdOffset, [])
  | 0, _, svIdOffset, entry :: rest => some ([], svIdOffset, entry :: rest)
  | room + 1, lengthRemaining, svIdOffset, entry :: rest =>
    if svMeta.lists entry.1 then
      let svIdOffset := entry.1.offset svIdOffset
      let block := gsvBlock svIdOffset entry
      if printAll lengthRemaining block.lengths then
        (gsvBlocks svMeta room (lengthRemaining - block.lengths.sum) svIdOffset rest).map fun later =>
          (block :: later.1, later.2)
      else none
    else gsvBlocks svMeta (room + 1) lengthRemaining svIdOffset rest

/-- A GSV sentence. -/
structure GsvSentence where
  talker : String
  sentenceCount : ℕ
  sentenceNumber : ℕ
  svCount : ℕ
  blocks : List GsvBlock
  signalId : UInt32

/-- The length of the beginning of a sentence. -/
def gsvHeaderLength (svMeta : LocNmeaSvMeta) (sentenceCount sentenceNumber : ℕ) : ℕ :=
  svMeta.talker.length + 7 + printedLength 1 sentenceCount + printedLength 1 sentenceNumber +
    printedLength 2 svMeta.svCount.toNat

/-- The outer loop of `loc_nmea_generate_GSV`. -/
def gsvLoop (svMeta : LocNmeaSvMeta) (sentenceCount : ℕ) :
    ℕ → ℕ → UInt32 → List (GnssSv × ℕ) → List GsvSentence
  | 0, _, _, _ => []
  | left + 1, sentenceNumber, svIdOffset, svs =>
    if gsvHeaderLength svMeta sentenceCount sentenceNumber < nmeaSentenceMaxLength then
      match gsvBlocks svMeta 4 (nmeaSentenceMaxLength - gsvHeaderLength svMeta sentenceCount sentenceNumber) svIdOffset
        svs with
      | some (blocks, svIdOffset, svs) =>
        ⟨svMeta.talker, sentenceCount, sentenceNumber, svMeta.svCount.toNat, blocks, svMeta.signalId⟩ ::
          gsvLoop svMeta sentenceCount left (sentenceNumber + 1) svIdOffset svs
      | none => []
    else []

/-- `loc_nmea_generate_GSV`. -/
def locNmeaGenerateGSV (svNotify : GnssSvNotification) (svMeta : LocNmeaSvMeta) : List GsvSentence :=
  if svMeta.svCount.toInt32 ≤ 0 then []
  else
    let sentenceCount := svMeta.svCount.toNat / 4 + if svMeta.svCount.toNat % 4 = 0 then 0 else 1
    gsvLoop svMeta sentenceCount sentenceCount 1
      (if svMeta.svTypeMask &&& GnssSvType.glonass.bit = 0 then svMeta.svIdOffset else 0) (svNotify.gnssSvs.zipIdx 1)

open Signal in
/-- The talkers and signals that sentences are made for. -/
def gsvGroups : List (GnssSvType × GnssSignalTypeMask) :=
  [(.gps, gpsL1ca), (.gps, gpsL5), (.gps, gpsL2), (.glonass, glonassG1), (.glonass, glonassG2), (.galileo, galileoE1),
    (.galileo, galileoE5a), (.galileo, galileoE5b), (.qzss, qzssL1ca), (.qzss, qzssL5), (.qzss, qzssL2),
    (.beidou, beidouB1i), (.beidou, beidouB1c), (.beidou, beidouB2ai), (.navic, navicL5)]

/-- `loc_nmea_generate_sv`. -/
def locNmeaGenerateSv (svNotify : GnssSvNotification) : List GsvSentence :=
  gsvGroups.flatMap fun group =>
    ((locNmeaSvMetaInit svNotify.cacheInfo group.1 group.2 false).map (locNmeaGenerateGSV svNotify)).getD []

end Gsv

end Cypfr.LocNmea
