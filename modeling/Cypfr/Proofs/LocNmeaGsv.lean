import Cypfr.Proofs.LocNmea

/-! # Listing satellites

A sentence always fits its buffer, so the sentences for a talker and a signal list the satellites in their order, four
in each.
-/

namespace Cypfr.LocNmea

section Lengths

theorem digitCount_le_of_lt {n k : ℕ} (below : n < 10 ^ (k + 1)) : digitCount n ≤ k + 1 := by
  have powers : [10, 10 ^ 2, 10 ^ 3, 10 ^ 4, 10 ^ 5, 10 ^ 6, 10 ^ 7, 10 ^ 8, 10 ^ 9] =
      (List.range 9).map fun i => 10 ^ (i + 1) := rfl
  have few : (List.range 9).countP ((fun bound => decide (bound ≤ n)) ∘ fun i => 10 ^ (i + 1)) ≤
      (List.range 9).countP fun i => decide (i < k) := by
    apply List.countP_mono_left
    intro i _ reached
    have exponent := (Nat.pow_lt_pow_iff_right (by decide)).mp (Nat.lt_of_le_of_lt (of_decide_eq_true reached) below)
    exact decide_eq_true (Nat.lt_of_succ_lt_succ exponent)
  have bounded (m : ℕ) : (List.range m).countP (fun i => decide (i < k)) ≤ k := by
    induction m with
    | zero => exact Nat.zero_le _
    | succ m ih =>
      rw [List.range_succ, List.countP_append, List.countP_singleton]
      split_ifs with last
      · have most := List.countP_le_length (p := fun i => decide (i < k)) (l := List.range m)
        rw [List.length_range] at most
        have below := of_decide_eq_true last
        omega
      · exact ih
  have most := Nat.le_trans few (bounded 9)
  rw [digitCount, powers, List.countP_map]
  omega

theorem printedLength_nat_le {width n k : ℕ} (narrow : width ≤ k + 1) (below : n < 10 ^ (k + 1)) :
    printedLength width n ≤ k + 1 := by
  have digits := digitCount_le_of_lt below
  rw [printedLength, Int.natAbs_natCast, if_neg (by omega)]
  omega

/-- An id is printed with at most five characters. -/
theorem printedLength_svId_le {svId : UInt16} {svIdOffset : UInt32} (bounded : svIdOffset ≤ 400) :
    printedLength32 2 (svId.toUInt32 - svIdOffset) ≤ 5 := by
  have id := svId.toNat_lt
  have offset := UInt32.le_iff_toNat_le.mp bounded
  have bound : (400 : UInt32).toNat = 400 := rfl
  have difference : (svId.toUInt32 - svIdOffset).toNat = (2 ^ 32 - svIdOffset.toNat + svId.toNat) % 2 ^ 32 := by
    rw [UInt32.toNat_sub, UInt16.toNat_toUInt32]
  have int : (svId.toUInt32 - svIdOffset).toInt32.toInt = (svId.toNat : ℤ) - svIdOffset.toNat := by
    rw [Int32.toInt, UInt32.toBitVec_toInt32, BitVec.toInt_eq_toNat_bmod, UInt32.toNat_toBitVec, difference, Int.bmod]
    omega
  rw [printedLength32, int]
  by_cases least : svIdOffset.toNat ≤ svId.toNat
  · rw [show (svId.toNat : ℤ) - svIdOffset.toNat = (svId.toNat - svIdOffset.toNat : ℕ) by omega]
    exact printedLength_nat_le (by decide) (by omega)
  · have digits : digitCount ((svId.toNat : ℤ) - svIdOffset.toNat).natAbs ≤ 3 := digitCount_le_of_lt (by omega)
    rw [printedLength, if_pos (by omega)]
    omega

theorem gsvBlock_lengths_le {svIdOffset : UInt32} (bounded : svIdOffset ≤ 400) (entry : GnssSv × ℕ) :
    (gsvBlock svIdOffset entry).lengths.sum ≤ 42 := by
  have elevation := printedLength_le (by decide : 2 ≤ 11) entry.1.elevation.toInt
  have azimuth := printedLength_le (by decide : 3 ≤ 11) entry.1.azimuth.toInt
  have id : ((gsvBlock svIdOffset entry).svId.map (printedLength32 2)).getD 0 ≤ 5 := by
    rw [gsvBlock]
    split_ifs
    · exact Nat.zero_le _
    · exact printedLength_svId_le bounded
  have strength : (entry.1.cN0Dbhz.toList.map fun strength => printedLength 2 strength.toInt).sum ≤ 11 := by
    cases entry.1.cN0Dbhz with
    | none => exact Nat.zero_le _
    | some strength => exact printedLength_le (by decide) strength.toInt
  rw [GsvBlock.lengths, List.sum_cons]
  change 4 + _ + printedLength 2 entry.1.elevation.toInt + printedLength 3 entry.1.azimuth.toInt +
    (entry.1.cN0Dbhz.toList.map fun strength => printedLength 2 strength.toInt).sum ≤ 42
  omega

end Lengths

section Blocks

/-- The blocks of satellites in a row. -/
def printedBlocks : UInt32 → List (GnssSv × ℕ) → List GsvBlock
  | _, [] => []
  | svIdOffset, entry :: rest =>
    gsvBlock (entry.1.offset svIdOffset) entry :: printedBlocks (entry.1.offset svIdOffset) rest

/-- The offset after satellites in a row. -/
def offsetAfter (svIdOffset : UInt32) (entries : List (GnssSv × ℕ)) : UInt32 :=
  entries.foldl (fun svIdOffset entry => entry.1.offset svIdOffset) svIdOffset

theorem printedBlocks_append (svIdOffset : UInt32) (entries rest : List (GnssSv × ℕ)) :
    printedBlocks svIdOffset (entries ++ rest) =
      printedBlocks svIdOffset entries ++ printedBlocks (offsetAfter svIdOffset entries) rest := by
  induction entries generalizing svIdOffset with
  | nil => rfl
  | cons entry entries ih =>
    rw [List.cons_append, printedBlocks, ih]
    rfl

theorem map_printedBlocks (svIdOffset : UInt32) (entries : List (GnssSv × ℕ)) :
    (printedBlocks svIdOffset entries).map (fun block => (block.sv, block.svNumber)) = entries := by
  induction entries generalizing svIdOffset with
  | nil => rfl
  | cons entry entries ih => rw [printedBlocks, List.map_cons, ih, gsvBlock]

theorem length_printedBlocks (svIdOffset : UInt32) (entries : List (GnssSv × ℕ)) :
    (printedBlocks svIdOffset entries).length = entries.length := by
  have entries := congrArg List.length (map_printedBlocks svIdOffset entries)
  rwa [List.length_map] at entries

theorem offset_le {svIdOffset : UInt32} (bounded : svIdOffset ≤ 400) (sv : GnssSv) : sv.offset svIdOffset ≤ 400 := by
  rw [GnssSv.offset]
  split_ifs
  · decide
  · exact bounded

theorem offsetAfter_le {svIdOffset : UInt32} (bounded : svIdOffset ≤ 400) (entries : List (GnssSv × ℕ)) :
    offsetAfter svIdOffset entries ≤ 400 := by
  induction entries generalizing svIdOffset with
  | nil => exact bounded
  | cons entry entries ih => exact ih (offset_le bounded entry.1)

/-- What is printed fits when it is shorter than the room. -/
theorem printAll_lengths {svIdOffset : UInt32} (bounded : svIdOffset ≤ 400) (entry : GnssSv × ℕ) {lengthRemaining : ℕ}
    (fits : 42 < lengthRemaining) : printAll lengthRemaining (gsvBlock svIdOffset entry).lengths = true :=
  printAll_of_sum_lt (Nat.lt_of_le_of_lt (gsvBlock_lengths_le bounded entry) fits)

/-- The satellites under a talker and a signal. -/
def LocNmeaSvMeta.listed (svMeta : LocNmeaSvMeta) (svs : List (GnssSv × ℕ)) : List (GnssSv × ℕ) :=
  svs.filter fun entry => svMeta.lists entry.1

/-- A sentence lists as many satellites as there is room for, and leaves the others. -/
theorem gsvBlocks_eq (svMeta : LocNmeaSvMeta) (room lengthRemaining : ℕ) {svIdOffset : UInt32}
    (fits : 42 * room < lengthRemaining) (bounded : svIdOffset ≤ 400) (svs : List (GnssSv × ℕ)) :
    ∃ rest, gsvBlocks svMeta room lengthRemaining svIdOffset svs =
        some (printedBlocks svIdOffset ((svMeta.listed svs).take room),
          offsetAfter svIdOffset ((svMeta.listed svs).take room), rest) ∧
      svMeta.listed rest = (svMeta.listed svs).drop room := by
  induction svs generalizing room lengthRemaining svIdOffset with
  | nil =>
    refine ⟨[], ?_, ?_⟩
    · rw [gsvBlocks, LocNmeaSvMeta.listed, List.filter_nil, List.take_nil]
      rfl
    · rw [LocNmeaSvMeta.listed, List.filter_nil, List.drop_nil]
  | cons entry svs ih =>
    cases room with
    | zero => exact ⟨entry :: svs, rfl, rfl⟩
    | succ room =>
      by_cases own : svMeta.lists entry.1 = true
      · have length := gsvBlock_lengths_le (offset_le bounded entry.1) entry
        obtain ⟨rest, later, left⟩ := ih room
          (lengthRemaining - (gsvBlock (entry.1.offset svIdOffset) entry).lengths.sum) (by omega)
          (offset_le bounded entry.1)
        have listed : svMeta.listed (entry :: svs) = entry :: svMeta.listed svs := List.filter_cons_of_pos own
        refine ⟨rest, ?_, ?_⟩
        · rw [gsvBlocks, if_pos own]
          simp only [printAll_lengths (offset_le bounded entry.1) entry (by omega : 42 < lengthRemaining), if_true]
          rw [later, listed, List.take_succ_cons]
          rfl
        · rw [listed, List.drop_succ_cons, left]
      · obtain ⟨rest, later, left⟩ := ih (room + 1) lengthRemaining fits bounded
        have listed : svMeta.listed (entry :: svs) = svMeta.listed svs := List.filter_cons_of_neg own
        refine ⟨rest, ?_, ?_⟩
        · rw [gsvBlocks, if_neg own, later, listed]
        · rw [listed, left]

end Blocks

section Sentences

variable {svMeta : LocNmeaSvMeta} {sentenceCount : ℕ}

/-- The sentences that list satellites, four in each. -/
def gsvSentences (svMeta : LocNmeaSvMeta) (sentenceCount : ℕ) :
    ℕ → ℕ → UInt32 → List (GnssSv × ℕ) → List GsvSentence
  | 0, _, _, _ => []
  | left + 1, sentenceNumber, svIdOffset, entries =>
    ⟨svMeta.talker, sentenceCount, sentenceNumber, svMeta.svCount.toNat, printedBlocks svIdOffset (entries.take 4),
      svMeta.signalId⟩ ::
      gsvSentences svMeta sentenceCount left (sentenceNumber + 1) (offsetAfter svIdOffset (entries.take 4))
        (entries.drop 4)

theorem gsvHeaderLength_le (short : svMeta.talker.length ≤ 2) {sentenceNumber : ℕ}
    (counted : svMeta.svCount.toNat < 1000)
    (sentences : sentenceCount < 1000) (number : sentenceNumber < 1000) :
    gsvHeaderLength svMeta sentenceCount sentenceNumber ≤ 18 := by
  have count : printedLength 1 sentenceCount ≤ 2 + 1 := printedLength_nat_le (by decide) sentences
  have number : printedLength 1 sentenceNumber ≤ 2 + 1 := printedLength_nat_le (by decide) number
  have total : printedLength 2 svMeta.svCount.toNat ≤ 2 + 1 := printedLength_nat_le (by decide) counted
  rw [gsvHeaderLength]
  omega

/-- The loop comes to its end. -/
theorem gsvLoop_eq (short : svMeta.talker.length ≤ 2) (counted : svMeta.svCount.toNat < 1000)
    (sentences : sentenceCount < 1000) {left sentenceNumber : ℕ} (number : sentenceNumber + left ≤ 1000)
    {svIdOffset : UInt32} (bounded : svIdOffset ≤ 400) (svs : List (GnssSv × ℕ)) :
    gsvLoop svMeta sentenceCount left sentenceNumber svIdOffset svs =
      gsvSentences svMeta sentenceCount left sentenceNumber svIdOffset (svMeta.listed svs) := by
  induction left generalizing sentenceNumber svIdOffset svs with
  | zero => rfl
  | succ left ih =>
    have header := gsvHeaderLength_le short counted sentences (by omega : sentenceNumber < 1000)
    have size : nmeaSentenceMaxLength = 200 := rfl
    obtain ⟨rest, blocks, others⟩ := gsvBlocks_eq svMeta 4
      (nmeaSentenceMaxLength - gsvHeaderLength svMeta sentenceCount sentenceNumber) (by omega) bounded svs
    rw [gsvLoop, if_pos (by omega), blocks, gsvSentences, ← others]
    exact congrArg _ (ih (by omega) (offsetAfter_le bounded _) rest)

theorem length_gsvSentences (left sentenceNumber : ℕ) (svIdOffset : UInt32) (entries : List (GnssSv × ℕ)) :
    (gsvSentences svMeta sentenceCount left sentenceNumber svIdOffset entries).length = left := by
  induction left generalizing sentenceNumber svIdOffset entries with
  | zero => rfl
  | succ left ih => rw [gsvSentences, List.length_cons, ih]

theorem map_sentenceNumber_gsvSentences (left sentenceNumber : ℕ) (svIdOffset : UInt32) (entries : List (GnssSv × ℕ)) :
    (gsvSentences svMeta sentenceCount left sentenceNumber svIdOffset entries).map (·.sentenceNumber) =
      (List.range left).map (sentenceNumber + ·) := by
  induction left generalizing sentenceNumber svIdOffset entries with
  | zero => rfl
  | succ left ih =>
    rw [gsvSentences, List.map_cons, ih, List.range_succ_eq_map, List.map_cons, List.map_map]
    refine congrArg _ (List.map_congr_left fun k _ => ?_)
    change sentenceNumber + 1 + k = sentenceNumber + (k + 1)
    omega

/-- The sentences list the satellites one after the other. -/
theorem flatMap_gsvSentences (left sentenceNumber : ℕ) (svIdOffset : UInt32) (entries : List (GnssSv × ℕ)) :
    (gsvSentences svMeta sentenceCount left sentenceNumber svIdOffset entries).flatMap (·.blocks) =
      printedBlocks svIdOffset (entries.take (4 * left)) := by
  induction left generalizing sentenceNumber svIdOffset entries with
  | zero => rfl
  | succ left ih =>
    rw [gsvSentences, List.flatMap_cons, ih, ← printedBlocks_append, Nat.mul_succ, Nat.add_comm (4 * left),
      List.take_add]

theorem mem_gsvSentences {left sentenceNumber : ℕ} {svIdOffset : UInt32} {entries : List (GnssSv × ℕ)}
    {sentence : GsvSentence}
    (member : sentence ∈ gsvSentences svMeta sentenceCount left sentenceNumber svIdOffset entries) :
    sentence.talker = svMeta.talker ∧ sentence.signalId = svMeta.signalId ∧ sentence.sentenceCount = sentenceCount ∧
      sentence.svCount = svMeta.svCount.toNat ∧ sentence.blocks.length ≤ 4 := by
  induction left generalizing sentenceNumber svIdOffset entries with
  | zero => exact absurd member List.not_mem_nil
  | succ left ih =>
    obtain rfl | later := List.mem_cons.mp member
    · refine ⟨rfl, rfl, rfl, rfl, ?_⟩
      rw [length_printedBlocks]
      exact List.length_take_le 4 entries
    · exact ih later

end Sentences

section Counts

theorem count_add (info : LocSvCacheInfo) (sv : GnssSv) (counter : SvCounter) :
    (info.add sv).count counter = info.count counter + if sv.counter = some counter then 1 else 0 := by
  rw [LocSvCacheInfo.add]
  cases own : sv.counter with
  | none => rw [if_neg (Option.some_ne_none _).symm, UInt32.add_zero]
  | some other =>
    by_cases same : other = counter
    · rw [same, if_pos rfl]
      exact Function.update_self ..
    · rw [if_neg (mt Option.some.inj same), UInt32.add_zero]
      exact Function.update_of_ne (Ne.symm same) ..

theorem count_foldl_add (svs : List GnssSv) (info : LocSvCacheInfo) (counter : SvCounter) :
    (svs.foldl LocSvCacheInfo.add info).count counter =
      info.count counter + UInt32.ofNat (svs.countP fun sv => sv.counter = some counter) := by
  induction svs generalizing info with
  | nil => exact (UInt32.add_zero _).symm
  | cons sv svs ih =>
    rw [List.foldl_cons, ih, count_add, List.countP_cons, UInt32.add_assoc, Nat.add_comm, UInt32.ofNat_add]
    congr 2
    simp only [decide_eq_true_eq]
    split_ifs <;> rfl

/-- A counter holds the number of satellites that are counted by it. -/
theorem count_cacheInfo (svNotify : GnssSvNotification) (counter : SvCounter) :
    (svNotify.cacheInfo.count counter).toNat = svNotify.gnssSvs.countP fun sv => sv.counter = some counter := by
  have most := List.countP_le_length (p := fun sv : GnssSv => decide (sv.counter = some counter))
    (l := svNotify.gnssSvs)
  have bound : svNotify.gnssSvs.length ≤ 128 := svNotify.count_le
  rw [GnssSvNotification.cacheInfo, count_foldl_add, UInt32.zero_add, UInt32.toNat_ofNat', Nat.mod_eq_of_lt (by omega)]

theorem count_lt (svNotify : GnssSvNotification) (counter : SvCounter) :
    (svNotify.cacheInfo.count counter).toNat < 1000 := by
  have most := List.countP_le_length (p := fun sv : GnssSv => decide (sv.counter = some counter))
    (l := svNotify.gnssSvs)
  have bound : svNotify.gnssSvs.length ≤ 128 := svNotify.count_le
  rw [count_cacheInfo]
  omega

end Counts

section Groups

namespace SvCounter

open Signal in
/-- The talker and the signal that a counter is for. -/
def group : SvCounter → GnssSvType × GnssSignalTypeMask
  | gpsL1 => (.gps, gpsL1ca)
  | gpsL5 => (.gps, Signal.gpsL5)
  | gpsL2 => (.gps, Signal.gpsL2)
  | gloG1 => (.glonass, glonassG1)
  | gloG2 => (.glonass, glonassG2)
  | galE1 => (.galileo, galileoE1)
  | galE5 => (.galileo, galileoE5a)
  | galE5b => (.galileo, galileoE5b)
  | qzssL1 => (.qzss, qzssL1ca)
  | qzssL5 => (.qzss, Signal.qzssL5)
  | qzssL2 => (.qzss, Signal.qzssL2)
  | bdsB1i => (.beidou, beidouB1i)
  | bdsB1c => (.beidou, beidouB1c)
  | bdsB2 => (.beidou, beidouB2ai)
  | navicL5 => (.navic, Signal.navicL5)

/-- The counters in the order of their sentences. -/
def all : List SvCounter :=
  [gpsL1, gpsL5, gpsL2, gloG1, gloG2, galE1, galE5, galE5b, qzssL1, qzssL5, qzssL2, bdsB1i, bdsB1c, bdsB2, navicL5]

theorem mem_all (counter : SvCounter) : counter ∈ all := by
  cases counter <;> decide

theorem nodup_all : all.Nodup := by
  decide

/-- The number of the signal of a counter. -/
def signalId (counter : SvCounter) : UInt32 := convertSignalTypeToSignalId counter.group.2

/-- What the sentences of a counter are made with. -/
def svMeta (counter : SvCounter) (info : LocSvCacheInfo) : LocNmeaSvMeta :=
  (locNmeaSvMetaInit info counter.group.1 counter.group.2 false).get (by cases counter <;> rfl)

variable (counter : SvCounter) (info : LocSvCacheInfo)

theorem locNmeaSvMetaInit_eq :
    locNmeaSvMetaInit info counter.group.1 counter.group.2 false = some (counter.svMeta info) :=
  (Option.some_get _).symm

theorem svCount_svMeta : (counter.svMeta info).svCount = info.count counter := by
  cases counter <;> rfl

theorem signalId_svMeta : (counter.svMeta info).signalId = counter.signalId := by
  cases counter <;> rfl

theorem svIdOffset_svMeta_le : (counter.svMeta info).svIdOffset ≤ 400 := by
  cases counter <;> exact of_decide_eq_true rfl

/-- A counter is known by its talker and the number of its signal. -/
theorem eq_of_talker_of_signalId {counter other : SvCounter}
    (talker : (counter.svMeta info).talker = (other.svMeta info).talker)
    (signal : (counter.svMeta info).signalId = (other.svMeta info).signalId) : counter = other := by
  have names (counter : SvCounter) :
      (counter.svMeta info).talker = (counter.svMeta ⟨0, 0, 0, 0, 0, 0, fun _ => 0⟩).talker := by
    cases counter <;> rfl
  have known : ∀ counter ∈ all, ∀ other ∈ all,
      (counter.svMeta ⟨0, 0, 0, 0, 0, 0, fun _ => 0⟩).talker = (other.svMeta ⟨0, 0, 0, 0, 0, 0, fun _ => 0⟩).talker →
        counter.signalId = other.signalId → counter = other := by
    decide
  rw [names counter, names other] at talker
  rw [signalId_svMeta, signalId_svMeta] at signal
  exact known _ (mem_all counter) _ (mem_all other) talker signal

theorem talker_svMeta_length : (counter.svMeta info).talker.length ≤ 2 :=
  talker_length (counter.locNmeaSvMetaInit_eq info)

theorem svTypeMask_svMeta : (counter.svMeta info).svTypeMask =
    if counter.group.1 = .gps then counter.group.1.bit ||| GnssSvType.sbas.bit else counter.group.1.bit := by
  cases counter <;> rfl

/-- The counter of the satellites that are in no class of their own. -/
def plain : SvCounter → Bool
  | gpsL1 | gloG1 | galE1 | qzssL1 | bdsB1i | navicL5 => true
  | _ => false

theorem eq_of_plain {counter other : SvCounter} (one : counter.plain = true) (two : other.plain = true)
    (type : counter.group.1 = other.group.1) : counter = other := by
  have known : ∀ counter ∈ all, ∀ other ∈ all,
      counter.plain = true → other.plain = true → counter.group.1 = other.group.1 → counter = other := by
    decide
  exact known _ (mem_all counter) _ (mem_all other) one two type

end SvCounter

/-- The type under which a type is listed. -/
def GnssSvType.listedAs : GnssSvType → GnssSvType
  | sbas => gps
  | type => type

theorem GnssSvType.bit_of_svTypeMask {type : GnssSvType} (talker : type ≠ sbas) (other : GnssSvType) :
    ((if type = gps then type.bit ||| sbas.bit else type.bit) &&& other.bit != 0) = decide (other.listedAs = type) := by
  cases type <;> first | exact absurd rfl talker | cases other <;> decide

theorem SvCounter.bit_svTypeMask (counter : SvCounter) (info : LocSvCacheInfo) (type : GnssSvType) :
    ((counter.svMeta info).svTypeMask &&& type.bit != 0) = decide (type.listedAs = counter.group.1) := by
  have talker : counter.group.1 ≠ .sbas := by
    cases counter <;> decide
  rw [svTypeMask_svMeta]
  exact GnssSvType.bit_of_svTypeMask talker type

namespace GnssSv

/-- The number of the signal of a satellite. -/
def signalId (sv : GnssSv) : Option UInt32 := sv.signalType.map convertSignalTypeToSignalId

variable {sv : GnssSv} {counter other : SvCounter} {info : LocSvCacheInfo}

/-- A satellite is listed under the talker of its type and the number of its signal. -/
theorem lists_iff : (counter.svMeta info).lists sv = true ↔
    sv.type.listedAs = counter.group.1 ∧ sv.signalId = some counter.signalId := by
  rw [LocNmeaSvMeta.lists, SvCounter.bit_svTypeMask, SvCounter.signalId_svMeta, signalId]
  cases sv.signalType with
  | none => exact iff_of_false Bool.false_ne_true fun both => absurd both.2 (Option.some_ne_none _).symm
  | some signalType =>
    rw [Option.any_some, Bool.and_eq_true, decide_eq_true_eq, beq_iff_eq, Option.map_some, Option.some_inj]
    exact and_congr_right fun _ => eq_comm

/-- A satellite is listed under one counter at most. -/
theorem eq_of_lists (one : (counter.svMeta info).lists sv = true) (two : (other.svMeta info).lists sv = true) :
    counter = other := by
  have known : ∀ counter ∈ SvCounter.all, ∀ other ∈ SvCounter.all,
      counter.group.1 = other.group.1 → counter.signalId = other.signalId → counter = other := by
    decide
  rw [lists_iff] at one two
  exact known _ counter.mem_all _ other.mem_all (one.1.symm.trans two.1)
    (Option.some_inj.mp (one.2.symm.trans two.2))

theorem exists_counter (known : sv.type ≠ .unknown) : ∃ counter, sv.counter = some counter := by
  rw [counter]
  cases type : sv.type with
  | unknown => exact absurd type known
  | navic => exact ⟨_, rfl⟩
  | gps | sbas | glonass | qzss | beidou | galileo =>
    dsimp only
    split_ifs <;> exact ⟨_, rfl⟩

theorem listedAs_of_counter (own : sv.counter = some counter) : sv.type.listedAs = counter.group.1 := by
  rw [GnssSv.counter] at own
  cases type : sv.type <;> simp only [type] at own <;> first | split_ifs at own <;> cases own <;> rfl | cases own <;>
    rfl

theorem known_of_counter (own : sv.counter = some counter) : sv.type ≠ .unknown := by
  intro unknown
  have type := listedAs_of_counter own
  rw [unknown] at type
  cases counter <;> cases type

theorem signalId_of_mask {signalType : GnssSignalTypeMask} (mask : sv.gnssSignalTypeMask = signalType)
    (some' : signalType ≠ 0) : sv.signalId = some (convertSignalTypeToSignalId signalType) := by
  rw [signalId, GnssSv.signalType, mask, if_neg some']
  rfl

/-- A satellite that is in a class of its own has the signal of that class. -/
theorem signalId_of_counter (own : sv.counter = some counter) (special : counter.plain = false) :
    sv.signalId = some counter.signalId := by
  rw [GnssSv.counter] at own
  cases type : sv.type with
  | unknown =>
    rw [type] at own
    cases own
  | navic =>
    rw [type] at own
    cases own
    exact absurd special (by decide)
  | glonass =>
    simp only [type] at own
    split_ifs at own with mask <;> cases own
    · exact signalId_of_mask mask (by decide)
    · exact absurd special (by decide)
  | gps | sbas | galileo | qzss =>
    simp only [type] at own
    split_ifs at own with mask mask <;> cases own <;>
      first | exact signalId_of_mask mask (by decide) | exact absurd special (by decide)
  | beidou =>
    simp only [type] at own
    split_ifs at own with mask mask <;> cases own
    · obtain mask | mask := mask
      · exact signalId_of_mask mask (by decide)
      · exact (signalId_of_mask mask (by decide)).trans (congrArg some (by decide))
    · exact signalId_of_mask mask (by decide)
    · exact absurd special (by decide)

end GnssSv

section Generate

variable (svNotify : GnssSvNotification) (counter : SvCounter)

/-- The sentences of a counter. -/
def SvCounter.sentences : List GsvSentence := locNmeaGenerateGSV svNotify (counter.svMeta svNotify.cacheInfo)

theorem locNmeaGenerateSv_eq : locNmeaGenerateSv svNotify = SvCounter.all.flatMap (SvCounter.sentences svNotify) := by
  have groups : gsvGroups = SvCounter.all.map SvCounter.group := rfl
  rw [locNmeaGenerateSv, groups, List.flatMap_map]
  refine List.flatMap_congr fun counter _ => ?_
  rw [SvCounter.locNmeaSvMetaInit_eq]
  rfl

/-- The number of sentences for so many satellites. -/
def gsvSentenceCount (svCount : ℕ) : ℕ := svCount / 4 + if svCount % 4 = 0 then 0 else 1

theorem le_gsvSentenceCount (svCount : ℕ) :
    svCount ≤ 4 * gsvSentenceCount svCount ∧ gsvSentenceCount svCount ≤ svCount := by
  rw [gsvSentenceCount]
  split_ifs <;> omega

/-- The satellites of a report that are counted by a counter. -/
def SvCounter.counted : ℕ := svNotify.gnssSvs.countP fun sv => sv.counter = some counter

/-- The satellites of a report that are listed under a counter. -/
def SvCounter.listed : List (GnssSv × ℕ) :=
  (counter.svMeta svNotify.cacheInfo).listed (svNotify.gnssSvs.zipIdx 1)

/-- The offset with which the sentences of a counter begin. -/
def SvCounter.svIdOffset : UInt32 :=
  let svMeta := counter.svMeta svNotify.cacheInfo
  if svMeta.svTypeMask &&& GnssSvType.glonass.bit = 0 then svMeta.svIdOffset else 0

/-- The sentences of a counter are as many as its count needs, and list its satellites from the first on. -/
theorem SvCounter.sentences_eq : counter.sentences svNotify =
    gsvSentences (counter.svMeta svNotify.cacheInfo) (gsvSentenceCount (counter.counted svNotify))
      (gsvSentenceCount (counter.counted svNotify)) 1 (counter.svIdOffset svNotify) (counter.listed svNotify) := by
  have count : (counter.svMeta svNotify.cacheInfo).svCount.toNat = counter.counted svNotify := by
    rw [svCount_svMeta, count_cacheInfo, SvCounter.counted]
  have below : counter.counted svNotify < 1000 := by
    rw [← count, svCount_svMeta]
    exact count_lt svNotify counter
  have few := (le_gsvSentenceCount (counter.counted svNotify)).2
  have bounded : counter.svIdOffset svNotify ≤ 400 := by
    rw [SvCounter.svIdOffset]
    split_ifs
    · exact svIdOffset_svMeta_le counter _
    · decide
  have int : (counter.svMeta svNotify.cacheInfo).svCount.toInt32.toInt = counter.counted svNotify := by
    rw [Int32.toInt, UInt32.toBitVec_toInt32, BitVec.toInt_eq_toNat_bmod, UInt32.toNat_toBitVec, count, Int.bmod]
    omega
  rw [SvCounter.sentences, locNmeaGenerateGSV]
  simp only [Int32.le_iff_toInt_le, int, count]
  have loop := gsvLoop_eq (talker_svMeta_length counter svNotify.cacheInfo) (count ▸ below)
    (Nat.lt_of_le_of_lt few below) (by omega : 1 + gsvSentenceCount (counter.counted svNotify) ≤ 1000) bounded
    (svNotify.gnssSvs.zipIdx 1)
  by_cases none : (counter.counted svNotify : ℤ) ≤ (0 : Int32).toInt
  · have zero : counter.counted svNotify = 0 := Nat.le_zero.mp (Int.ofNat_le.mp none)
    rw [if_pos none, zero]
    rfl
  · rw [if_neg none]
    exact loop

variable {svNotify counter}

theorem SvCounter.mem_listed {entry : GnssSv × ℕ} : entry ∈ counter.listed svNotify ↔
    entry ∈ svNotify.gnssSvs.zipIdx 1 ∧ (counter.svMeta svNotify.cacheInfo).lists entry.1 = true :=
  List.mem_filter

/-- The blocks of the sentences of a counter. -/
theorem SvCounter.flatMap_sentences : (counter.sentences svNotify).flatMap (·.blocks) =
    printedBlocks (counter.svIdOffset svNotify)
      ((counter.listed svNotify).take (4 * gsvSentenceCount (counter.counted svNotify))) := by
  rw [sentences_eq, flatMap_gsvSentences]

end Generate

end Groups

end Cypfr.LocNmea
