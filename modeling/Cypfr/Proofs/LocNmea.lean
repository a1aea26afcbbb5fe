import Cypfr.Model.LocNmea
import Mathlib.Algebra.Ring.Nat

/-! # Printing satellites

The ids of a mask are those of its set bits, and what is printed before the values of the DOP always fits the buffer:
the sentences of a call are the pieces of twelve of its ids, under one code unless the code is the last one.
-/

namespace Cypfr.LocNmea

section Meta

theorem talker_length {info : LocSvCacheInfo} {svType : GnssSvType} {signalType : GnssSignalTypeMask}
    {needCombine : Bool} {svMeta : LocNmeaSvMeta} (made : locNmeaSvMetaInit info svType signalType needCombine =
    some svMeta) :
    svMeta.talker.length ≤ 2 := by
  obtain ⟨constellation, own, rfl⟩ := Option.map_eq_some_iff.mp made
  have short : constellation.talker.length ≤ 2 := by
    cases svType <;> cases own <;> decide
  change (if (needCombine && info.combined) = true then "GN" else constellation.talker).length ≤ 2
  split_ifs
  · decide
  · exact short

end Meta

section Lengths

theorem digitCount_le (n : ℕ) : digitCount n ≤ 10 := by
  have most := List.countP_le_length (p := fun bound => decide (bound ≤ n))
    (l := [10, 10 ^ 2, 10 ^ 3, 10 ^ 4, 10 ^ 5, 10 ^ 6, 10 ^ 7, 10 ^ 8, 10 ^ 9])
  rw [digitCount]
  simp only [List.length_cons, List.length_nil] at most
  omega

theorem printedLength_le {width : ℕ} (narrow : width ≤ 11) (n : ℤ) : printedLength width n ≤ 11 := by
  have digits := digitCount_le n.natAbs
  rw [printedLength]
  split_ifs <;> omega

theorem printedLength32_le {width : ℕ} (narrow : width ≤ 11) (n : UInt32) : printedLength32 width n ≤ 11 :=
  printedLength_le narrow n.toInt32.toInt

theorem TagBlock.length_le (tag : TagBlock) : tag.length ≤ 42 := by
  have number := printedLength32_le (by decide : 1 ≤ 11) tag.sentenceNumber
  have count := printedLength32_le (by decide : 1 ≤ 11) tag.sentenceCount
  have code := printedLength32_le (by decide : 1 ≤ 11) tag.code
  rw [TagBlock.length]
  omega

/-- Texts that are shorter than the buffer together are printed. -/
theorem printAll_of_sum_lt {lengths : List ℕ} {lengthRemaining : ℕ} (fits : lengths.sum < lengthRemaining) :
    printAll lengthRemaining lengths = true := by
  induction lengths generalizing lengthRemaining with
  | nil => rfl
  | cons length rest ih =>
    rw [List.sum_cons] at fits
    rw [printAll, if_neg (by omega)]
    exact ih (by omega)

theorem gsaLengths_sum_le {talker : String} {svIds : List UInt32} (short : talker.length ≤ 2)
    (few : svIds.length ≤ 12) : (gsaLengths talker svIds).sum ≤ 155 := by
  have ids : (svIds.map fun svId => printedLength32 2 svId + 1).sum ≤ svIds.length * 12 := by
    clear few
    induction svIds with
    | nil => exact Nat.le_refl _
    | cons svId rest ih =>
      have length := printedLength32_le (by decide : 2 ≤ 11) svId
      rw [List.map_cons, List.sum_cons, List.length_cons]
      omega
  rw [gsaLengths, List.sum_cons, List.sum_append, List.sum_replicate_nat]
  omega

/-- What is printed before the values of the DOP fits. -/
theorem printAll_gsaLengths {talker : String} {svIds : List UInt32} (short : talker.length ≤ 2)
    (tagBlock : Option TagBlock) : printAll (nmeaSentenceMaxLength - (tagBlock.map (·.length)).getD 0)
      (gsaLengths talker (svIds.take 12)) = true := by
  apply printAll_of_sum_lt
  have ids := gsaLengths_sum_le short (List.length_take_le 12 svIds)
  have tag : (tagBlock.map (·.length)).getD 0 ≤ 42 := by
    cases tagBlock with
    | none => exact Nat.zero_le _
    | some tag => exact tag.length_le
  have buffer : nmeaSentenceMaxLength = 200 := rfl
  omega

end Lengths

section Ids

/-- The ids are the numbers of the set bits in increasing order. -/
theorem svUsedList_eq (svIdOffset : UInt32) (rounds i : ℕ) (mask : UInt64) : svUsedList svIdOffset rounds i mask =
    ((List.range rounds).filter mask.toNat.testBit).map fun k => UInt32.ofNat (i + k) + svIdOffset := by
  induction rounds generalizing i mask with
  | zero => rfl
  | succ rounds ih =>
    have half : (mask >>> 1).toNat = mask.toNat >>> 1 := by
      rw [UInt64.toNat_shiftRight]
      rfl
    have later : (List.range rounds).filter (mask >>> 1).toNat.testBit =
        (List.range rounds).filter (mask.toNat.testBit ∘ Nat.succ) := by
      apply List.filter_congr
      intro k _
      rw [half, Nat.testBit_shiftRight, Function.comp_apply, Nat.add_comm]
    have rest : svUsedList svIdOffset rounds (i + 1) (mask >>> 1) =
        (((List.range rounds).filter (mask.toNat.testBit ∘ Nat.succ)).map Nat.succ).map fun k =>
          UInt32.ofNat (i + k) + svIdOffset := by
      rw [ih, later, List.map_map]
      apply List.map_congr_left
      intro k _
      rw [Function.comp_apply, Nat.succ_eq_add_one, Nat.add_right_comm, Nat.add_assoc]
    rw [svUsedList, rest, List.range_succ_eq_map, List.filter_cons, List.filter_map]
    by_cases empty : mask = 0
    · rw [if_pos empty, empty]
      simp
    · rw [if_neg empty]
      have low : (mask &&& 1 ≠ 0) = (mask.toNat.testBit 0 = true) := by
        rw [Nat.testBit_zero, Ne, ← UInt64.toNat_inj, UInt64.toNat_and, UInt64.toNat_one, Nat.and_one_is_mod]
        simp
      simp only [low]
      split_ifs with odd
      · rw [List.map_cons, Nat.add_zero]
      · rfl

theorem used_eq (svMeta : LocNmeaSvMeta) : svMeta.used =
    ((List.range 64).filter svMeta.mask.toNat.testBit).map fun k => UInt32.ofNat (1 + k) + svMeta.gsaOffset :=
  svUsedList_eq _ _ _ _

end Ids

section Loop

/-- The sentences of a group under one code. -/
def groupSentences (svMeta : LocNmeaSvMeta) (dop : String) (sentenceCount code sentenceNumber : UInt32)
    (svIds : List UInt32) (left : ℕ) : List GsaSentence :=
  (List.range left).map fun k =>
    { tagBlock := some ⟨sentenceNumber + UInt32.ofNat k, sentenceCount, code⟩
      talker := svMeta.talker
      fixType := if svMeta.totalSvUsedCount = 0 then '1' else if svMeta.totalSvUsedCount ≤ 3 then '2' else '3'
      svIds := (svIds.drop (k * 12)).take 12
      dop := dop
      systemId := svMeta.systemId }

variable {svMeta : LocNmeaSvMeta} {dop : String} {sentenceCount code : UInt32}

theorem groupSentences_succ (sentenceNumber : UInt32) (svIds : List UInt32) (left : ℕ) :
    groupSentences svMeta dop sentenceCount code sentenceNumber svIds (left + 1) =
      groupSentences svMeta dop sentenceCount code sentenceNumber svIds 1 ++
        groupSentences svMeta dop sentenceCount code (sentenceNumber + 1) (svIds.drop 12) left := by
  have number (k : ℕ) : sentenceNumber + UInt32.ofNat (k + 1) = sentenceNumber + 1 + UInt32.ofNat k := by
    rw [UInt32.ofNat_add, UInt32.add_comm (UInt32.ofNat k), ← UInt32.add_assoc]
    rfl
  have place (k : ℕ) : svIds.drop ((k + 1) * 12) = (svIds.drop 12).drop (k * 12) := by
    rw [List.drop_drop]
    congr 1
    omega
  rw [groupSentences, List.range_succ_eq_map, List.map_cons, List.map_map, groupSentences, groupSentences]
  refine congrArg (List.cons _) (List.map_congr_left fun k _ => ?_)
  rw [Function.comp_apply, Nat.succ_eq_add_one, number, place]

theorem length_groupSentences (sentenceNumber : UInt32) (svIds : List UInt32) (left : ℕ) :
    (groupSentences svMeta dop sentenceCount code sentenceNumber svIds left).length = left := by
  rw [groupSentences, List.length_map, List.length_range]

/-- A code that all sentences of a group have is its code. -/
theorem code_eq_of_each {sentenceNumber one : UInt32} {svIds : List UInt32} {left : ℕ} (some' : 1 ≤ left)
    (each : ∀ sentence ∈ groupSentences svMeta dop sentenceCount code sentenceNumber svIds left,
      sentence.tagBlock.map (·.code) = some one) : code = one :=
  Option.some_inj.mp (each _ (List.mem_map_of_mem (List.mem_range.mpr some')))

theorem head_groupSentences {sentenceNumber : UInt32} {svIds : List UInt32} {left : ℕ} (some' : 1 ≤ left) :
    ((groupSentences svMeta dop sentenceCount code sentenceNumber svIds left).head?.bind (·.tagBlock)).map (·.code) =
      some code := by
  obtain ⟨left, rfl⟩ := Nat.exists_eq_add_of_le' some'
  rw [groupSentences_succ]
  rfl

/-- The ids of a group are put together of its sentences. -/
theorem flatMap_groupSentences (sentenceNumber : UInt32) (svIds : List UInt32) (left : ℕ) :
    (groupSentences svMeta dop sentenceCount code sentenceNumber svIds left).flatMap (·.svIds) =
      svIds.take (left * 12) := by
  induction left generalizing sentenceNumber svIds with
  | zero => rfl
  | succ left ih =>
    have first : (groupSentences svMeta dop sentenceCount code sentenceNumber svIds 1).flatMap (·.svIds) =
        svIds.take 12 := by
      simp [groupSentences]
    rw [groupSentences_succ, List.flatMap_append, ih, first, Nat.add_mul, Nat.one_mul, Nat.add_comm (left * 12),
      List.take_add]

/-- One round of the loop for a group. -/
theorem gsaLoop_succ (short : svMeta.talker.length ≤ 2) (sentenceNumber : UInt32) (svIds : List UInt32) (left : ℕ) :
    gsaLoop svMeta dop true true sentenceCount (left + 1) sentenceNumber svIds code =
      let next := if maxTagBlockGroupCode = code then 1 else code
      let later := gsaLoop svMeta dop true true sentenceCount left (sentenceNumber + 1) (svIds.drop 12) next
      (groupSentences svMeta dop sentenceCount code sentenceNumber svIds 1 ++ later.1, later.2) := by
  rw [gsaLoop]
  simp only [printAll_gsaLengths short, if_true, Bool.true_and, beq_iff_eq]
  simp [groupSentences]

/-- The sentences of a group whose code is not the last. -/
theorem gsaLoop_eq (short : svMeta.talker.length ≤ 2) (within : code ≠ maxTagBlockGroupCode) (left : ℕ)
    (sentenceNumber : UInt32) (svIds : List UInt32) :
    gsaLoop svMeta dop true true sentenceCount left sentenceNumber svIds code =
      (groupSentences svMeta dop sentenceCount code sentenceNumber svIds left, code, true) := by
  induction left generalizing sentenceNumber svIds with
  | zero => rfl
  | succ left ih =>
    have same : (if maxTagBlockGroupCode = code then 1 else code) = code := if_neg within.symm
    rw [gsaLoop_succ short]
    simp only [same, ih]
    rw [← groupSentences_succ]

/-- Sentences that are not a group leave the code. -/
theorem gsaLoop_code {isTagBlockGroupingEnabled : Bool} (left : ℕ) (sentenceNumber : UInt32) (svIds : List UInt32) :
    (gsaLoop svMeta dop isTagBlockGroupingEnabled false sentenceCount left sentenceNumber svIds code).2.1 = code := by
  induction left generalizing sentenceNumber svIds with
  | zero => rfl
  | succ left ih =>
    rw [gsaLoop]
    simp only [Bool.false_and, Bool.false_eq_true, if_false]
    split_ifs <;> first | exact ih _ _ | rfl

end Loop

end Cypfr.LocNmea
