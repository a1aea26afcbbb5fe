import Cypfr.Proofs.LocNmeaGsv

/-! # The ids of GSV blocks

The id of a satellite of GPS is printed with the offset of SBAS when a satellite of SBAS is printed before it, so it
depends on its place in the report; that of any other satellite does not.
-/

namespace Cypfr.LocNmea

/-- A satellite of SBAS with the same signal is before a satellite in a report. -/
def SbasBefore (svNotify : GnssSvNotification) (block : GsvBlock) : Prop :=
  ∃ earlier ∈ svNotify.gnssSvs.zipIdx 1, earlier.2 < block.svNumber ∧ earlier.1.type = .sbas ∧
    earlier.1.signalId = block.sv.signalId

section Offset

theorem offsetAfter_of_none (svIdOffset : UInt32) {entries : List (GnssSv × ℕ)}
    (none : ∀ entry ∈ entries, entry.1.type ≠ .sbas) : offsetAfter svIdOffset entries = svIdOffset := by
  induction entries generalizing svIdOffset with
  | nil => rfl
  | cons entry entries ih =>
    have own : entry.1.offset svIdOffset = svIdOffset := if_neg (none entry List.mem_cons_self)
    rw [offsetAfter, List.foldl_cons, own]
    exact ih _ fun entry member => none entry (List.mem_cons_of_mem _ member)

/-- After a satellite of SBAS the offset is that of SBAS. -/
theorem offsetAfter_of_sbas (svIdOffset : UInt32) {entries : List (GnssSv × ℕ)}
    (some' : ∃ entry ∈ entries, entry.1.type = .sbas) : offsetAfter svIdOffset entries = sbasSvIdOffset := by
  induction entries generalizing svIdOffset with
  | nil => exact absurd some'.choose_spec.1 List.not_mem_nil
  | cons entry entries ih =>
    by_cases later : ∃ entry ∈ entries, entry.1.type = .sbas
    · exact ih _ later
    · obtain ⟨sbas, member, type⟩ := some'
      obtain rfl | there := List.mem_cons.mp member
      · have own : sbas.1.offset svIdOffset = sbasSvIdOffset := if_pos type
        rw [offsetAfter, List.foldl_cons, own]
        exact offsetAfter_of_none _ fun entry member type => later ⟨entry, member, type⟩
      · exact absurd ⟨sbas, there, type⟩ later

/-- A block is that of a satellite with the offset after those before it. -/
theorem exists_of_mem_printedBlocks {svIdOffset : UInt32} {entries : List (GnssSv × ℕ)} {block : GsvBlock}
    (member : block ∈ printedBlocks svIdOffset entries) :
    ∃ before entry after, entries = before ++ entry :: after ∧
      block = gsvBlock (entry.1.offset (offsetAfter svIdOffset before)) entry := by
  induction entries generalizing svIdOffset with
  | nil => exact absurd member List.not_mem_nil
  | cons entry entries ih =>
    obtain rfl | later := List.mem_cons.mp member
    · exact ⟨[], entry, entries, rfl, rfl⟩
    · obtain ⟨before, own, after, rfl, rfl⟩ := ih later
      exact ⟨entry :: before, own, after, rfl, rfl⟩

end Offset

/-- The offset with which the ids of a type are printed, but for SBAS before them. -/
def GnssSvType.svIdOffset : GnssSvType → UInt32
  | sbas => sbasSvIdOffset
  | galileo => 300
  | qzss => 192
  | beidou => 200
  | navic => 400
  | _ => 0

section Block

variable {svNotify : GnssSvNotification} {counter : SvCounter} {block : GsvBlock}

theorem SvCounter.svIdOffset_eq : counter.svIdOffset svNotify = counter.group.1.svIdOffset := by
  have bit : ((counter.svMeta svNotify.cacheInfo).svTypeMask &&& GnssSvType.glonass.bit != 0) =
      decide (GnssSvType.glonass = counter.group.1) := counter.bit_svTypeMask _ _
  rw [SvCounter.svIdOffset]
  by_cases talker : GnssSvType.glonass = counter.group.1
  · rw [decide_eq_true talker, bne_iff_ne] at bit
    rw [if_neg bit, ← talker]
    rfl
  · rw [decide_eq_false talker, bne_eq_false_iff_eq] at bit
    rw [if_pos bit]
    cases counter <;> first | rfl | exact absurd rfl talker

/-- A satellite of SBAS is listed before another exactly when it has the same signal and is before it in the report. -/
theorem sbas_mem_iff {before after : List (GnssSv × ℕ)} {entry : GnssSv × ℕ} (type : entry.1.type = .gps)
    (split : counter.listed svNotify = before ++ entry :: after) :
    (∃ earlier ∈ before, earlier.1.type = .sbas) ↔ ∃ earlier ∈ svNotify.gnssSvs.zipIdx 1, earlier.2 < entry.2 ∧
      earlier.1.type = .sbas ∧ earlier.1.signalId = entry.1.signalId := by
  have sorted : (before ++ entry :: after).Pairwise fun one two => one.2 < two.2 := by
    have numbers : ((svNotify.gnssSvs.zipIdx 1).map Prod.snd).Pairwise (· < ·) := by
      rw [List.zipIdx_map_snd]
      exact List.pairwise_lt_range'
    rw [← split]
    exact (List.pairwise_map.mp numbers).filter _
  obtain ⟨-, later, across⟩ := List.pairwise_append.mp sorted
  have own : entry ∈ counter.listed svNotify := by
    rw [split]
    exact List.mem_append_right _ List.mem_cons_self
  have talker := GnssSv.lists_iff.mp (SvCounter.mem_listed.mp own).2
  constructor
  · rintro ⟨earlier, member, sbas⟩
    have listed : earlier ∈ counter.listed svNotify := by
      rw [split]
      exact List.mem_append_left _ member
    have there := SvCounter.mem_listed.mp listed
    exact ⟨earlier, there.1, across earlier member entry List.mem_cons_self, sbas,
      (GnssSv.lists_iff.mp there.2).2.trans talker.2.symm⟩
  · rintro ⟨earlier, member, less, sbas, signal⟩
    have listed : earlier ∈ counter.listed svNotify := by
      apply SvCounter.mem_listed.mpr
      refine ⟨member, GnssSv.lists_iff.mpr ⟨?_, signal.trans talker.2⟩⟩
      rw [← talker.1, sbas, type]
      rfl
    rw [split, List.mem_append, List.mem_cons] at listed
    obtain earlierIn | rfl | laterIn := listed
    · exact ⟨earlier, earlierIn, sbas⟩
    · exact absurd less (Nat.lt_irrefl _)
    · exact absurd ((List.pairwise_cons.mp later).1 earlier laterIn) (Nat.lt_asymm less)

/-- A block that is printed is that of a satellite that is listed, with the offset after those listed before it. -/
theorem exists_of_mem_blocks (member : block ∈ (locNmeaGenerateSv svNotify).flatMap (·.blocks)) :
    ∃ (counter : SvCounter) (before after : List (GnssSv × ℕ)),
      counter.listed svNotify = before ++ (block.sv, block.svNumber) :: after ∧
        block = gsvBlock (block.sv.offset (offsetAfter (counter.svIdOffset svNotify) before))
          (block.sv, block.svNumber) := by
  rw [locNmeaGenerateSv_eq, List.flatMap_assoc] at member
  obtain ⟨counter, -, own⟩ := List.mem_flatMap.mp member
  rw [SvCounter.flatMap_sentences] at own
  obtain ⟨before, entry, after, split, rfl⟩ := exists_of_mem_printedBlocks own
  refine ⟨counter, before, after ++ (counter.listed svNotify).drop (4 * gsvSentenceCount (counter.counted svNotify)),
    ?_, rfl⟩
  have listed := List.take_append_drop (4 * gsvSentenceCount (counter.counted svNotify)) (counter.listed svNotify)
  rw [split, List.append_assoc, List.cons_append] at listed
  exact listed.symm

/-- The offset of a satellite's id is that of its type, but for GPS after SBAS. -/
theorem exists_offset (member : block ∈ (locNmeaGenerateSv svNotify).flatMap (·.blocks)) :
    ∃ svIdOffset, block.svId = (gsvBlock svIdOffset (block.sv, block.svNumber)).svId ∧
      (block.sv.type ≠ .gps → svIdOffset = block.sv.type.svIdOffset) ∧
        (block.sv.type = .gps → SbasBefore svNotify block → svIdOffset = sbasSvIdOffset) ∧
          (block.sv.type = .gps → ¬ SbasBefore svNotify block → svIdOffset = 0) := by
  obtain ⟨counter, before, after, split, own⟩ := exists_of_mem_blocks member
  have listed : (block.sv, block.svNumber) ∈ counter.listed svNotify := by
    rw [split]
    exact List.mem_append_right _ List.mem_cons_self
  have talker := (GnssSv.lists_iff.mp (SvCounter.mem_listed.mp listed).2).1
  refine ⟨_, congrArg GsvBlock.svId own, fun other => ?_, fun type sbas => ?_, fun type none => ?_⟩
  · by_cases sbas : block.sv.type = .sbas
    · rw [GnssSv.offset, if_pos sbas, sbas]
      rfl
    · have type : block.sv.type.listedAs = block.sv.type := by
        cases kind : block.sv.type <;> first | rfl | exact absurd kind sbas
      have none : ∀ entry ∈ before, entry.1.type ≠ .sbas := by
        intro entry member sbas
        have own : entry ∈ counter.listed svNotify := by
          rw [split]
          exact List.mem_append_left _ member
        have listed := (GnssSv.lists_iff.mp (SvCounter.mem_listed.mp own).2).1
        rw [sbas, ← talker, type] at listed
        exact other listed.symm
      rw [GnssSv.offset, if_neg sbas, offsetAfter_of_none _ none, SvCounter.svIdOffset_eq, ← talker, type]
  · have offset := offsetAfter_of_sbas (counter.svIdOffset svNotify) ((sbas_mem_iff type split).mpr sbas)
    rw [GnssSv.offset, if_neg (by rw [type]; decide), offset]
  · have offset := offsetAfter_of_none (counter.svIdOffset svNotify) fun entry member sbas =>
      none ((sbas_mem_iff type split).mp ⟨entry, member, sbas⟩)
    rw [GnssSv.offset, if_neg (by rw [type]; decide), offset, SvCounter.svIdOffset_eq, ← talker, type]
    rfl

end Block

/-- The ids of a satellite of GPS under two offsets are the same only if these are. -/
theorem svId_eq_iff_of_gps {sv : GnssSv} (gps : sv.type = .gps) {offset offset' : UInt32} {svNumber svNumber' : ℕ} :
    (gsvBlock offset (sv, svNumber)).svId = (gsvBlock offset' (sv, svNumber')).svId ↔ offset = offset' := by
  have own (offset : UInt32) (svNumber : ℕ) :
      (gsvBlock offset (sv, svNumber)).svId = some (sv.svId.toUInt32 - offset) := by
    refine if_neg fun both => ?_
    rw [gps] at both
    cases both.1
  rw [own, own, Option.some_inj]
  exact UInt32.sub_right_inj _

/-- The ids of a satellite in two reports are the same unless it is one of GPS, and with one of SBAS before it in only
one of them. -/
theorem svId_eq_iff {one two : GnssSvNotification} {block other : GsvBlock}
    (printed : block ∈ (locNmeaGenerateSv one).flatMap (·.blocks))
    (printed' : other ∈ (locNmeaGenerateSv two).flatMap (·.blocks)) (type : block.sv.type = other.sv.type)
    (id : block.sv.svId = other.sv.svId) :
    block.svId = other.svId ↔ block.sv.type ≠ .gps ∨ (SbasBefore one block ↔ SbasBefore two other) := by
  obtain ⟨offset, own, plain, after, before⟩ := exists_offset printed
  obtain ⟨offset', own', plain', after', before'⟩ := exists_offset printed'
  have there : other.svId = (gsvBlock offset' (block.sv, other.svNumber)).svId := by
    rw [own', gsvBlock, gsvBlock]
    simp only [type, id]
  by_cases gps : block.sv.type = .gps
  · have gps' := type ▸ gps
    have different : sbasSvIdOffset ≠ 0 := by decide
    rw [own, there, svId_eq_iff_of_gps gps, or_iff_right (not_not.mpr gps)]
    by_cases sbas : SbasBefore one block <;> by_cases sbas' : SbasBefore two other
    · rw [after gps sbas, after' gps' sbas']
      exact iff_of_true rfl (iff_of_true sbas sbas')
    · rw [after gps sbas, before' gps' sbas']
      exact iff_of_false different fun both => sbas' (both.mp sbas)
    · rw [before gps sbas, after' gps' sbas']
      exact iff_of_false different.symm fun both => sbas (both.mpr sbas')
    · rw [before gps sbas, before' gps' sbas']
      exact iff_of_true rfl (iff_of_false sbas sbas')
  · have same : offset = offset' := by
      rw [plain gps, plain' (type ▸ gps), type]
    refine iff_of_true ?_ (Or.inl gps)
    rw [own, there, same]
    rfl

/-- A satellite of GPS and one of SBAS. -/
def gpsFive : GnssSv := ⟨5, .gps, some 40, 30, 120, true, Signal.gpsL1ca⟩

def sbas120 : GnssSv := ⟨120, .sbas, some 35, 45, 180, false, Signal.sbasL1⟩

/-- The satellite of GPS comes first, or last. -/
def gpsFirst : GnssSvNotification := ⟨[gpsFive, sbas120], by decide⟩

def sbasFirst : GnssSvNotification := ⟨[sbas120, gpsFive], by decide⟩

theorem svId_eq_iff_five : (gsvBlock 0 (gpsFive, 1)).svId = (gsvBlock 87 (gpsFive, 2)).svId ↔ gpsFive.type ≠ .gps ∨
    (SbasBefore gpsFirst (gsvBlock 0 (gpsFive, 1)) ↔ SbasBefore sbasFirst (gsvBlock 87 (gpsFive, 2))) :=
  svId_eq_iff (by decide) (by decide) rfl rfl

/-- Its id is five at first, and another after SBAS. -/
theorem sbas_changes_id : ¬ ∀ one two : GnssSvNotification, ∀ block ∈ (locNmeaGenerateSv one).flatMap (·.blocks),
    ∀ other ∈ (locNmeaGenerateSv two).flatMap (·.blocks), block.sv.type = other.sv.type →
      block.sv.svId = other.sv.svId → block.sv.gnssSignalTypeMask = other.sv.gnssSignalTypeMask →
        block.svId = other.svId := by
  intro all
  have same := all gpsFirst sbasFirst (gsvBlock 0 (gpsFive, 1)) (by decide) (gsvBlock 87 (gpsFive, 2)) (by decide) rfl
    rfl rfl
  exact absurd same (by decide)

end Cypfr.LocNmea
