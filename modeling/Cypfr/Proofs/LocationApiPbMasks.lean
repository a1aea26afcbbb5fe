import Cypfr.Model.LocationApiPbMasks

/-! # Translated masks

A mask whose bits all have a counterpart is got back by the function that translates it back.
-/

open BitMask

namespace Cypfr.LocationApiPb

/-- Every flag is tested, and has a bit of its own in both numberings. -/
structure Coding {β : Type} {w : ℕ} (flags : List β) (header : β → BitVec w) (proto : β → BitVec 32) : Prop where
  complete : ∀ flag, flag ∈ flags
  fromHeader : Numbering header
  toProto : Numbering proto

namespace Coding

variable {β : Type} {w : ℕ} {flags : List β} {header : β → BitVec w} {proto : β → BitVec 32} {mask : BitVec w}

theorem of_nodup (complete : ∀ flag, flag ∈ flags) (headers : (flags.map header).Nodup)
    (protos : (flags.map proto).Nodup) (fromHeader : ∀ flag, ∃ k : Fin w, header flag = BitVec.twoPow w k)
    (toProto : ∀ flag, ∃ k : Fin 32, proto flag = BitVec.twoPow 32 k) : Coding flags header proto :=
  ⟨complete, .of_nodup complete headers fromHeader, .of_nodup complete protos toProto⟩

/-- The order of the tests does not matter. -/
theorem roundTrip_of_complete (coding : Coding flags header proto) {back : List β} (complete : ∀ flag, flag ∈ back)
    (uses : Uses header mask) : translate back proto header (translate flags header proto mask 0) 0 = mask :=
  translate_back coding.fromHeader complete (has_translate_iff coding.toProto coding.complete) uses

theorem roundTrip (coding : Coding flags header proto) (uses : Uses header mask) :
    translate flags proto header (translate flags header proto mask 0) 0 = mask :=
  coding.roundTrip_of_complete coding.complete uses

end Coding

theorem LocationFlagsBits.coding : Coding all header proto := by
  refine .of_nodup ?_ (by decide) (by decide) ?_ ?_ <;> intro flag <;> cases flag <;> decide

theorem LocationTechnologyBits.coding : Coding all header proto := by
  refine .of_nodup ?_ (by decide) (by decide) ?_ ?_ <;> intro flag <;> cases flag <;> decide

theorem GnssLocationNavSolutionBits.coding : Coding all header proto := by
  refine .of_nodup ?_ (by decide) (by decide) ?_ ?_ <;> intro flag <;> cases flag <;> decide

theorem DrCalibrationStatusBits.coding : Coding all header proto := by
  refine .of_nodup ?_ (by decide) (by decide) ?_ ?_ <;> intro flag <;> cases flag <;> decide

theorem PositioningEngineBits.coding : Coding all header proto := by
  refine .of_nodup ?_ (by decide) (by decide) ?_ ?_ <;> intro flag <;> cases flag <;> decide

theorem DrSolutionStatusBits.coding : Coding all header proto := by
  refine .of_nodup ?_ (by decide) (by decide) ?_ ?_ <;> intro flag <;> cases flag <;> decide

theorem GnssSystemTimeTypeBits.coding : Coding all header proto := by
  refine .of_nodup ?_ (by decide) (by decide) ?_ ?_ <;> intro flag <;> cases flag <;> decide

theorem GnssGloTimeTypeBits.coding : Coding all header proto := by
  refine .of_nodup ?_ (by decide) (by decide) ?_ ?_ <;> intro flag <;> cases flag <;> decide

theorem GnssSvOptionsBits.coding : Coding all header proto := by
  refine .of_nodup ?_ (by decide) (by decide) ?_ ?_ <;> intro flag <;> cases flag <;> decide

theorem GnssSignalTypeBits.coding : Coding all header proto := by
  refine .of_nodup ?_ (by decide) (by decide) ?_ ?_ <;> intro flag <;> cases flag <;> decide

theorem GnssMeasurementsDataFlagsBits.coding : Coding all header proto := by
  refine .of_nodup ?_ (by decide) (by decide) ?_ ?_ <;> intro flag <;> cases flag <;> decide

theorem GnssMeasurementsStateBits.coding : Coding all header proto := by
  refine .of_nodup ?_ (by decide) (by decide) ?_ ?_ <;> intro flag <;> cases flag <;> decide

theorem GnssMeasurementsAdrStateBits.coding : Coding all header proto := by
  refine .of_nodup ?_ (by decide) (by decide) ?_ ?_ <;> intro flag <;> cases flag <;> decide

theorem GnssMeasurementsClockFlagsBits.coding : Coding all header proto := by
  refine .of_nodup ?_ (by decide) (by decide) ?_ ?_ <;> intro flag <;> cases flag <;> decide

theorem GeofenceBreachTypeBits.coding : Coding all header proto := by
  refine .of_nodup ?_ (by decide) (by decide) ?_ ?_ <;> intro flag <;> cases flag <;> decide

theorem GnssLocationPosDataBits.coding : Coding all header proto := by
  refine .of_nodup ?_ (by decide) (by decide) ?_ ?_ <;> intro flag <;> cases flag <;> decide

theorem GnssLocationPosDataBitsExt.coding : Coding all header proto := by
  refine .of_nodup ?_ (by decide) (by decide) ?_ ?_ <;> intro flag <;> cases flag <;> decide

theorem GnssLocationInfoFlagBits.coding : Coding all header proto := by
  refine .of_nodup ?_ (by decide) (by decide) ?_ ?_ <;> intro flag <;> cases flag <;> decide

theorem GnssLocationInfoExtFlagBits.coding : Coding all header proto := by
  refine .of_nodup ?_ (by decide) (by decide) ?_ ?_ <;> intro flag <;> cases flag <;> decide

section Masks

variable {mask maskExt : BitVec 32}

theorem getEnumForPBPositioningEngineMask_getPBMask (uses : Uses PositioningEngineBits.header mask) :
    getEnumForPBPositioningEngineMask (getPBMaskForPositioningEngineMask mask) = mask := by
  refine PositioningEngineBits.coding.roundTrip_of_complete ?_ uses
  intro flag
  cases flag <;> decide

/-- No flag of the one mask of the body frame has the bit of a flag of the other. -/
theorem posData_disjoint (flag : GnssLocationPosDataBits) (ext : GnssLocationPosDataBitsExt) :
    flag.proto &&& ext.proto = 0 := by
  cases flag <;> cases ext <;> rfl

theorem posData_has_iff (flag : GnssLocationPosDataBits) :
    getPBMaskForGnssLocationPosDataMask mask maskExt &&& flag.proto ≠ 0 ↔ mask &&& flag.header ≠ 0 := by
  rw [getPBMaskForGnssLocationPosDataMask, translate_and_ne_zero_iff,
    has_translate_iff GnssLocationPosDataBits.coding.toProto GnssLocationPosDataBits.coding.complete, or_iff_left]
  rintro ⟨ext, -, -, shared⟩
  rw [BitVec.and_comm] at shared
  exact shared (posData_disjoint flag ext)

theorem posDataExt_has_iff (ext : GnssLocationPosDataBitsExt) :
    getPBMaskForGnssLocationPosDataMask mask maskExt &&& ext.proto ≠ 0 ↔ maskExt &&& ext.header ≠ 0 := by
  refine has_translate_iff_of_apart GnssLocationPosDataBitsExt.coding.toProto
    GnssLocationPosDataBitsExt.coding.complete ?_
  by_contra shared
  rcases translate_and_ne_zero_iff.mp shared with none | ⟨flag, -, -, shared⟩
  · exact none BitVec.zero_and
  · exact shared (posData_disjoint flag ext)

theorem getGnssLocationPosDataMaskFromPB_getPBMask (uses : Uses GnssLocationPosDataBits.header mask) :
    getGnssLocationPosDataMaskFromPB (getPBMaskForGnssLocationPosDataMask mask maskExt) = mask :=
  translate_back GnssLocationPosDataBits.coding.fromHeader GnssLocationPosDataBits.coding.complete posData_has_iff uses

theorem getGnssLocationPosDataMaskExtFromPB_getPBMask (uses : Uses GnssLocationPosDataBitsExt.header maskExt) :
    getGnssLocationPosDataMaskExtFromPB (getPBMaskForGnssLocationPosDataMask mask maskExt) = maskExt :=
  translate_back GnssLocationPosDataBitsExt.coding.fromHeader GnssLocationPosDataBitsExt.coding.complete
    posDataExt_has_iff uses

theorem GnssLocationInfoFlagBits.fromPB_eq : fromPB = header := by
  funext flag
  cases flag <;> rfl

/-- The flags of a position report, some of which have their bit in the mask of the further flags. -/
theorem getGnssLocationInfoFlagMaskFromPB_getPBMask {mask : BitVec 64}
    (uses : Uses (Sum.elim GnssLocationInfoFlagBits.header GnssLocationInfoExtFlagBits.header) mask) :
    getGnssLocationInfoFlagMaskFromPB (getPBMaskForGnssLocationInfoFlagMask mask)
      (getPBMaskForGnssLocationInfoExtFlagMask mask) = mask := by
  have main := GnssLocationInfoFlagBits.coding
  have ext := GnssLocationInfoExtFlagBits.coding
  refine BitVec.eq_of_getLsbD_eq fun k _ => Bool.eq_iff_iff.mpr ?_
  have none : (0 : BitVec 64).getLsbD k = false := BitVec.getLsbD_zero
  rw [getGnssLocationInfoFlagMaskFromPB, getPBMaskForGnssLocationInfoFlagMask,
    getPBMaskForGnssLocationInfoExtFlagMask, GnssLocationInfoFlagBits.fromPB_eq,
    getLsbD_translate_back ext.fromHeader ext.complete (has_translate_iff ext.toProto ext.complete),
    getLsbD_translate_back main.fromHeader main.complete (has_translate_iff main.toProto main.complete),
    none, or_iff_right Bool.false_ne_true, ← and_or_left]
  exact and_iff_left_of_imp fun has => Sum.exists.mp (uses k has)

end Masks

end Cypfr.LocationApiPb
