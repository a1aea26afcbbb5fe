import Cypfr.Proofs.BootControl
import Mathlib.Algebra.Group.Nat.Defs

/-! # The number of slots and their suffixes

A slot is accepted that is below the number of slots, and that is counted by the names in the directory that begin with
the name of the boot partition. There are two suffixes: a third such name has a slot accepted that has none.
-/

namespace Cypfr.BootControl

open Cypfr.Gpt Journal

variable {hal : Hal}

/-- What a value is that names a suffix. -/
theorem suffix_iff {slot : UInt32} : (∃ which : Slot, slotSuffixArr[slot.toNat]? = some (some which.suffix)) ↔
    slot.toNat < 2 := by
  constructor
  · rintro ⟨which, there⟩
    obtain ⟨bound, same⟩ := List.getElem?_eq_some_iff.mp there
    have last : slot.toNat ≠ 2 := by
      intro two
      simp [slotSuffixArr, two] at there
    have three : slot.toNat < 3 := bound
    omega
  · intro below
    obtain zero | one : slot.toNat = 0 ∨ slot.toNat = 1 := by omega
    · exact ⟨.a, by rw [zero]; rfl⟩
    · exact ⟨.b, by rw [one]; rfl⟩

/-- An operation finds its suffix unless a slot is accepted that has none. -/
theorem withSuffix_isSome_iff {α : Type} {slot : UInt32} {rejected : α} {operation : Slot → α} :
    (withSuffix hal slot rejected operation).isSome ↔ (checkSlotSanityAt hal slot = true → slot.toNat < 2) := by
  rw [withSuffix]
  cases checkSlotSanityAt hal slot with
  | false => exact iff_of_true rfl fun accepted => absurd accepted Bool.false_ne_true
  | true =>
    by_cases below : slot.toNat < 2
    · obtain zero | one : slot.toNat = 0 ∨ slot.toNat = 1 := by omega
      · rw [zero]
        exact iff_of_true rfl fun _ => by decide
      · rw [one]
        exact iff_of_true rfl fun _ => by decide
    · have none : (slotSuffixArr[slot.toNat]?).join = none := by
        by_cases two : slot.toNat = 2
        · rw [two]
          rfl
        · have past : slotSuffixArr.length ≤ slot.toNat := by
            have three : slotSuffixArr.length = 3 := rfl
            omega
          rw [List.getElem?_eq_none past]
          rfl
      rw [none]
      exact iff_of_false Bool.false_ne_true fun all => below (all rfl)

theorem checkSlotSanityAt_iff {slot : UInt32} : checkSlotSanityAt hal slot = true ↔ slot < numSlots hal := by
  rw [checkSlotSanityAt, Bool.not_eq_true', Bool.or_eq_false_iff, decide_eq_false_iff_not, decide_eq_false_iff_not,
    UInt32.lt_iff_toNat_lt, UInt32.lt_iff_toNat_lt, UInt32.lt_iff_toNat_lt]
  have one : (1 : UInt32).toNat = 1 := rfl
  constructor
  · rintro ⟨some, within⟩
    have back : (numSlots hal - 1).toNat = (numSlots hal).toNat - 1 :=
      UInt32.toNat_sub_of_le _ _ (UInt32.le_iff_toNat_le.mpr (by omega))
    omega
  · intro below
    have back : (numSlots hal - 1).toNat = (numSlots hal).toNat - 1 :=
      UInt32.toNat_sub_of_le _ _ (UInt32.le_iff_toNat_le.mpr (by omega))
    omega

/-- Each accepted slot has a suffix exactly when at most two names are counted. -/
theorem accepted_iff : (∀ slot, checkSlotSanityAt hal slot = true → slot.toNat < 2) ↔ (numSlots hal).toNat ≤ 2 := by
  constructor
  · intro all
    by_contra more
    have third : checkSlotSanityAt hal 2 = true := by
      rw [checkSlotSanityAt_iff, UInt32.lt_iff_toNat_lt]
      exact Nat.lt_of_not_le more
    exact absurd (all 2 third) (by decide)
  · intro few slot accepted
    have below := UInt32.lt_iff_toNat_lt.mp (checkSlotSanityAt_iff.mp accepted)
    omega

theorem toNat_numSlots (count : ℕ)
    (counted : (hal.bootDevDir.countP fun name => strncmpEq 4 (ascii name) (ascii "boot")) =
    count) : (numSlots hal).toNat = if hal.gvmqPlatform then 2 else count % 2 ^ 32 := by
  rw [numSlots, getNumberSlots, ← List.countP_eq_length_filter, counted]
  cases hal.gvmqPlatform with
  | true => rfl
  | false => exact UInt32.toNat_ofNat'

/-- No operation uses a suffix that is not there exactly when the platform is virtual or at most two names begin with
that of the boot partition. -/
theorem suffixes_there_iff (hal : Hal) :
    ((∀ slot, checkSlotSanityAt hal slot = true →
        ∃ which : Slot, slotSuffixArr[slot.toNat]? = some (some which.suffix)) ∧
      ∀ slot s, (setActiveBootSlotOf hal slot).isSome ∧ (setSlotAsUnbootableOf hal slot).isSome ∧
        (isSlotBootableOf hal s slot).isSome ∧ (isSlotMarkedSuccessfulOf hal s slot).isSome ∧
          (getSuffix hal slot).isSome) ↔
      hal.gvmqPlatform = true ∨
        (hal.bootDevDir.countP fun name => strncmpEq 4 (ascii name) (ascii "boot")) % 2 ^ 32 ≤ 2 := by
  have counted : (numSlots hal).toNat ≤ 2 ↔ hal.gvmqPlatform = true ∨
      (hal.bootDevDir.countP fun name => strncmpEq 4 (ascii name) (ascii "boot")) % 2 ^ 32 ≤ 2 := by
    rw [toNat_numSlots _ rfl]
    cases hal.gvmqPlatform <;> simp
  rw [← counted, ← accepted_iff]
  constructor
  · exact fun there slot accepted => suffix_iff.mp (there.1 slot accepted)
  · intro all
    refine ⟨fun slot accepted => suffix_iff.mpr (all slot accepted), fun slot s => ⟨?_, ?_, ?_, ?_, ?_⟩⟩
    · rw [setActiveBootSlotOf]
      split_ifs
      · rfl
      · exact withSuffix_isSome_iff.mpr (all slot)
    · exact withSuffix_isSome_iff.mpr (all slot)
    · exact withSuffix_isSome_iff.mpr (all slot)
    · exact withSuffix_isSome_iff.mpr (all slot)
    · exact withSuffix_isSome_iff.mpr (all slot)

/-- A third name that begins with that of the boot partition has slot 2 accepted. -/
theorem third_slot_has_no_suffix : ¬ ∀ (hal : Hal) (slot : UInt32), checkSlotSanityAt hal slot = true →
    ∃ which : Slot, slotSuffixArr[slot.toNat]? = some (some which.suffix) := by
  intro all
  have accepted : checkSlotSanityAt { bootHal with bootDevDir := ["boot_a", "boot_b", "bootmisc"] } 2 = true := by
    decide
  exact absurd (suffix_iff.mp (all _ 2 accepted)) (by decide)

end Cypfr.BootControl
