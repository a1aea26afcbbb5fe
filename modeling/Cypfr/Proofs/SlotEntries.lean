import Cypfr.Proofs.BootChain
import Cypfr.Proofs.BootControl

/-! # Edits of slot entries

Switching a slot changes the type GUID and the flag byte of entries, and nothing else. Such an edit
leaves every name alone, so searches find what they found before; entries that are found under
different A/B names are different entries, so edits of one leave the other alone.
-/

namespace Cypfr.BootControl

open Cypfr.Gpt ByteList

/-- The positions that an edit of the entry at `pentry` may change. -/
def SlotByte (pentry p : ℕ) : Prop := pentry ≤ p ∧ p < pentry + typeGuidSize ∨ p = pentry + abFlagOffset

/-- The arrays agree except for the slot bytes of the entries at some offsets. -/
structure Edited (touched : ℕ → Prop) (arr arr' : Bytes) : Prop where
  length : arr'.length = arr.length
  same : ∀ p, (∀ pentry, touched pentry → ¬ SlotByte pentry p) → arr'[p]? = arr[p]?

namespace Edited

variable {touched touched' : ℕ → Prop} {arr arr' arr'' : Bytes}

theorem refl (touched : ℕ → Prop) (arr : Bytes) : Edited touched arr arr := ⟨rfl, fun _ _ => rfl⟩

theorem mono (edited : Edited touched arr arr') (more : ∀ pentry, touched pentry → touched' pentry) :
    Edited touched' arr arr' :=
  ⟨edited.length, fun p away => edited.same p fun pentry member => away pentry (more pentry member)⟩

theorem trans (first : Edited touched arr arr') (second : Edited touched arr' arr'') : Edited touched arr arr'' :=
  ⟨second.length.trans first.length, fun p away => (second.same p away).trans (first.same p away)⟩

section Entries

variable {n : ℕ} (large : ptnEntrySize ≤ n) (aligned : ∀ pentry, touched pentry → n ∣ pentry)
include large aligned

/-- An entry that is not touched stays. -/
theorem same_entry (edited : Edited touched arr arr') {j p : ℕ} (low : n * j ≤ p) (high : p < n * j + n)
    (untouched : ¬ touched (n * j)) : arr'[p]? = arr[p]? := by
  apply edited.same
  intro pentry member within
  obtain ⟨m, rfl⟩ := aligned pentry member
  have other : m ≠ j := fun here => untouched (here ▸ member)
  have reach : n * m ≤ p ∧ p < n * m + n := by
    simp only [SlotByte, typeGuidSize, abFlagOffset] at within
    simp only [ptnEntrySize] at large
    omega
  rcases Nat.lt_or_gt_of_ne other with before | after
  · have step := Nat.mul_le_mul_left n (Nat.succ_le_of_lt before)
    rw [Nat.mul_succ] at step
    omega
  · have step := Nat.mul_le_mul_left n (Nat.succ_le_of_lt after)
    rw [Nat.mul_succ] at step
    omega

theorem read_entry (edited : Edited touched arr arr') {j : ℕ} (untouched : ¬ touched (n * j)) :
    read arr' (n * j) n = read arr (n * j) n := by
  apply List.ext_getElem?
  intro i
  rw [getElem?_read, getElem?_read]
  split_ifs with inside
  · exact edited.same_entry large aligned (Nat.le_add_right _ _) (by omega) untouched
  · rfl

theorem guidAt_eq (edited : Edited touched arr arr') {j : ℕ} (untouched : ¬ touched (n * j)) :
    guidAt arr' (n * j) = guidAt arr (n * j) := by
  have entry := edited.read_entry large aligned untouched
  have inside : 0 + typeGuidSize ≤ n := le_trans (by decide) large
  rw [guidAt, guidAt, ← Nat.add_zero (n * j), ← read_read arr' inside, ← read_read arr inside, entry]

theorem flagAt_eq (edited : Edited touched arr arr') {j : ℕ} (untouched : ¬ touched (n * j)) :
    flagAt arr' (n * j) = flagAt arr (n * j) := by
  have inside : abFlagOffset < n := lt_of_lt_of_le (by decide) large
  rw [flagAt, flagAt, List.getD_eq_getElem?_getD, List.getD_eq_getElem?_getD,
    edited.same_entry large aligned (Nat.le_add_right _ _) (Nat.add_lt_add_left inside _) untouched]

/-- No edit reaches a name. -/
theorem read_name (edited : Edited touched arr arr') (j : ℕ) :
    read arr' (n * j + partitionNameOffset) 72 = read arr (n * j + partitionNameOffset) 72 := by
  apply List.ext_getElem?
  intro i
  rw [getElem?_read, getElem?_read]
  split_ifs with inside
  · apply edited.same
    intro pentry member within
    obtain ⟨m, rfl⟩ := aligned pentry member
    simp only [SlotByte, typeGuidSize, abFlagOffset, partitionNameOffset] at within
    simp only [ptnEntrySize] at large
    rcases Nat.lt_trichotomy m j with before | rfl | after
    · have step := Nat.mul_le_mul_left n (Nat.succ_le_of_lt before)
      rw [Nat.mul_succ] at step
      omega
    · omega
    · have step := Nat.mul_le_mul_left n (Nat.succ_le_of_lt after)
      rw [Nat.mul_succ] at step
      omega
  · rfl

theorem gptPentrySeek_eq (edited : Edited touched arr arr') (name : Bytes) (fuel i : ℕ) :
    gptPentrySeek name arr' n fuel (n * i) = gptPentrySeek name arr n fuel (n * i) := by
  induction fuel generalizing i with
  | zero => rfl
  | succ fuel ih => rw [gptPentrySeek, gptPentrySeek, edited.length, edited.read_name large aligned, ← Nat.mul_succ, ih]

end Entries

end Edited

/-- What a search finds: an entry with the name. -/
theorem gptPentrySeek_eq_some {name arr : Bytes} {n fuel i pentry : ℕ}
    (found : gptPentrySeek name arr n fuel (n * i) = some pentry) :
    n ∣ pentry ∧ pentry + partitionNameOffset < arr.length ∧
      nameMatches name (read arr (pentry + partitionNameOffset) 72) = true := by
  induction fuel generalizing i with
  | zero => cases found
  | succ fuel ih =>
    rw [gptPentrySeek] at found
    split_ifs at found with inside named
    · obtain rfl := Option.some.inj found
      exact ⟨Nat.dvd_mul_right n i, inside, named⟩
    · exact ih (by rw [Nat.mul_succ]; exact found)

section Names

theorem ascii_append (a b : String) : ascii (a ++ b) = ascii a ++ ascii b := by
  rw [ascii, String.toList_append, List.map_append, ascii, ascii]

theorem plain_abPtnList : ∀ ptn ∈ abPtnList, ∀ slot : Slot, 0 ∉ ascii (ptn ++ slot.suffix) := by
  have plain : ∀ ptn ∈ abPtnList, 0 ∉ ascii ptn := by decide
  intro ptn member slot
  rw [ascii_append, List.mem_append, not_or]
  exact ⟨plain ptn member, by cases slot <;> decide⟩

theorem ascii_injOn : ∀ m ∈ abPtnList, ∀ n ∈ abPtnList, ascii m = ascii n → m = n := by decide

/-- A slot name does not end like a twin. -/
theorem slot_ne_twin (ptn ptn' : String) (slot slot' : Slot) :
    ascii (ptn ++ slot.suffix) ≠ ascii (ptn' ++ slot'.suffix) ++ ascii "bak" := by
  intro same
  have last := congrArg List.getLast? same
  rw [ascii_append] at last
  cases slot <;> simp [ascii, Slot.suffix] at last

/-- No entry is found under two A/B names. -/
theorem names_separate {ptn ptn' : String} (left : ptn ∈ abPtnList) (right : ptn' ∈ abPtnList) {slot slot' : Slot}
    {raw : Bytes} (named : nameMatches (ascii (ptn ++ slot.suffix)) raw = true)
    (named' : nameMatches (ascii (ptn' ++ slot'.suffix)) raw = true) : ptn = ptn' ∧ slot = slot' := by
  rw [nameMatches_iff (plain_abPtnList ptn left slot)] at named
  rw [nameMatches_iff (plain_abPtnList ptn' right slot')] at named'
  have equal : ascii (ptn ++ slot.suffix) = ascii (ptn' ++ slot'.suffix) := by
    rcases named with plain | twin <;> rcases named' with plain' | twin'
    · exact plain.symm.trans plain'
    · exact absurd (plain.symm.trans twin') (slot_ne_twin _ _ _ _)
    · exact absurd (plain'.symm.trans twin) (slot_ne_twin _ _ _ _)
    · exact List.append_cancel_right (twin.symm.trans twin')
  rw [ascii_append, ascii_append] at equal
  obtain ⟨names, suffixes⟩ := List.append_inj' equal (by cases slot <;> cases slot' <;> decide)
  refine ⟨ascii_injOn ptn left ptn' right names, ?_⟩
  cases slot <;> cases slot' <;> first | rfl | exact absurd suffixes (by decide)

end Names

section SlotWrite

/-- `UPDATE_SLOT` in one array. -/
def slotWrite (arr : Bytes) (pentry : ℕ) (guid : Bytes) (active : Bool) : Bytes :=
  write (write arr pentry guid) (pentry + abFlagOffset)
    [if active then abSlotActiveVal else flagAt (write arr pentry guid) pentry &&& ~~~PartAttr.slotActive.mask]

theorem pentryArr_updateSlot (disk : GptDisk) (pentry : GptInstance → ℕ) (guid : Bytes) (active : Bool)
    (gpt : GptInstance) : (gptDiskUpdateCrc (updateSlot disk pentry guid active)).pentryArr gpt =
      slotWrite (disk.pentryArr gpt) (pentry gpt) guid active := rfl

variable {arr guid : Bytes} {pentry : ℕ} (size : guid.length = typeGuidSize) (active : Bool)
include size

theorem edited_slotWrite : Edited (· = pentry) arr (slotWrite arr pentry guid active) := by
  refine ⟨by simp [slotWrite], fun p away => ?_⟩
  have outside := away pentry rfl
  simp only [SlotByte, not_or] at outside
  rw [slotWrite, getElem?_write, if_neg (by simp only [List.length_singleton]; omega), getElem?_write,
    if_neg (by omega)]

theorem guidAt_slotWrite (inside : pentry + typeGuidSize ≤ arr.length) :
    guidAt (slotWrite arr pentry guid active) pentry = guid := by
  have apart : pentry + typeGuidSize ≤ pentry + abFlagOffset := Nat.add_le_add_left (by decide) _
  rw [guidAt, slotWrite, read_write_disjoint (.inr apart), ← size]
  exact read_write_same arr pentry guid (size ▸ inside)

theorem flagAt_slotWrite (inside : pentry + abFlagOffset < arr.length) :
    flagAt (slotWrite arr pentry guid active) pentry =
      if active then abSlotActiveVal else flagAt arr pentry &&& ~~~PartAttr.slotActive.mask := by
  have old : flagAt (write arr pentry guid) pentry = flagAt arr pentry := by
    have apart : ¬ pentry + abFlagOffset < pentry + guid.length := by rw [size, typeGuidSize, abFlagOffset]; omega
    rw [flagAt, flagAt, List.getD_eq_getElem?_getD, List.getD_eq_getElem?_getD, getElem?_write,
      if_neg fun range => apart range.2.1]
  rw [slotWrite, old, flagAt, write_singleton, List.getD_eq_getElem?_getD,
    List.getElem?_set_self (by simpa using inside), Option.getD_some]

end SlotWrite

/-- The size of the entries of a device. -/
def entrySizeOf (d : BlockDevice) : ℕ := get4 d.primaryHeader pentrySizeOffset

/-- A device with entries of one size of at least 128 bytes in both tables, and whole tables. -/
structure AbLayout (d : BlockDevice) : Prop extends d.WellFormed where
  sameEntry : get4 d.primaryHeader pentrySizeOffset = get4 d.secondaryHeader pentrySizeOffset
  large : ptnEntrySize ≤ entrySizeOf d
  whole : entrySizeOf d ∣ (d.tables .primaryArray).length

/-- The offset of the entry with a name in a table, as the header of that copy announces it. -/
def entryOffset (d : BlockDevice) (gpt : GptInstance) (name : String) : Option ℕ :=
  gptPentrySeek (ascii name) (d.tables gpt.array) (get4 (d.tables gpt.header) pentrySizeOffset)
    (d.tables gpt.array).length 0

namespace AbLayout

variable {d d' : BlockDevice}

theorem entrySize (layout : AbLayout d) (gpt : GptInstance) :
    get4 (d.tables gpt.header) pentrySizeOffset = entrySizeOf d := by
  cases gpt with
  | primaryGpt => rfl
  | secondaryGpt => exact layout.sameEntry.symm

theorem length_array (layout : AbLayout d) (gpt : GptInstance) :
    (d.tables gpt.array).length = (d.tables .primaryArray).length := by
  cases gpt with
  | primaryGpt => rfl
  | secondaryGpt => exact layout.toWellFormed.length_arrays.symm

theorem rewritten (layout : AbLayout d) (rewritten : Rewritten d d') : AbLayout d' := by
  have primary : get4 d'.primaryHeader pentrySizeOffset = get4 d.primaryHeader pentrySizeOffset :=
    (rewritten.geometry .primaryGpt).pentrySize
  have secondary : get4 d'.secondaryHeader pentrySizeOffset = get4 d.secondaryHeader pentrySizeOffset :=
    (rewritten.geometry .secondaryGpt).pentrySize
  refine ⟨rewritten.wellFormed, ?_, ?_, ?_⟩
  · rw [primary, secondary, layout.sameEntry]
  · rw [entrySizeOf, primary]; exact layout.large
  · rw [entrySizeOf, primary, rewritten.length_tables layout.toWellFormed]; exact layout.whole

/-- An entry that is found lies in its table as a whole. -/
theorem entryOffset_eq_some (layout : AbLayout d) {gpt : GptInstance} {name : String} {pentry : ℕ}
    (found : entryOffset d gpt name = some pentry) :
    entrySizeOf d ∣ pentry ∧ pentry + entrySizeOf d ≤ (d.tables gpt.array).length ∧
      nameMatches (ascii name) (read (d.tables gpt.array) (pentry + partitionNameOffset) 72) = true := by
  rw [entryOffset, layout.entrySize, ← Nat.mul_zero (entrySizeOf d)] at found
  obtain ⟨⟨j, rfl⟩, inside, named⟩ := gptPentrySeek_eq_some found
  refine ⟨Nat.dvd_mul_right _ j, ?_, named⟩
  obtain ⟨count, total⟩ := layout.whole
  rw [layout.length_array] at inside ⊢
  rw [total] at inside ⊢
  have below : j < count := lt_of_mul_lt_mul_left (a := entrySizeOf d) (lt_of_le_of_lt (Nat.le_add_right _ _) inside)
    (Nat.zero_le _)
  rw [← Nat.mul_succ]
  exact Nat.mul_le_mul_left _ below

/-- Different A/B names are found at different places. -/
theorem entryOffset_separate (layout : AbLayout d) {gpt : GptInstance} {ptn ptn' : String} (left : ptn ∈ abPtnList)
    (right : ptn' ∈ abPtnList) {slot slot' : Slot} {pentry : ℕ}
    (found : entryOffset d gpt (ptn ++ slot.suffix) = some pentry)
    (found' : entryOffset d gpt (ptn' ++ slot'.suffix) = some pentry) : ptn = ptn' ∧ slot = slot' :=
  names_separate left right (layout.entryOffset_eq_some found).2.2 (layout.entryOffset_eq_some found').2.2

/-- After edits of whole entries every search finds what it found. -/
theorem entryOffset_edited (layout : AbLayout d) (rewritten : Rewritten d d') {gpt : GptInstance} {touched : ℕ → Prop}
    (aligned : ∀ pentry, touched pentry → entrySizeOf d ∣ pentry)
    (edited : Edited touched (d.tables gpt.array) (d'.tables gpt.array)) (name : String) :
    entryOffset d' gpt name = entryOffset d gpt name := by
  rw [entryOffset, entryOffset, (rewritten.geometry gpt).pentrySize, layout.entrySize, edited.length,
    ← Nat.mul_zero (entrySizeOf d), edited.gptPentrySeek_eq layout.large aligned]

end AbLayout

/-! ## Formatted devices -/

theorem entrySizeOf_format {pairs : Bytes} : entrySizeOf (format 512 ptnEntrySize pairs) = ptnEntrySize := by
  rw [entrySizeOf, primaryHeader_format]
  exact pentrySize_formatHeader (by decide) (by decide)

theorem abLayout_format {pairs : Bytes} (ok : Formattable 512 ptnEntrySize pairs)
    (whole : ptnEntrySize ∣ pairs.length) :
    AbLayout (format 512 ptnEntrySize pairs) := by
  have sizeBak : get4 (format 512 ptnEntrySize pairs).secondaryHeader pentrySizeOffset = ptnEntrySize := by
    rw [secondaryHeader_format]
    exact pentrySize_formatHeader (by decide) (by decide)
  refine ⟨wellFormed_format ok, entrySizeOf_format.trans sizeBak.symm, entrySizeOf_format.ge, ?_⟩
  have array := array_format ok .primaryGpt
  rw [GptInstance.array] at array
  rwa [entrySizeOf_format, array]

theorem entryOffset_format {pairs : Bytes} (ok : Formattable 512 ptnEntrySize pairs)
    (whole : ptnEntrySize ∣ pairs.length) (gpt : GptInstance) (name : String) :
    entryOffset (format 512 ptnEntrySize pairs) gpt name =
      gptPentrySeek (ascii name) pairs ptnEntrySize pairs.length 0 := by
  rw [entryOffset, (abLayout_format ok whole).entrySize, entrySizeOf_format, array_format ok]

theorem abLayout_bootDisk : AbLayout bootDisk := abLayout_format formattable_bootPair (by decide +kernel)

theorem entryOffset_bootDisk (which : Slot) (gpt : GptInstance) :
    entryOffset bootDisk gpt ("boot" ++ which.suffix) = some (which.index * ptnEntrySize) := by
  rw [bootDisk, entryOffset_format formattable_bootPair (by decide +kernel)]
  cases which <;> decide +kernel

theorem devPath_emmc {hal : Hal} (emmc : hal.isUfs = false) (name : String) :
    hal.devPath name = some "/dev/block/mmcblk0" := by
  rw [Env.devPath, emmc]
  rfl

end Cypfr.BootControl
