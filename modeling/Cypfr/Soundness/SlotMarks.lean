import Cypfr.Proofs.SlotMarks

/-! # Marking a slot as successful or unbootable

An accepted `mark_boot_successful` or `set_slot_as_unbootable` sets one bit in the entries of one slot, in
both tables, and changes no other bit of any entry; both copies of every device stay usable. The readers ask
for the entry of the boot partition, so they report the change where that partition has both slots.
-/

namespace Cypfr.BootControl

open Cypfr.Gpt ByteList Journal

/-- Entry `j` of a table. -/
def entryIn (d : BlockDevice) (gpt : GptInstance) (j : ℕ) : Bytes :=
  read (d.tables gpt.array) (entrySizeOf d * j) (entrySizeOf d)

/-- The table has an entry `j`. -/
def InTable (d : BlockDevice) (gpt : GptInstance) (j : ℕ) : Prop :=
  entrySizeOf d * (j + 1) ≤ (d.tables gpt.array).length

/-- The name of an entry, as the code reads it. -/
def nameOf (entry : Bytes) : Bytes := cstr (name8 (read entry partitionNameOffset 72))

/-- No name is used twice in a table, and none is that of an A/B entry with `bak` behind it. -/
structure NamesApart (d : BlockDevice) : Prop where
  distinct : ∀ gpt i j, InTable d gpt i → InTable d gpt j → nameOf (entryIn d gpt i) ≠ [] →
    nameOf (entryIn d gpt i) = nameOf (entryIn d gpt j) → i = j
  noTwin : ∀ gpt j, InTable d gpt j → ∀ ptn ∈ abPtnList, ∀ which : Slot,
    nameOf (entryIn d gpt j) ≠ ascii (ptn ++ which.suffix) ++ ascii "bak"

/-- The entries of A/B partitions with both slots lie on the devices that their links lead to. -/
def Linked (hal : Hal) (s : Store) : Prop :=
  ∀ path d, s path = some d → ∀ gpt j, InTable d gpt j → ∀ ptn ∈ abPtnList, hal.hasSlots ptn = true →
    ∀ which : Slot, nameOf (entryIn d gpt j) = ascii (ptn ++ which.suffix) → hal.devPath (ptn ++ which.suffix) = some path

/-- A layout of partitions over devices. -/
structure SlotLayout (hal : Hal) (s : Store) : Prop where
  devices : s.All SlotDevice
  names : s.All NamesApart
  linked : Linked hal s

section Search

theorem gptPentrySeek_complete {name arr : Bytes} {n fuel i j : ℕ} (reached : i ≤ j) (enough : j - i < fuel)
    (inside : n * j + partitionNameOffset < arr.length)
    (named : nameMatches name (read arr (n * j + partitionNameOffset) 72) = true) :
    ∃ pentry, gptPentrySeek name arr n fuel (n * i) = some pentry := by
  induction fuel generalizing i with
  | zero => omega
  | succ fuel ih =>
    have before : n * i ≤ n * j := Nat.mul_le_mul_left n reached
    rw [gptPentrySeek, if_pos (by omega)]
    split_ifs with here
    · exact ⟨_, rfl⟩
    · rw [← Nat.mul_succ]
      have later : i ≠ j := by
        rintro rfl
        exact here named
      exact ih (by omega) (by omega)

variable {d : BlockDevice} {gpt : GptInstance} {ptn : String} {which : Slot} {pentry j : ℕ}

theorem nameOf_entryIn (layout : AbLayout d) (gpt : GptInstance) (j : ℕ) : nameOf (entryIn d gpt j) =
    cstr (name8 (read (d.tables gpt.array) (entrySizeOf d * j + partitionNameOffset) 72)) := by
  have room : partitionNameOffset + 72 ≤ entrySizeOf d := le_trans (by decide) layout.large
  rw [nameOf, entryIn, read_read _ room]

/-- The code finds just the entry with the name. -/
theorem entryOffset_iff (layout : AbLayout d) (names : NamesApart d) (listed : ptn ∈ abPtnList) :
    entryOffset d gpt (ptn ++ which.suffix) = some pentry ↔
      ∃ j, InTable d gpt j ∧ pentry = entrySizeOf d * j ∧ nameOf (entryIn d gpt j) = ascii (ptn ++ which.suffix) := by
  have plain := plain_abPtnList ptn listed which
  have forward {pentry : ℕ} (found : entryOffset d gpt (ptn ++ which.suffix) = some pentry) :
      ∃ j, InTable d gpt j ∧ pentry = entrySizeOf d * j ∧ nameOf (entryIn d gpt j) = ascii (ptn ++ which.suffix) := by
    obtain ⟨⟨j, rfl⟩, inside, named⟩ := layout.entryOffset_eq_some found
    refine ⟨j, by rwa [InTable, Nat.mul_succ], rfl, ?_⟩
    rw [nameMatches_iff plain, ← nameOf_entryIn layout] at named
    exact named.resolve_right (names.noTwin gpt j (by rwa [InTable, Nat.mul_succ]) ptn listed which)
  refine ⟨forward, ?_⟩
  rintro ⟨j, inside, rfl, named⟩
  have large := layout.large
  have room : entrySizeOf d * j + partitionNameOffset < (d.tables gpt.array).length := by
    rw [InTable, Nat.mul_succ] at inside
    simp only [ptnEntrySize, partitionNameOffset] at large ⊢
    omega
  have small : j < (d.tables gpt.array).length := by
    have scaled : 1 * j ≤ entrySizeOf d * j := Nat.mul_le_mul_right j (le_trans (by decide) large)
    omega
  have matching : nameMatches (ascii (ptn ++ which.suffix))
      (read (d.tables gpt.array) (entrySizeOf d * j + partitionNameOffset) 72) = true := by
    rw [nameMatches_iff plain, ← nameOf_entryIn layout]
    exact .inl named
  obtain ⟨offset, found⟩ := gptPentrySeek_complete (Nat.zero_le j) (by omega) room matching
  rw [Nat.mul_zero, ← layout.entrySize gpt] at found
  obtain ⟨i, inside', rfl, named'⟩ := forward found
  have visible : nameOf (entryIn d gpt i) ≠ [] := by
    rw [named', ascii_append]
    cases which <;> simp [ascii, Slot.suffix]
  obtain rfl := names.distinct gpt i j inside' inside visible (named'.trans named.symm)
  exact found

theorem SlotLayout.placed {hal : Hal} {s : Store} (layout : SlotLayout hal s) : Placed hal s := by
  intro path d here ptn listed both which gpt pentry found
  obtain ⟨j, inside, -, named⟩ :=
    (entryOffset_iff (layout.devices path d here).toAbLayout (layout.names path d here) listed).mp found
  exact layout.linked path d here gpt j inside ptn listed both which named

end Search

/-- The name of an entry that an operation on a slot is for. -/
def Targeted (hal : Hal) (slot : Slot) (name : Bytes) : Prop :=
  ∃ ptn ∈ abPtnList, hal.hasSlots ptn = true ∧ name = ascii (ptn ++ slot.suffix)

/-- What an attribute update should do: the bit of the attribute is set in the entries of one slot of the
partitions that have both, which are there, and nothing else is changed in any entry. -/
structure SlotMarked (hal : Hal) (attr : PartAttr) (slot : Slot) (s s' : Store) : Prop where
  found : ∀ ptn ∈ abPtnList, hal.hasSlots ptn = true → ∃ path d, hal.devPath (ptn ++ slot.suffix) = some path ∧
    s path = some d ∧ ∀ gpt, ∃ j, InTable d gpt j ∧ nameOf (entryIn d gpt j) = ascii (ptn ++ slot.suffix)
  entries : ∀ path d, s path = some d → ∃ d', s' path = some d' ∧ (∀ gpt, usable d' gpt = true) ∧
    ∀ gpt j, (InTable d' gpt j ↔ InTable d gpt j) ∧ (InTable d gpt j →
      (Targeted hal slot (nameOf (entryIn d gpt j)) → entryIn d' gpt j = flagged attr 0 (entryIn d gpt j)) ∧
      (¬ Targeted hal slot (nameOf (entryIn d gpt j)) → entryIn d' gpt j = entryIn d gpt j))

section Entries

variable {hal : Hal} {s s' : Store} {attr : PartAttr} {slot which : Slot} {d d' : BlockDevice} {gpt : GptInstance}

theorem FlagsSet.read_entry {touched : ℕ → Prop} {arr arr' : Bytes} {n j : ℕ} (large : ptnEntrySize ≤ n)
    (aligned : ∀ pentry, touched pentry → n ∣ pentry) (flags : FlagsSet attr touched arr arr')
    (marked : touched (n * j)) :
    read arr' (n * j) n = flagged attr 0 (read arr (n * j) n) := by
  have room : abFlagOffset < n := lt_of_lt_of_le (by decide) large
  apply List.ext_getElem?
  intro i
  rw [getElem?_read, flagged, write_singleton, Nat.zero_add]
  by_cases here : i = abFlagOffset
  · subst here
    rw [if_pos room, flags.set _ marked]
    cases flag : arr[n * j + abFlagOffset]? with
    | none =>
      have short : (read arr (n * j) n).length ≤ abFlagOffset := by
        rw [length_read]
        have := List.getElem?_eq_none_iff.mp flag
        omega
      rw [List.set_eq_of_length_le short, List.getElem?_eq_none short, Option.map_none]
    | some value =>
      have byte : (read arr (n * j) n)[abFlagOffset]? = some value := by rw [getElem?_read, if_pos room, flag]
      rw [List.getElem?_set_self (List.getElem?_eq_some_iff.mp byte).1, flagAt, List.getD_eq_getElem?_getD,
        Nat.zero_add, byte]
      rfl
  · rw [List.getElem?_set_ne (Ne.symm here), getElem?_read]
    split_ifs with inside
    · apply flags.same
      intro pentry member same
      obtain ⟨m, rfl⟩ := aligned pentry member
      rcases Nat.lt_trichotomy m j with before | rfl | after
      · have step := Nat.mul_le_mul_left n (Nat.succ_le_of_lt before)
        rw [Nat.mul_succ] at step
        omega
      · omega
      · have step := Nat.mul_le_mul_left n (Nat.succ_le_of_lt after)
        rw [Nat.mul_succ] at step
        omega
    · rfl

theorem entrySizeOf_rewritten (rewritten : Rewritten d d') : entrySizeOf d' = entrySizeOf d :=
  (rewritten.geometry .primaryGpt).pentrySize

theorem slotMarked_of_marks (layout : SlotLayout hal s)
    (found : ∀ ptn ∈ abPtnList.filter hal.hasSlots, InTables hal s (ptn ++ slot.suffix))
    (marks : Marks attr slot (abPtnList.filter hal.hasSlots) s s') : SlotMarked hal attr slot s s' := by
  constructor
  · intro ptn listed both
    obtain ⟨path, d, resolved, here, offsets⟩ := found ptn (List.mem_filter.mpr ⟨listed, both⟩)
    refine ⟨path, d, resolved, here, fun gpt => ?_⟩
    obtain ⟨pentry, offset⟩ := offsets gpt
    obtain ⟨j, inside, -, named⟩ :=
      (entryOffset_iff (layout.devices path d here).toAbLayout (layout.names path d here) listed).mp offset
    exact ⟨j, inside, named⟩
  · intro path d here
    have device := layout.devices path d here
    obtain ⟨d', there, marked⟩ := marks.device path d here
    have size := entrySizeOf_rewritten marked.rewritten
    refine ⟨d', there, marked.usable, fun gpt j => ⟨?_, fun inside => ?_⟩⟩
    · rw [InTable, InTable, size, (marked.flags gpt).length]
    have touched : Touched (slotsOf (abPtnList.filter hal.hasSlots) slot) d gpt (entrySizeOf d * j) ↔
        Targeted hal slot (nameOf (entryIn d gpt j)) := by
      have positive : 0 < entrySizeOf d := lt_of_lt_of_le (by decide) device.toAbLayout.large
      constructor
      · rintro ⟨ptn, _, ⟨member, rfl⟩, offset⟩
        obtain ⟨listed, both⟩ := List.mem_filter.mp member
        obtain ⟨i, -, same, named⟩ := (entryOffset_iff device.toAbLayout (layout.names path d here) listed).mp offset
        obtain rfl := Nat.eq_of_mul_eq_mul_left positive same
        exact ⟨ptn, listed, both, named⟩
      · rintro ⟨ptn, listed, both, named⟩
        exact ⟨ptn, slot, ⟨List.mem_filter.mpr ⟨listed, both⟩, rfl⟩,
          (entryOffset_iff device.toAbLayout (layout.names path d here) listed).mpr ⟨j, inside, rfl, named⟩⟩
    rw [← touched, entryIn, entryIn, size]
    constructor
    · exact (marked.flags gpt).read_entry device.toAbLayout.large device.toAbLayout.aligned
    · exact marked.retagged.edited gpt |>.read_entry device.toAbLayout.large device.toAbLayout.aligned

end Entries

theorem or_and_mask (flag mask : UInt8) : (flag ||| mask) &&& mask = mask := by
  apply UInt8.toBitVec_inj.mp
  rw [UInt8.toBitVec_and, UInt8.toBitVec_or]
  ext i
  simp +contextual

section Readers

variable {hal : Hal} {s s' : Store} {attr : PartAttr} {slot which : Slot} {ptns : List String} {ptn : String}

theorem Marks.evolves (marks : Marks attr slot ptns s s') : Evolves (slotsOf ptns slot) s s' := by
  refine ⟨fun path d here => ?_, marks.absent⟩
  obtain ⟨d', there, marked⟩ := marks.device path d here
  exact ⟨d', there, marked.retagged⟩

/-- The other slot is read back as it was. -/
theorem getPartitionAttribute_other (devices : s.All SlotDevice) (ab : ptns ⊆ abPtnList) (listed : ptn ∈ abPtnList)
    (marks : Marks attr slot ptns s s') (other : which ≠ slot) (asked : PartAttr) :
    getPartitionAttribute hal s' (ptn ++ which.suffix) asked = getPartitionAttribute hal s (ptn ++ which.suffix)
    asked := by
  have layouts : s.All AbLayout := fun path d here => (devices path d here).toAbLayout
  have unnamed : ¬ slotsOf ptns slot ptn which := fun named => other named.2
  rw [getPartitionAttribute_eq (marks.evolves.layouts layouts), getPartitionAttribute_eq layouts,
    marks.evolves.entryOf_eq layouts (fun _ _ named => ab named.1) listed unnamed]

/-- The marked slot is read back with the attribute. -/
theorem getPartitionAttribute_marked (devices : s.All SlotDevice) (marks : Marks attr slot ptns s s')
    (member : ptn ∈ ptns) (found : InTables hal s (ptn ++ slot.suffix)) :
    getPartitionAttribute hal s' (ptn ++ slot.suffix) attr = some true := by
  obtain ⟨path, d, resolved, here, offsets⟩ := found
  obtain ⟨d', there, marked⟩ := marks.device path d here
  obtain ⟨pentry, offset⟩ := offsets .primaryGpt
  have layout := (devices path d here).toAbLayout
  have offset' := (marked.retagged.entryOffset_eq layout .primaryGpt _).trans offset
  have touched : Touched (slotsOf ptns slot) d .primaryGpt pentry := ⟨ptn, slot, ⟨member, rfl⟩, offset⟩
  have inside : pentry + abFlagOffset < (d.tables GptInstance.primaryGpt.array).length := by
    have whole := (layout.entryOffset_eq_some offset).2.1
    have large := layout.large
    simp only [ptnEntrySize, abFlagOffset] at large ⊢
    omega
  have flag : flagAt (d'.tables GptInstance.primaryGpt.array) pentry =
      flagAt (d.tables GptInstance.primaryGpt.array) pentry ||| attr.mask := by
    rw [flagAt, List.getD_eq_getElem?_getD, (marked.flags .primaryGpt).set pentry touched,
      List.getElem?_eq_getElem inside, flagAt, List.getD_eq_getElem _ _ inside]
    rfl
  have reads : entryOf hal s' (ptn ++ slot.suffix) .primaryGpt =
      some (entryAt (d'.tables GptInstance.primaryGpt.array) pentry) :=
    entryOf_eq_some.mpr ⟨path, d', pentry, resolved, there, offset', rfl⟩
  have layouts' : s'.All AbLayout := fun path d here => (marks.devices devices path d here).toAbLayout
  rw [getPartitionAttribute_eq layouts', reads, Option.map_some, Option.some.injEq, decide_eq_true_eq, HasAttr,
    entryAt, flag]
  rw [or_and_mask]
  cases attr <;> decide

end Readers

section Call

variable {hal : Hal} {s : Store} {slot : Slot} {attr : PartAttr}

/-- An accepted `update_slot_attribute`: the entries are marked; the marked slot of the boot partition, where
it has both slots, is read back with the attribute, and the other slot with what it had. -/
theorem updated_slot (other : attr ≠ .slotActive) (layout : SlotLayout hal s)
    (accepted : (updateSlotAttribute hal slot attr).result s = 0) :
    SlotMarked hal attr slot s ((updateSlotAttribute hal slot attr).final s) ∧
      (hal.hasSlots "boot" = true →
        getPartitionAttribute hal ((updateSlotAttribute hal slot attr).final s) ("boot" ++ slot.suffix) attr =
          some true) ∧
      ∀ which, which ≠ slot → ∀ asked,
        getPartitionAttribute hal ((updateSlotAttribute hal slot attr).final s) ("boot" ++ which.suffix) asked =
          getPartitionAttribute hal s ("boot" ++ which.suffix) asked := by
  have listed : "boot" ∈ abPtnList := by decide
  rw [updateSlotAttribute] at accepted ⊢
  obtain ⟨found, marks⟩ :=
    marks_updateSlotLoop other (List.Subset.refl abPtnList) layout.devices layout.placed accepted
  refine ⟨slotMarked_of_marks layout found marks, fun both => ?_, fun which apart asked => ?_⟩
  · have member : "boot" ∈ abPtnList.filter hal.hasSlots := List.mem_filter.mpr ⟨listed, both⟩
    exact getPartitionAttribute_marked layout.devices marks member (found "boot" member)
  · exact getPartitionAttribute_other layout.devices (List.filter_subset_self _) listed marks apart asked

theorem markBootSuccessful_eq (accepted : (markBootSuccessful hal).result s = 0) :
    (updateSlotAttribute hal (getCurrentSlot hal) .bootSuccessful).result s = 0 ∧ (markBootSuccessful hal).final s =
      (updateSlotAttribute hal (getCurrentSlot hal) .bootSuccessful).final s := by
  rw [markBootSuccessful] at accepted ⊢
  split_ifs at accepted ⊢
  · exact absurd (show (-1 : ℤ) = 0 from accepted) (by decide)
  · rw [Prog.result_bind, Prog.result_pure] at accepted
    rw [Prog.final_bind, Prog.final_pure]
    split_ifs at accepted with failed
    exact ⟨not_not.mp failed, rfl⟩

theorem setSlotAsUnbootable_eq (accepted : (setSlotAsUnbootable hal slot).result s = 0) :
    checkSlotSanity hal slot = true ∧ (updateSlotAttribute hal slot .unbootable).result s = 0 ∧
      (setSlotAsUnbootable hal slot).final s = (updateSlotAttribute hal slot .unbootable).final s := by
  rw [setSlotAsUnbootable] at accepted ⊢
  split_ifs at accepted ⊢ with sane
  · exact absurd (show (-1 : ℤ) = 0 from accepted) (by decide)
  · rw [Prog.result_bind, Prog.result_pure] at accepted
    rw [Prog.final_bind, Prog.final_pure]
    split_ifs at accepted with failed
    exact ⟨by simpa using sane, not_not.mp failed, rfl⟩

end Call

/-- Both operations, when they answer 0. -/
theorem slots_marked (hal : Hal) (s : Store) (layout : SlotLayout hal s) :
    ((markBootSuccessful hal).result s = 0 →
      SlotMarked hal .bootSuccessful (getCurrentSlot hal) s ((markBootSuccessful hal).final s) ∧
      (hal.hasSlots "boot" = true → checkSlotSanity hal (getCurrentSlot hal) = true →
        isSlotMarkedSuccessful hal ((markBootSuccessful hal).final s) (getCurrentSlot hal) = 1) ∧
      ∀ which, which ≠ getCurrentSlot hal →
        isSlotMarkedSuccessful hal ((markBootSuccessful hal).final s) which = isSlotMarkedSuccessful hal s which) ∧
    ∀ slot, (setSlotAsUnbootable hal slot).result s = 0 →
      SlotMarked hal .unbootable slot s ((setSlotAsUnbootable hal slot).final s) ∧
      (hal.hasSlots "boot" = true → isSlotBootable hal ((setSlotAsUnbootable hal slot).final s) slot = 0) ∧
      ∀ which, which ≠ slot →
        isSlotBootable hal ((setSlotAsUnbootable hal slot).final s) which = isSlotBootable hal s which := by
  constructor
  · intro accepted
    obtain ⟨updated, final⟩ := markBootSuccessful_eq accepted
    obtain ⟨marked, reads, others⟩ := updated_slot (by decide) layout updated
    rw [final]
    refine ⟨marked, fun both sane => ?_, fun which apart => ?_⟩
    · rw [isSlotMarkedSuccessful, sane, reads both]
      rfl
    · rw [isSlotMarkedSuccessful, isSlotMarkedSuccessful, others which apart]
  · intro slot accepted
    obtain ⟨sane, updated, final⟩ := setSlotAsUnbootable_eq accepted
    obtain ⟨marked, reads, others⟩ := updated_slot (by decide) layout updated
    rw [final]
    refine ⟨marked, fun both => ?_, fun which apart => ?_⟩
    · rw [isSlotBootable, sane, reads both]
      rfl
    · rw [isSlotBootable, isSlotBootable, others which apart]

section Examples

theorem slotDevice_format {pairs : Bytes} (ok : Formattable 512 ptnEntrySize pairs)
    (whole : ptnEntrySize ∣ pairs.length) :
    SlotDevice (format 512 ptnEntrySize pairs) := by
  refine ⟨abLayout_format ok whole, ?_, usable_format ok⟩
  rw [primaryHeader_format, secondaryHeader_format, size_formatHeader (by decide), size_formatHeader (by decide)]

theorem entryIn_format {pairs : Bytes} (ok : Formattable 512 ptnEntrySize pairs) (gpt : GptInstance) (j : ℕ) :
    entryIn (format 512 ptnEntrySize pairs) gpt j = read pairs (ptnEntrySize * j) ptnEntrySize := by
  rw [entryIn, entrySizeOf_format, array_format ok]

theorem inTable_format {pairs : Bytes} (ok : Formattable 512 ptnEntrySize pairs) {count : ℕ}
    (length : pairs.length = ptnEntrySize * count) {gpt : GptInstance} {j : ℕ} :
    InTable (format 512 ptnEntrySize pairs) gpt j ↔ j < count := by
  rw [InTable, entrySizeOf_format, array_format ok, length]
  exact ⟨fun inside => Nat.le_of_mul_le_mul_left inside (by decide), fun below => Nat.mul_le_mul_left _ below⟩

/-- The names of a formatted device, checked entry by entry. -/
theorem namesApart_format {pairs : Bytes} (ok : Formattable 512 ptnEntrySize pairs) {count : ℕ}
    (length : pairs.length = ptnEntrySize * count)
    (distinct : ∀ i < count, ∀ j < count, nameOf (read pairs (ptnEntrySize * i) ptnEntrySize) ≠ [] →
      nameOf (read pairs (ptnEntrySize * i) ptnEntrySize) = nameOf (read pairs (ptnEntrySize * j) ptnEntrySize) → i = j)
    (short : ∀ j < count, (nameOf (read pairs (ptnEntrySize * j) ptnEntrySize)).length < 7) :
    NamesApart (format 512 ptnEntrySize pairs) := by
  constructor
  · intro gpt i j inside inside' visible same
    rw [inTable_format ok length] at inside inside'
    rw [entryIn_format ok] at visible
    rw [entryIn_format ok, entryIn_format ok] at same
    exact distinct i inside j inside' visible same
  · intro gpt j inside ptn listed which same
    rw [inTable_format ok length] at inside
    rw [entryIn_format ok] at same
    have long : ∀ ptn ∈ abPtnList, 2 ≤ (ascii ptn).length := by decide
    have size := short j inside
    rw [same, ascii_append, List.length_append, List.length_append] at size
    have two' := long ptn listed
    have two : (ascii which.suffix).length = 2 := by cases which <;> decide
    have bak : (ascii "bak").length = 3 := by decide
    omega

theorem slotLayout_bootStore : SlotLayout bootHal bootStore := by
  have length : bootPair.length = ptnEntrySize * 2 := by decide +kernel
  refine ⟨all_bootStore (slotDevice_format formattable_bootPair (by decide +kernel)), all_bootStore ?_, ?_⟩
  · apply namesApart_format formattable_bootPair length
    · decide
    · decide
  · intro path d here gpt j inside ptn listed both which named
    rw [bootStore, Function.update_apply] at here
    split_ifs at here with same
    rw [devPath_emmc rfl, same]

theorem accepted_markBootSuccessful : (markBootSuccessful bootHal).result bootStore = 0 := by
  have wf : bootStore.All BlockDevice.WellFormed := all_bootStore paired_bootDisk.toWellFormed
  have fits := fits_loadDisk paired_bootDisk.toWellFormed "/dev/block/mmcblk0"
  have loaded : gptDiskGetDiskInfo bootHal.toEnv bootStore ("boot" ++ Slot.a.suffix) =
      some (loadDisk "/dev/block/mmcblk0" bootDisk) := by
    rw [gptDiskGetDiskInfo_eq wf, devPath_emmc rfl, Option.bind_some, bootStore_here, Option.map_some]
  have seeks : gptDiskGetPentries (loadDisk "/dev/block/mmcblk0" bootDisk) ("boot" ++ Slot.a.suffix) =
      some fun _ => Slot.a.index * ptnEntrySize := by
    rw [gptDiskGetPentries_eq_some]
    intro gpt
    rw [gptDiskGetPentry_eq paired_bootDisk.toWellFormed fits]
    have found := entryOffset_bootDisk .a gpt
    rw [entryOffset, abLayout_bootDisk.entrySize] at found
    rw [fits.entrySize]
    exact found
  have other : PartAttr.bootSuccessful ≠ .slotActive := by decide
  obtain ⟨-, zero, -⟩ := marks_commit other slotLayout_bootStore.devices
    slotLayout_bootStore.placed (by decide) (by decide) loaded seeks
  have current : getCurrentSlot bootHal = .a := by decide
  have both : bootHal.hasSlots "boot" = true := by decide
  have sane : ¬ (bootHal.gvmqPlatform && !bootHal.miscMessage) = true := by decide
  rw [markBootSuccessful, if_neg sane, Prog.result_bind, Prog.result_pure, updateSlotAttribute,
    updateSlotLoop_filter, hasSlots_bootHal, current, updateSlotLoop, if_pos both, Prog.result_bind,
    Prog.result_get, Prog.final_get, loaded]
  simp only [seeks]
  rw [Prog.result_bind, zero]
  rfl

/-- Slot A of the boot partition is marked. -/
theorem slots_marked_boot : isSlotMarkedSuccessful bootHal ((markBootSuccessful bootHal).final bootStore) .a = 1 := by
  have marked := (slots_marked bootHal bootStore slotLayout_bootStore).1 accepted_markBootSuccessful
  exact marked.2.1 (by decide) (by decide)

/-- A device whose boot partition has slot A only. -/
def soloStore : Store :=
  Function.update (fun _ => none) "/dev/block/mmcblk0" (some (format 512 ptnEntrySize (abEntry "boot_a" 1 0x3F)))

def soloHal : Hal where
  isUfs := false
  byName name := if name = "boot_a" then some "/dev/block/mmcblk0p1" else none
  setBootLun _ _ := true
  gvmqPlatform := false
  miscMessage := true
  bootDevDir := ["boot_a"]
  bootSlotProp := "_a"

theorem formattable_solo : Formattable 512 ptnEntrySize (abEntry "boot_a" 1 0x3F) := by
  have length : (abEntry "boot_a" 1 0x3F).length = 128 := by simp [abEntry, ptnEntrySize]
  exact ⟨by decide, by decide, by decide, by rw [length]; decide, by rw [length]; decide⟩

theorem slotLayout_soloStore : SlotLayout soloHal soloStore := by
  have length : (abEntry "boot_a" 1 0x3F).length = ptnEntrySize * 1 := by decide +kernel
  have all {P : BlockDevice → Prop} (holds : P (format 512 ptnEntrySize (abEntry "boot_a" 1 0x3F))) :
      soloStore.All P := by
    intro path d here
    rw [soloStore, Function.update_apply] at here
    split_ifs at here
    exact Option.some.inj here ▸ holds
  refine ⟨all (slotDevice_format formattable_solo (by decide +kernel)), all ?_, ?_⟩
  · apply namesApart_format formattable_solo length
    · decide
    · decide
  · intro path d here gpt j inside ptn listed both which named
    rw [soloStore, Function.update_apply] at here
    split_ifs at here with same
    rw [devPath_emmc rfl, same]

/-- Where the boot partition has no other slot, its entry is left alone, and the operation answers 0. -/
theorem solo_slot_not_marked : SlotLayout soloHal soloStore ∧ checkSlotSanity soloHal (getCurrentSlot soloHal) = true ∧
    (markBootSuccessful soloHal).result soloStore = 0 ∧
    isSlotMarkedSuccessful soloHal ((markBootSuccessful soloHal).final soloStore) (getCurrentSlot soloHal) = 0 := by
  have current : getCurrentSlot soloHal = .a := by decide
  have sane : ¬ (soloHal.gvmqPlatform && !soloHal.miscMessage) = true := by decide
  have skipped : updateSlotAttribute soloHal .a .bootSuccessful = pure 0 := by
    have none : abPtnList.filter soloHal.hasSlots = [] := by decide
    rw [updateSlotAttribute, updateSlotLoop_filter, none]
    rfl
  have whole : ptnEntrySize ∣ (abEntry "boot_a" 1 0x3F).length := by decide +kernel
  have reads : entryOf soloHal soloStore ("boot" ++ Slot.a.suffix) .primaryGpt =
      some (entryAt (abEntry "boot_a" 1 0x3F) 0) := by
    refine entryOf_eq_some.mpr ⟨"/dev/block/mmcblk0", _, 0, devPath_emmc rfl _, Function.update_self .., ?_, ?_⟩
    · rw [entryOffset_format formattable_solo whole]
      decide +kernel
    · rw [array_format formattable_solo]
  have layouts : soloStore.All AbLayout := fun path d here => (slotLayout_soloStore.devices path d here).toAbLayout
  have final : (markBootSuccessful soloHal).final soloStore = soloStore := by
    rw [markBootSuccessful, if_neg sane, current, skipped]
    rfl
  refine ⟨slotLayout_soloStore, by decide, ?_, ?_⟩
  · rw [markBootSuccessful, if_neg sane, current, skipped]
    rfl
  · rw [final, current, isSlotMarkedSuccessful, getPartitionAttribute_eq layouts, reads, Option.map_some]
    decide

end Examples

end Cypfr.BootControl
