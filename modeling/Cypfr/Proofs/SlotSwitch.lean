import Cypfr.Proofs.SlotEntries

/-! # Slot entries across the devices

The devices before and after edits of the entries of some slots: everything else stays in place, and
the entries of the other slots are read back unchanged.
-/

namespace Cypfr.BootControl

open Cypfr.Gpt ByteList Journal

/-- The type GUID and the flags of an entry. -/
def entryAt (arr : Bytes) (pentry : ℕ) : Bytes × UInt8 := (guidAt arr pentry, flagAt arr pentry)

theorem Edited.entryAt_eq {touched : ℕ → Prop} {arr arr' : Bytes} {n : ℕ} (large : ptnEntrySize ≤ n)
    (aligned : ∀ pentry, touched pentry → n ∣ pentry) (edited : Edited touched arr arr') {pentry : ℕ}
    (entry : n ∣ pentry) (untouched : ¬ touched pentry) : entryAt arr' pentry = entryAt arr pentry := by
  obtain ⟨j, rfl⟩ := entry
  rw [entryAt, entryAt, edited.guidAt_eq large aligned untouched, edited.flagAt_eq large aligned untouched]

/-- The offsets of the entries of some slots of some partitions. -/
def Touched (names : String → Slot → Prop) (d : BlockDevice) (gpt : GptInstance) (pentry : ℕ) : Prop :=
  ∃ ptn which, names ptn which ∧ entryOffset d gpt (ptn ++ which.suffix) = some pentry

/-- Slots of the A/B partitions only. -/
def AbNames (names : String → Slot → Prop) : Prop := ∀ ptn which, names ptn which → ptn ∈ abPtnList

/-- The device is that before, up to edits of the entries of some slots. -/
structure Retagged (names : String → Slot → Prop) (d d' : BlockDevice) : Prop where
  rewritten : Rewritten d d'
  edited : ∀ gpt : GptInstance, Edited (Touched names d gpt) (d.tables gpt.array) (d'.tables gpt.array)

section Device

variable {names more : String → Slot → Prop} {d d' d'' : BlockDevice} {gpt : GptInstance}

theorem AbLayout.aligned (layout : AbLayout d) (pentry : ℕ) (touched : Touched names d gpt pentry) :
    entrySizeOf d ∣ pentry := by
  obtain ⟨ptn, which, -, found⟩ := touched
  exact (layout.entryOffset_eq_some found).1

/-- In an array with edits of other slots, a slot is found where it was, with the entry it had. -/
theorem AbLayout.entryAt_edited (layout : AbLayout d) (ab : AbNames names) {arr : Bytes}
    (edited : Edited (Touched names d gpt) (d.tables gpt.array) arr) {ptn : String} (listed : ptn ∈ abPtnList)
    {which : Slot} (other : ¬ names ptn which) {pentry : ℕ}
    (found : entryOffset d gpt (ptn ++ which.suffix) = some pentry) :
    entryAt arr pentry = entryAt (d.tables gpt.array) pentry := by
  have untouched : ¬ Touched names d gpt pentry := by
    rintro ⟨ptn', which', named, found'⟩
    obtain ⟨rfl, rfl⟩ := layout.entryOffset_separate listed (ab ptn' which' named) found found'
    exact other named
  exact edited.entryAt_eq layout.large layout.aligned (layout.entryOffset_eq_some found).1 untouched

namespace Retagged

theorem refl (layout : AbLayout d) : Retagged names d d := ⟨.refl layout.toWellFormed, fun _ => .refl _ _⟩

theorem mono (retagged : Retagged names d d') (weaken : ∀ ptn which, names ptn which → more ptn which) :
    Retagged more d d' := by
  refine ⟨retagged.rewritten, fun gpt => (retagged.edited gpt).mono ?_⟩
  rintro pentry ⟨ptn, which, named, found⟩
  exact ⟨ptn, which, weaken ptn which named, found⟩

theorem layout (retagged : Retagged names d d') (layout : AbLayout d) : AbLayout d' :=
    layout.rewritten retagged.rewritten

theorem entryOffset_eq (retagged : Retagged names d d') (layout : AbLayout d) (gpt : GptInstance) (name : String) :
    entryOffset d' gpt name = entryOffset d gpt name :=
  layout.entryOffset_edited retagged.rewritten layout.aligned (retagged.edited gpt) name

theorem trans (layout : AbLayout d) (first : Retagged names d d') (second : Retagged names d' d'') :
    Retagged names d d'' := by
  refine ⟨first.rewritten.trans second.rewritten, fun gpt => (first.edited gpt).trans ((second.edited gpt).mono ?_)⟩
  rintro pentry ⟨ptn, which, named, found⟩
  exact ⟨ptn, which, named, (first.entryOffset_eq layout gpt _).symm.trans found⟩

end Retagged

end Device

/-- The devices are those before, up to edits of the entries of some slots. -/
structure Evolves (names : String → Slot → Prop) (s s' : Store) : Prop where
  device : ∀ path d, s path = some d → ∃ d', s' path = some d' ∧ Retagged names d d'
  absent : ∀ path, s path = none → s' path = none

/-- What is read back of a partition: its type GUID and its flags in one of the tables. -/
def entryOf (hal : Hal) (s : Store) (name : String) (gpt : GptInstance) : Option (Bytes × UInt8) := do
  let path ← hal.devPath name
  let d ← s path
  let pentry ← entryOffset d gpt name
  pure (entryAt (d.tables gpt.array) pentry)

theorem entryOf_eq_some {hal : Hal} {s : Store} {name : String} {gpt : GptInstance} {entry : Bytes × UInt8} :
    entryOf hal s name gpt = some entry ↔ ∃ path d pentry, hal.devPath name = some path ∧ s path = some d ∧
      entryOffset d gpt name = some pentry ∧ entryAt (d.tables gpt.array) pentry = entry := by
  simp only [entryOf, Option.bind_eq_bind, Option.pure_def, Option.bind_eq_some_iff, Option.some.injEq]
  constructor
  · rintro ⟨path, resolved, d, here, pentry, found, same⟩
    exact ⟨path, d, pentry, resolved, here, found, same⟩
  · rintro ⟨path, d, pentry, resolved, here, found, same⟩
    exact ⟨path, resolved, d, here, pentry, found, same⟩

namespace Evolves

variable {names more : String → Slot → Prop} {s s' s'' : Store}

theorem refl (layouts : s.All AbLayout) : Evolves names s s :=
  ⟨fun path d here => ⟨d, here, .refl (layouts path d here)⟩, fun _ gone => gone⟩

theorem mono (evolves : Evolves names s s') (weaken : ∀ ptn which, names ptn which → more ptn which) :
    Evolves more s s' := by
  refine ⟨fun path d here => ?_, evolves.absent⟩
  obtain ⟨d', there, retagged⟩ := evolves.device path d here
  exact ⟨d', there, retagged.mono weaken⟩

theorem trans (layouts : s.All AbLayout) (first : Evolves names s s') (second : Evolves names s' s'') :
    Evolves names s s'' := by
  refine ⟨fun path d here => ?_, fun path gone => second.absent path (first.absent path gone)⟩
  obtain ⟨d', there, retagged⟩ := first.device path d here
  obtain ⟨d'', then', retagged'⟩ := second.device path d' there
  exact ⟨d'', then', retagged.trans (layouts path d here) retagged'⟩

/-- One device is written. -/
theorem update (layouts : s.All AbLayout) {path : String} {d d' : BlockDevice} (here : s path = some d)
    (retagged : Retagged names d d') : Evolves names s (Function.update s path (some d')) := by
  constructor
  · intro other d₁ there
    rw [Function.update_apply]
    split_ifs with same
    · obtain rfl : d = d₁ := Option.some.inj (here.symm.trans (same ▸ there))
      exact ⟨d', rfl, retagged⟩
    · exact ⟨d₁, there, .refl (layouts other d₁ there)⟩
  · intro other gone
    rw [Function.update_of_ne, gone]
    rintro rfl
    exact absurd (here.symm.trans gone) (by simp)

theorem back (evolves : Evolves names s s') {path : String} {d' : BlockDevice} (there : s' path = some d') :
    ∃ d, s path = some d ∧ Retagged names d d' := by
  cases here : s path with
  | none => exact absurd (there.symm.trans (evolves.absent path here)) (by simp)
  | some d =>
    obtain ⟨d₁, there', retagged⟩ := evolves.device path d here
    obtain rfl : d' = d₁ := Option.some.inj (there.symm.trans there')
    exact ⟨d, rfl, retagged⟩

theorem layouts (evolves : Evolves names s s') (layouts : s.All AbLayout) : s'.All AbLayout := by
  intro path d' there
  obtain ⟨d, here, retagged⟩ := evolves.back there
  exact retagged.layout (layouts path d here)

/-- The other slots are read back unchanged. -/
theorem entryOf_eq (evolves : Evolves names s s') (layouts : s.All AbLayout) (ab : AbNames names) {hal : Hal}
    {ptn : String} (listed : ptn ∈ abPtnList) {which : Slot} (other : ¬ names ptn which) (gpt : GptInstance) :
    entryOf hal s' (ptn ++ which.suffix) gpt = entryOf hal s (ptn ++ which.suffix) gpt := by
  simp only [entryOf, Option.bind_eq_bind, Option.pure_def]
  cases hal.devPath (ptn ++ which.suffix) with
  | none => rfl
  | some path =>
    simp only [Option.bind_some]
    cases here : s path with
    | none => rw [evolves.absent path here]
    | some d =>
      obtain ⟨d', there, retagged⟩ := evolves.device path d here
      have layout := layouts path d here
      rw [there]
      simp only [Option.bind_some]
      rw [retagged.entryOffset_eq layout]
      cases found : entryOffset d gpt (ptn ++ which.suffix) with
      | none => rfl
      | some pentry =>
        simp only [Option.bind_some]
        rw [layout.entryAt_edited ab (retagged.edited gpt) listed other found]

end Evolves

section Attributes

variable {hal : Hal} {s : Store}

/-- The flags of an entry have an attribute. -/
def HasAttr (attr : PartAttr) (entry : Bytes × UInt8) : Prop := entry.2 &&& attr.mask ≠ 0

instance (attr : PartAttr) (entry : Bytes × UInt8) : Decidable (HasAttr attr entry) :=
  inferInstanceAs (Decidable (entry.2 &&& attr.mask ≠ 0))

theorem getPartitionAttribute_eq (layouts : s.All AbLayout) (name : String) (attr : PartAttr) :
    getPartitionAttribute hal s name attr = (entryOf hal s name .primaryGpt).map fun entry =>
    decide (HasAttr attr entry) := by
  have wf : s.All BlockDevice.WellFormed := fun path d here => (layouts path d here).toWellFormed
  simp only [getPartitionAttribute, gptDiskGetDiskInfo_eq wf, entryOf, Option.bind_eq_bind, Option.pure_def]
  cases hal.devPath name with
  | none => rfl
  | some path =>
    simp only [Option.bind_some]
    cases here : s path with
    | none => rfl
    | some d =>
      simp only [Option.map_some, Option.bind_some]
      rw [gptDiskGetPentry_eq (wf path d here) (fits_loadDisk (wf path d here) path)]
      change ((entryOffset d .primaryGpt name).bind _) = _
      cases entryOffset d .primaryGpt name with
      | none => rfl
      | some pentry => rfl

/-- Both slots of a partition have an entry in the primary table, and one of the two is active. -/
def OneActive (hal : Hal) (s : Store) (ptn : String) : Prop :=
  ∃ current : Slot, ∀ which : Slot, ∃ entry, entryOf hal s (ptn ++ which.suffix) .primaryGpt = some entry ∧
    (HasAttr .slotActive entry ↔ which = current)

theorem activeSlot_eq (layouts : s.All AbLayout) {ptn : String} {current : Slot}
    (active : ∀ which : Slot, ∃ entry, entryOf hal s (ptn ++ which.suffix) .primaryGpt = some entry ∧
      (HasAttr .slotActive entry ↔ which = current)) : activeSlot hal s ptn = some current := by
  obtain ⟨entryA, readA, activeA⟩ := active .a
  obtain ⟨entryB, readB, activeB⟩ := active .b
  simp only [activeSlot, getPartitionAttribute_eq layouts, readA, readB, Option.map_some, Option.some.injEq,
    decide_eq_true_eq, activeA, activeB]
  cases current <;> simp

/-- The type GUID is that of the active entry for the chosen slot, and that of the inactive one for the
other slot. -/
def Former (hal : Hal) (s : Store) (slot : Slot) (ptn : String) (which : Slot) (guid : Bytes) : Prop :=
  ∃ (source : Slot) (former : Bytes × UInt8), entryOf hal s (ptn ++ source.suffix) .primaryGpt = some former ∧
    (HasAttr .slotActive former ↔ which = slot) ∧ guid = former.1

/-- What `set_active_boot_slot` should leave of a slot: only the chosen slot is active, and it is bootable
and not yet successful. -/
structure Wanted (hal : Hal) (s : Store) (slot : Slot) (ptn : String) (which : Slot) (entry : Bytes × UInt8) :
    Prop where
  guid : Former hal s slot ptn which entry.1
  active : HasAttr .slotActive entry ↔ which = slot
  clear : which = slot → ¬ HasAttr .unbootable entry ∧ ¬ HasAttr .bootSuccessful entry

theorem wanted_updateSlot {slot : Slot} {ptn : String} {which : Slot} {guid : Bytes} (flag : UInt8)
    (former : Former hal s slot ptn which guid) :
    Wanted hal s slot ptn which
      (guid, if slot = which then abSlotActiveVal else flag &&& ~~~PartAttr.slotActive.mask) := by
  refine ⟨former, ?_, ?_⟩
  · split_ifs with chosen
    · subst chosen
      simp only [HasAttr, iff_true]
      decide
    · have cleared : flag &&& ~~~PartAttr.slotActive.mask &&& PartAttr.slotActive.mask = 0 := by
        rw [UInt8.and_assoc]
        exact (congrArg (flag &&& ·) (by decide)).trans UInt8.and_zero
      simp only [HasAttr, cleared, ne_eq, not_true_eq_false, false_iff]
      exact fun same => chosen same.symm
  · rintro rfl
    simp only [HasAttr, if_true]
    decide

/-- The GUIDs are exchanged unless the current slot is chosen again. -/
theorem former_guidFor (slot which : Slot) {current : Slot} {ptn : String} {entry : Slot → Bytes × UInt8}
    (reads : ∀ which : Slot, entryOf hal s (ptn ++ which.suffix) .primaryGpt = some (entry which))
    (active : ∀ which : Slot, HasAttr .slotActive (entry which) ↔ which = current) :
    Former hal s slot ptn which (guidFor current slot which (entry .a).1 (entry .b).1) := by
  cases current <;> cases slot <;> cases which
  all_goals first
    | exact ⟨.a, entry .a, reads .a, by simp [active], rfl⟩
    | exact ⟨.b, entry .b, reads .b, by simp [active], rfl⟩

end Attributes

/-- A disk in memory with some partitions switched in one of their slots. -/
structure Image (hal : Hal) (s : Store) (slot which : Slot) (ptns : List String) (image : GptDisk) (d : BlockDevice) :
    Prop where
  here : s image.devpath = some d
  fits : Fits image d
  edited : ∀ gpt : GptInstance,
    Edited (Touched (fun ptn other => ptn ∈ ptns ∧ other = which) d gpt) (d.tables gpt.array) (image.pentryArr gpt)
  placed : ∀ ptn ∈ ptns, hal.devPath (ptn ++ which.suffix) = some image.devpath
  switched : ∀ ptn ∈ ptns, ∀ gpt : GptInstance, ∃ pentry, entryOffset d gpt (ptn ++ which.suffix) = some pentry ∧
    Wanted hal s slot ptn which (entryAt (image.pentryArr gpt) pentry)

namespace Image

variable {hal : Hal} {s : Store} {slot which : Slot} {ptns : List String} {image : GptDisk} {d : BlockDevice}
  {ptn : String} {pentry : GptInstance → ℕ}

theorem loaded {path : String} (layout : AbLayout d) (here : s path = some d) :
    Image hal s slot which [] (loadDisk path d) d where
  here := here
  fits := fits_loadDisk layout.toWellFormed path
  edited _ := .refl _ _
  placed := nofun
  switched := nofun

/-- A search in memory finds what a search on the device finds. -/
theorem gptDiskGetPentry_eq (held : Image hal s slot which ptns image d) (layout : AbLayout d) (name : String)
    (gpt : GptInstance) : gptDiskGetPentry image name gpt = entryOffset d gpt name := by
  rw [Gpt.gptDiskGetPentry_eq layout.toWellFormed held.fits, held.fits.entrySize, (held.edited gpt).length,
    entryOffset, layout.entrySize, ← Nat.mul_zero (entrySizeOf d)]
  exact (held.edited gpt).gptPentrySeek_eq layout.large layout.aligned _ _ 0

theorem entryOffset_eq (held : Image hal s slot which ptns image d) (layout : AbLayout d)
    (found : gptDiskGetPentries image (ptn ++ which.suffix) = some pentry) (gpt : GptInstance) :
    entryOffset d gpt (ptn ++ which.suffix) = some (pentry gpt) :=
  (held.gptDiskGetPentry_eq layout _ gpt).symm.trans (gptDiskGetPentries_eq_some.mp found gpt)

/-- The entries of a partition that is not switched yet are those of the device. -/
theorem entryOf_eq (held : Image hal s slot which ptns image d) (layout : AbLayout d) (ab : ptns ⊆ abPtnList)
    (listed : ptn ∈ abPtnList) (fresh : ptn ∉ ptns) (resolved : hal.devPath (ptn ++ which.suffix) = some image.devpath)
    (found : gptDiskGetPentries image (ptn ++ which.suffix) = some pentry) (gpt : GptInstance) :
    entryOf hal s (ptn ++ which.suffix) gpt = some (entryAt (image.pentryArr gpt) (pentry gpt)) := by
  have offset := held.entryOffset_eq layout found gpt
  refine entryOf_eq_some.mpr ⟨image.devpath, d, pentry gpt, resolved, held.here, offset, ?_⟩
  exact (layout.entryAt_edited (fun _ _ named => ab named.1) (held.edited gpt) listed (fun named => fresh named.1)
    offset).symm

/-- `UPDATE_SLOT` on one more partition. -/
theorem update (held : Image hal s slot which ptns image d) (layout : AbLayout d) (ab : ptns ⊆ abPtnList)
    (listed : ptn ∈ abPtnList) (fresh : ptn ∉ ptns) (resolved : hal.devPath (ptn ++ which.suffix) = some image.devpath)
    (found : gptDiskGetPentries image (ptn ++ which.suffix) = some pentry) {guid : Bytes}
    (size : guid.length = typeGuidSize) (former : Former hal s slot ptn which guid) :
    Image hal s slot which (ptns ++ [ptn]) (gptDiskUpdateCrc (updateSlot image pentry guid (slot = which))) d := by
  have offset := held.entryOffset_eq layout found
  refine ⟨held.here, (fits_updateSlot held.fits ..).updateCrc, fun gpt => ?_, ?_, ?_⟩
  · rw [pentryArr_updateSlot]
    refine ((held.edited gpt).mono ?_).trans ((edited_slotWrite size _).mono ?_)
    · rintro p ⟨ptn', which', ⟨member, rfl⟩, found'⟩
      exact ⟨ptn', which', ⟨List.mem_append_left _ member, rfl⟩, found'⟩
    · rintro p rfl
      exact ⟨ptn, which, ⟨List.mem_concat_self, rfl⟩, offset gpt⟩
  · intro ptn' member
    rcases List.mem_append.mp member with earlier | last
    · exact held.placed ptn' earlier
    · obtain rfl := List.mem_singleton.mp last
      exact resolved
  · intro ptn' member gpt
    rw [pentryArr_updateSlot]
    rcases List.mem_append.mp member with earlier | last
    · obtain ⟨p, found', wanted⟩ := held.switched ptn' earlier gpt
      have other : ¬ p = pentry gpt := by
        rintro rfl
        obtain ⟨rfl, -⟩ := layout.entryOffset_separate (ab earlier) listed found' (offset gpt)
        exact fresh earlier
      have aligned (q : ℕ) (same : q = pentry gpt) : entrySizeOf d ∣ q :=
        same ▸ (layout.entryOffset_eq_some (offset gpt)).1
      refine ⟨p, found', ?_⟩
      rwa [(edited_slotWrite size _).entryAt_eq layout.large aligned (layout.entryOffset_eq_some found').1 other]
    · obtain rfl := List.mem_singleton.mp last
      refine ⟨pentry gpt, offset gpt, ?_⟩
      have inside : pentry gpt + entrySizeOf d ≤ (image.pentryArr gpt).length := by
        rw [held.fits.array gpt]
        exact (layout.entryOffset_eq_some (offset gpt)).2.1
      have large := layout.large
      have room : pentry gpt + ptnEntrySize ≤ (image.pentryArr gpt).length := by omega
      rw [ptnEntrySize] at room
      rw [entryAt, guidAt_slotWrite size _ (by rw [typeGuidSize]; omega),
        flagAt_slotWrite size _ (by rw [abFlagOffset]; omega)]
      simpa only [decide_eq_true_eq] using wanted_updateSlot _ former

end Image

/-- The handled partitions whose two slots exist. -/
def linkedPtns (hal : Hal) : List String := (handledPtns hal).filter hal.hasSlots

theorem mem_linkedPtns {hal : Hal} {ptn : String} :
    ptn ∈ linkedPtns hal ↔ ptn ∈ handledPtns hal ∧ hal.hasSlots ptn = true := List.mem_filter

theorem linkedPtns_subset (hal : Hal) : linkedPtns hal ⊆ abPtnList :=
  fun _ member => (List.mem_filter.mp (mem_linkedPtns.mp member).1).1

/-- Devices whose A/B entries are those the by-name directory leads to, with one active slot in each of
some partitions. -/
structure Layout (hal : Hal) (ptns : List String) (s : Store) : Prop where
  devices : s.All AbLayout
  placed : ∀ path d, s path = some d → ∀ ptn ∈ linkedPtns hal, ∀ (which : Slot) (gpt : GptInstance) (pentry : ℕ),
    entryOffset d gpt (ptn ++ which.suffix) = some pentry → hal.devPath (ptn ++ which.suffix) = some path
  oneActive : ∀ ptn ∈ ptns, OneActive hal s ptn

/-- What the loop over the partitions of a group holds in memory: no disk up to the first pair, then an
image of the device of each slot. -/
def Tracks (hal : Hal) (s : Store) (slot : Slot) (ptns : List String) (disks : Option GptDisk × Option GptDisk) : Prop :=
  ptns = [] ∧ disks = (none, none) ∨ ∃ imageA imageB dA dB, disks = (some imageA, some imageB) ∧
    Image hal s slot .a ptns imageA dA ∧ Image hal s slot .b ptns imageB dB

section Round

variable {hal : Hal} {s : Store} {slot : Slot} {ptns : List String} {disks disks' : Option GptDisk × Option GptDisk}

theorem length_guid (layouts : s.All AbLayout) {name : String} {gpt : GptInstance} {entry : Bytes × UInt8}
    (reads : entryOf hal s name gpt = some entry) : entry.1.length = typeGuidSize := by
  obtain ⟨path, d, pentry, -, here, found, rfl⟩ := entryOf_eq_some.mp reads
  have layout := layouts path d here
  have inside := (layout.entryOffset_eq_some found).2.1
  have large := layout.large
  refine length_read_of_le ?_
  simp only [ptnEntrySize, typeGuidSize] at large ⊢
  omega

theorem image_loaded (layouts : s.All AbLayout) {which : Slot} {name : String} {image : GptDisk}
    (taken : gptDiskGetDiskInfo hal.toEnv s name = some image) : ∃ d, Image hal s slot which [] image d := by
  have wf : s.All BlockDevice.WellFormed := fun path d here => (layouts path d here).toWellFormed
  obtain ⟨path, d, -, here, rfl⟩ := gptDiskGetDiskInfo_eq_some wf taken
  exact ⟨d, .loaded (layouts path d here) here⟩

/-- The disks of a round are images, taken over from the round before or read now. -/
theorem Tracks.images (tracks : Tracks hal s slot ptns disks) (layouts : s.All AbLayout) {nameA nameB : String}
    {imageA imageB : GptDisk} (takenA : disks.1.or (gptDiskGetDiskInfo hal.toEnv s nameA) = some imageA)
    (takenB : disks.2.or (gptDiskGetDiskInfo hal.toEnv s nameB) = some imageB) :
    ∃ dA dB, Image hal s slot .a ptns imageA dA ∧ Image hal s slot .b ptns imageB dB := by
  rcases tracks with ⟨rfl, rfl⟩ | ⟨imageA', imageB', dA, dB, rfl, heldA, heldB⟩
  · obtain ⟨dA, heldA⟩ := image_loaded layouts takenA
    obtain ⟨dB, heldB⟩ := image_loaded layouts takenB
    exact ⟨dA, dB, heldA, heldB⟩
  · obtain rfl := Option.some.inj takenA
    obtain rfl := Option.some.inj takenB
    exact ⟨dA, dB, heldA, heldB⟩

theorem images_switchPair {ptn : String} (layout : Layout hal [ptn] s) (ab : ptns ⊆ abPtnList)
    (linked : ptn ∈ linkedPtns hal) (fresh : ptn ∉ ptns) {imageA imageB imageA' imageB' : GptDisk} {dA dB : BlockDevice}
    (heldA : Image hal s slot .a ptns imageA dA) (heldB : Image hal s slot .b ptns imageB dB)
    (pair : switchPair hal s slot ptn imageA imageB = some (imageA', imageB')) :
    Image hal s slot .a (ptns ++ [ptn]) imageA' dA ∧ Image hal s slot .b (ptns ++ [ptn]) imageB' dB := by
  obtain ⟨pentryA, pentryB, chosen, foundA, foundB, active, rfl, rfl⟩ := switchPair_eq_some pair
  have listed := linkedPtns_subset hal linked
  have layoutA := layout.devices _ dA heldA.here
  have layoutB := layout.devices _ dB heldB.here
  have resolvedA := layout.placed _ dA heldA.here ptn linked .a .primaryGpt _ (heldA.entryOffset_eq layoutA foundA _)
  have resolvedB := layout.placed _ dB heldB.here ptn linked .b .primaryGpt _ (heldB.entryOffset_eq layoutB foundB _)
  have readA := heldA.entryOf_eq layoutA ab listed fresh resolvedA foundA .primaryGpt
  have readB := heldB.entryOf_eq layoutB ab listed fresh resolvedB foundB .primaryGpt
  obtain ⟨current, one⟩ := layout.oneActive ptn (List.mem_singleton_self ptn)
  obtain rfl : current = chosen := Option.some.inj ((activeSlot_eq layout.devices one).symm.trans active)
  have former (which : Slot) : Former hal s slot ptn which
      (guidFor current slot which (guidAt (imageA.pentryArr .primaryGpt) (pentryA .primaryGpt))
        (guidAt (imageB.pentryArr .primaryGpt) (pentryB .primaryGpt))) := by
    choose entry reads states using one
    have entryA : entry .a = _ := Option.some.inj ((reads .a).symm.trans readA)
    have entryB : entry .b = _ := Option.some.inj ((reads .b).symm.trans readB)
    have moved := former_guidFor slot which reads states
    rwa [entryA, entryB] at moved
  have size (which : Slot) : (guidFor current slot which (guidAt (imageA.pentryArr .primaryGpt) (pentryA .primaryGpt))
      (guidAt (imageB.pentryArr .primaryGpt) (pentryB .primaryGpt))).length = typeGuidSize := by
    obtain ⟨source, entry, reads, -, same⟩ := former which
    rw [same]
    exact length_guid layout.devices reads
  exact ⟨heldA.update layoutA ab listed fresh resolvedA foundA (size .a) (former .a),
    heldB.update layoutB ab listed fresh resolvedB foundB (size .b) (former .b)⟩

/-- The partitions of a list of slot names that have both slots. -/
def pairsOf (hal : Hal) (names : List String) : List String := (names.map chopSuffix).filter hal.hasSlots

/-- The slot names of a group: none is listed twice, and those with both slots are handled and have one
active slot. -/
structure Group (hal : Hal) (s : Store) (names : List String) : Prop where
  layout : Layout hal (pairsOf hal names) s
  linked : pairsOf hal names ⊆ linkedPtns hal
  nodup : (names.map chopSuffix).Nodup

theorem pairsOf_append (names names' : List String) :
    pairsOf hal (names ++ names') = pairsOf hal names ++ pairsOf hal names' := by
  rw [pairsOf, List.map_append, List.filter_append, pairsOf, pairsOf]

theorem mem_pairsOf_reached {names done : List String} {partition : String} (reached : done ++ [partition] <+: names)
    (both : hal.hasSlots (chopSuffix partition) = true) : chopSuffix partition ∈ pairsOf hal names := by
  have member : partition ∈ names := reached.subset List.mem_concat_self
  exact List.mem_filter.mpr ⟨List.mem_map_of_mem member, both⟩

section Step

variable {names done : List String} {partition : String} (group : Group hal s names)
  (reached : done ++ [partition] <+: names)
include group reached

/-- A round of the loop that succeeds. -/
theorem tracks_switchRound (tracks : Tracks hal s slot (pairsOf hal done) disks)
    (round : switchRound hal s slot disks partition = some disks') :
    Tracks hal s slot (pairsOf hal (done ++ [partition])) disks' := by
  rw [pairsOf_append]
  rcases switchRound_eq_some round with ⟨single, rfl⟩ | ⟨both, imageA, imageB, imageA', imageB', takenA, takenB, pair,
    rfl⟩
  · have none : pairsOf hal [partition] = [] := List.filter_cons_of_neg (by simp [single])
    rwa [none, List.append_nil]
  · have one : pairsOf hal [partition] = [chopSuffix partition] := List.filter_cons_of_pos both
    have member := mem_pairsOf_reached reached both
    have fresh : chopSuffix partition ∉ pairsOf hal done := by
      intro again
      have nodup := (reached.map chopSuffix).sublist.nodup group.nodup
      rw [List.map_append] at nodup
      exact (List.nodup_append.mp nodup).2.2 _ (List.mem_of_mem_filter again) _ (List.mem_singleton_self _) rfl
    have layout : Layout hal [chopSuffix partition] s :=
      ⟨group.layout.devices, group.layout.placed, fun ptn same =>
        group.layout.oneActive ptn (List.mem_singleton.mp same ▸ member)⟩
    have before : pairsOf hal done ⊆ pairsOf hal names :=
      ((((List.prefix_append done [partition]).trans reached).map chopSuffix).filter hal.hasSlots).subset
    have ab : pairsOf hal done ⊆ abPtnList :=
      fun ptn earlier => linkedPtns_subset hal (group.linked (before earlier))
    obtain ⟨dA, dB, heldA, heldB⟩ := tracks.images group.layout.devices takenA takenB
    obtain ⟨switchedA, switchedB⟩ := images_switchPair layout ab (group.linked member) fresh heldA heldB pair
    rw [one]
    exact .inr ⟨imageA', imageB', dA, dB, rfl, switchedA, switchedB⟩

end Step

/-- The loop of `boot_ctl_set_active_slot_for_partitions`. -/
theorem tracks_partitions {names : List String} (group : Group hal s names)
    (run : names.foldlM (switchRound hal s slot) (none, none) = some disks) :
    Tracks hal s slot (pairsOf hal names) disks :=
  OptionFold.induction (fun done disks => Tracks hal s slot (pairsOf hal done) disks) run (.inl ⟨rfl, rfl⟩)
    fun _ _ _ _ reached tracks round => tracks_switchRound group reached tracks round

/-- The partitions of a group lie on one device for each slot, and have their entries there. -/
structure Gathered (hal : Hal) (s : Store) (names : List String) (path : Slot → String) : Prop where
  long : ∀ name ∈ names, 3 ≤ name.length
  found : ∀ ptn ∈ pairsOf hal names, ∀ which : Slot, hal.devPath (ptn ++ which.suffix) = some (path which) ∧
    ∃ d, s (path which) = some d ∧ ∀ gpt : GptInstance, ∃ pentry, entryOffset d gpt (ptn ++ which.suffix) = some pentry

/-- The disks in memory are those of the group. -/
def Located (path : Slot → String) (disks : Option GptDisk × Option GptDisk) : Prop :=
  ∀ imageA imageB, disks = (some imageA, some imageB) → imageA.devpath = path .a ∧ imageB.devpath = path .b

theorem exists_pentries {which : Slot} {image : GptDisk} {d : BlockDevice} {ptn : String}
    (held : Image hal s slot which ptns image d) (layout : AbLayout d)
    (found : ∀ gpt : GptInstance, ∃ pentry, entryOffset d gpt (ptn ++ which.suffix) = some pentry) :
    ∃ pentry, gptDiskGetPentries image (ptn ++ which.suffix) = some pentry := by
  choose pentry found using found
  exact ⟨pentry, gptDiskGetPentries_eq_some.mpr fun gpt => (held.gptDiskGetPentry_eq layout _ gpt).trans (found gpt)⟩

theorem exists_taken (layouts : s.All AbLayout) {path : Slot → String} (tracks : Tracks hal s slot ptns disks)
    (located : Located path disks) {ptn : String}
    (found : ∀ which : Slot, hal.devPath (ptn ++ which.suffix) = some (path which) ∧ ∃ d, s (path which) = some d) :
    ∃ imageA imageB, disks.1.or (gptDiskGetDiskInfo hal.toEnv s (ptn ++ Slot.a.suffix)) = some imageA ∧
      disks.2.or (gptDiskGetDiskInfo hal.toEnv s (ptn ++ Slot.b.suffix)) = some imageB ∧
      imageA.devpath = path .a ∧ imageB.devpath = path .b := by
  have wf : s.All BlockDevice.WellFormed := fun path d here => (layouts path d here).toWellFormed
  have loads (which : Slot) : ∃ d, gptDiskGetDiskInfo hal.toEnv s (ptn ++ which.suffix) =
    some (loadDisk (path which) d) := by
    obtain ⟨resolved, d, here⟩ := found which
    exact ⟨d, by rw [gptDiskGetDiskInfo_eq wf, resolved, Option.bind_some, here, Option.map_some]⟩
  rcases tracks with ⟨-, rfl⟩ | ⟨imageA, imageB, -, -, rfl, -, -⟩
  · obtain ⟨dA, loadedA⟩ := loads .a
    obtain ⟨dB, loadedB⟩ := loads .b
    exact ⟨_, _, loadedA, loadedB, rfl, rfl⟩
  · exact ⟨imageA, imageB, rfl, rfl, located imageA imageB rfl⟩

/-- A round on a group that is gathered succeeds. -/
theorem exists_switchRound {names done : List String} {partition : String} {path : Slot → String}
    (group : Group hal s names) (gathered : Gathered hal s names path) (reached : done ++ [partition] <+: names)
    (tracks : Tracks hal s slot ptns disks) (located : Located path disks) :
    ∃ next, switchRound hal s slot disks partition = some next ∧ Located path next := by
  have long := gathered.long partition (reached.subset List.mem_concat_self)
  rw [switchRound, if_neg (by omega)]
  cases both : hal.hasSlots (chopSuffix partition) with
  | false => exact ⟨disks, if_neg (by simp [both]), located⟩
  | true =>
    have member := mem_pairsOf_reached reached both
    have found := gathered.found _ member
    obtain ⟨imageA, imageB, takenA, takenB, atA, atB⟩ := exists_taken group.layout.devices tracks located
      fun which => ⟨(found which).1, (found which).2.imp fun _ => And.left⟩
    obtain ⟨dA, dB, heldA, heldB⟩ := tracks.images group.layout.devices takenA takenB
    obtain ⟨-, d, hereA, entriesA⟩ := found .a
    obtain rfl : d = dA := Option.some.inj (hereA.symm.trans (atA ▸ heldA.here))
    obtain ⟨-, d', hereB, entriesB⟩ := found .b
    obtain rfl : d' = dB := Option.some.inj (hereB.symm.trans (atB ▸ heldB.here))
    obtain ⟨pentryA, foundA⟩ := exists_pentries heldA (group.layout.devices _ d hereA) entriesA
    obtain ⟨pentryB, foundB⟩ := exists_pentries heldB (group.layout.devices _ d' hereB) entriesB
    obtain ⟨current, one⟩ := group.layout.oneActive _ member
    have active := activeSlot_eq group.layout.devices one
    simp only [both, if_true, takenA, takenB, switchPair, foundA, foundB, active, Option.bind_eq_bind, Option.pure_def,
      Option.bind_some]
    refine ⟨_, rfl, ?_⟩
    rintro imageA' imageB' ⟨⟩
    exact ⟨atA, atB⟩

/-- The loop succeeds on a group that is gathered. -/
theorem exists_partitions {names : List String} {path : Slot → String} (group : Group hal s names)
    (gathered : Gathered hal s names path) : ∃ disks, names.foldlM (switchRound hal s slot) (none, none) =
    some disks := by
  refine OptionFold.progress (fun done disks => Tracks hal s slot (pairsOf hal done) disks ∧ Located path disks)
    ⟨.inl ⟨rfl, rfl⟩, nofun⟩ ?_
  rintro done partition disks reached ⟨tracks, located⟩
  obtain ⟨next, round, located'⟩ := exists_switchRound group gathered reached tracks located
  exact ⟨next, round, tracks_switchRound group reached tracks round, located'⟩

end Round

end Cypfr.BootControl
