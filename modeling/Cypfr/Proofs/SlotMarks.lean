import Cypfr.Proofs.SlotSwitch

/-! # Marking slots

Setting an attribute turns on one bit of one byte of an entry and leaves every other byte of the table. The
loop of `update_slot_attribute` does so for one partition after the other, on devices that are read and
written anew for each; since no edit touches a name, each search finds what it would have found at first,
and the loop as a whole sets the bit in the entries that are found on the devices before it.
-/

namespace Cypfr.BootControl

open Cypfr.Gpt ByteList Journal

/-- The second array is the first one with an attribute set in the entries at some offsets. -/
structure FlagsSet (attr : PartAttr) (touched : ℕ → Prop) (arr arr' : Bytes) : Prop where
  length : arr'.length = arr.length
  set : ∀ pentry, touched pentry →
    arr'[pentry + abFlagOffset]? = (arr[pentry + abFlagOffset]?).map fun flag => flag ||| attr.mask
  same : ∀ p, (∀ pentry, touched pentry → p ≠ pentry + abFlagOffset) → arr'[p]? = arr[p]?

namespace FlagsSet

variable {attr : PartAttr} {touched touched' : ℕ → Prop} {arr arr' arr'' : Bytes}

theorem refl (none : ∀ pentry, ¬ touched pentry) : FlagsSet attr touched arr arr :=
  ⟨rfl, fun pentry member => absurd member (none pentry), fun _ _ => rfl⟩

theorem congr (flags : FlagsSet attr touched arr arr') (same : ∀ pentry, touched pentry ↔ touched' pentry) :
    FlagsSet attr touched' arr arr' :=
  ⟨flags.length, fun pentry member => flags.set pentry ((same pentry).mpr member),
    fun p away => flags.same p fun pentry member => away pentry ((same pentry).mp member)⟩

theorem edited (flags : FlagsSet attr touched arr arr') : Edited touched arr arr' := by
  refine ⟨flags.length, fun p away => flags.same p fun pentry member => ?_⟩
  rintro rfl
  exact away pentry member (.inr rfl)

/-- A byte is marked at most once. -/
theorem trans (first : FlagsSet attr touched arr arr') (second : FlagsSet attr touched' arr' arr'') :
    FlagsSet attr (fun pentry => touched pentry ∨ touched' pentry) arr arr'' := by
  refine ⟨second.length.trans first.length, fun pentry member => ?_, fun p away => ?_⟩
  · have apart {other : ℕ → Prop} (untouched : ¬ other pentry) (pentry' : ℕ) (member' : other pentry') :
        pentry + abFlagOffset ≠ pentry' + abFlagOffset := by
      intro same
      exact untouched (Nat.add_right_cancel same ▸ member')
    by_cases here : touched' pentry
    · rw [second.set pentry here]
      by_cases before : touched pentry
      · rw [first.set pentry before, Option.map_map]
        congr 1
        funext flag
        rw [Function.comp_apply, UInt8.or_assoc, UInt8.or_self]
      · rw [first.same _ (apart before)]
    · rw [second.same _ (apart here), first.set pentry (member.resolve_right here)]
  · rw [second.same p fun pentry member => away pentry (.inr member),
      first.same p fun pentry member => away pentry (.inl member)]

end FlagsSet

/-- The array with a flag set in the entry at an offset. -/
def flagged (attr : PartAttr) (pentry : ℕ) (arr : Bytes) : Bytes :=
  write arr (pentry + abFlagOffset) [flagAt arr pentry ||| attr.mask]

theorem pentryArr_markAttribute {disk : GptDisk} {attr : PartAttr} (other : attr ≠ .slotActive)
    (pentry : GptInstance → ℕ)
    (gpt : GptInstance) :
    (markAttribute disk attr pentry).pentryArr gpt = flagged attr (pentry gpt) (disk.pentryArr gpt) := by
  cases attr with
  | slotActive => exact absurd rfl other
  | _ => rfl

theorem flagsSet_flagged (attr : PartAttr) (pentry : ℕ) (arr : Bytes) :
    FlagsSet attr (· = pentry) arr (flagged attr pentry arr) := by
  refine ⟨by simp [flagged], ?_, fun p away => ?_⟩
  · intro other here
    rw [here, flagged, write_singleton]
    cases flag : arr[pentry + abFlagOffset]? with
    | none =>
      have short := List.getElem?_eq_none_iff.mp flag
      rw [List.set_eq_of_length_le short, flag, Option.map_none]
    | some value =>
      have inside := (List.getElem?_eq_some_iff.mp flag).1
      rw [List.getElem?_set_self inside, flagAt, List.getD_eq_getElem?_getD, flag]
      rfl
  · have elsewhere := away pentry rfl
    rw [flagged, write_singleton, List.getElem?_set_ne elsewhere.symm]

/-- A device with two usable GPT copies of one size. -/
structure SlotDevice (d : BlockDevice) : Prop extends AbLayout d where
  headerSize : get4 d.primaryHeader headerSizeOffset = get4 d.secondaryHeader headerSizeOffset
  usable : ∀ gpt, Gpt.usable d gpt = true

theorem SlotDevice.paired {d : BlockDevice} (device : SlotDevice d) : Paired d :=
  ⟨device.toAbLayout.toWellFormed, device.headerSize⟩

/-- One slot of some partitions. -/
abbrev slotsOf (ptns : List String) (slot : Slot) (ptn : String) (which : Slot) : Prop := ptn ∈ ptns ∧ which = slot

/-- The device is that before, with an attribute set in one slot of some partitions. -/
structure Marked (attr : PartAttr) (slot : Slot) (ptns : List String) (d d' : BlockDevice) : Prop where
  rewritten : Rewritten d d'
  flags : ∀ gpt : GptInstance,
    FlagsSet attr (Touched (slotsOf ptns slot) d gpt) (d.tables gpt.array) (d'.tables gpt.array)
  usable : ∀ gpt, Gpt.usable d' gpt = true

namespace Marked

variable {attr : PartAttr} {slot : Slot} {ptns more : List String} {d d' d'' : BlockDevice}

theorem retagged (marked : Marked attr slot ptns d d') : Retagged (slotsOf ptns slot) d d' :=
  ⟨marked.rewritten, fun gpt => (marked.flags gpt).edited⟩

theorem device (marked : Marked attr slot ptns d d') (device : SlotDevice d) : SlotDevice d' := by
  have paired := device.paired.rewritten marked.rewritten
  exact ⟨device.toAbLayout.rewritten marked.rewritten, paired.headerSize, marked.usable⟩

theorem untouched (device : SlotDevice d) (none : ∀ gpt pentry, ¬ Touched (slotsOf ptns slot) d gpt pentry) :
    Marked attr slot ptns d d :=
  ⟨.refl device.toAbLayout.toWellFormed, fun gpt => .refl (none gpt), device.usable⟩

theorem trans (device : SlotDevice d) (first : Marked attr slot ptns d d') (second : Marked attr slot more d' d'') :
    Marked attr slot (ptns ++ more) d d'' := by
  refine ⟨first.rewritten.trans second.rewritten, fun gpt => ?_, second.usable⟩
  apply ((first.flags gpt).trans (second.flags gpt)).congr
  intro pentry
  have offsets := first.retagged.entryOffset_eq device.toAbLayout gpt
  simp only [Touched, offsets, slotsOf, List.mem_append]
  constructor
  · rintro (⟨ptn, which, ⟨member, chosen⟩, found⟩ | ⟨ptn, which, ⟨member, chosen⟩, found⟩)
    · exact ⟨ptn, which, ⟨.inl member, chosen⟩, found⟩
    · exact ⟨ptn, which, ⟨.inr member, chosen⟩, found⟩
  · rintro ⟨ptn, which, ⟨member, chosen⟩, found⟩
    rcases member with member | member
    · exact .inl ⟨ptn, which, ⟨member, chosen⟩, found⟩
    · exact .inr ⟨ptn, which, ⟨member, chosen⟩, found⟩

end Marked

/-- The devices are those before, with an attribute set in one slot of some partitions. -/
structure Marks (attr : PartAttr) (slot : Slot) (ptns : List String) (s s' : Store) : Prop where
  device : ∀ path d, s path = some d → ∃ d', s' path = some d' ∧ Marked attr slot ptns d d'
  absent : ∀ path, s path = none → s' path = none

namespace Marks

variable {attr : PartAttr} {slot : Slot} {ptns more : List String} {s s' s'' : Store}

theorem refl (devices : s.All SlotDevice) : Marks attr slot [] s s := by
  refine ⟨fun path d here => ⟨d, here, .untouched (devices path d here) ?_⟩, fun _ gone => gone⟩
  rintro gpt pentry ⟨ptn, which, ⟨member, -⟩, -⟩
  cases member

theorem trans (devices : s.All SlotDevice) (first : Marks attr slot ptns s s') (second : Marks attr slot more s' s'') :
    Marks attr slot (ptns ++ more) s s'' := by
  refine ⟨fun path d here => ?_, fun path gone => second.absent path (first.absent path gone)⟩
  obtain ⟨d', there, marked⟩ := first.device path d here
  obtain ⟨d'', then', marked'⟩ := second.device path d' there
  exact ⟨d'', then', marked.trans (devices path d here) marked'⟩

theorem back (marks : Marks attr slot ptns s s') {path : String} {d' : BlockDevice} (there : s' path = some d') :
    ∃ d, s path = some d ∧ Marked attr slot ptns d d' := by
  cases here : s path with
  | none => exact absurd (there.symm.trans (marks.absent path here)) (by simp)
  | some d =>
    obtain ⟨d₁, there', marked⟩ := marks.device path d here
    obtain rfl : d' = d₁ := Option.some.inj (there.symm.trans there')
    exact ⟨d, rfl, marked⟩

theorem devices (marks : Marks attr slot ptns s s') (devices : s.All SlotDevice) : s'.All SlotDevice := by
  intro path d' there
  obtain ⟨d, here, marked⟩ := marks.back there
  exact marked.device (devices path d here)

end Marks

/-- The A/B entries lie on the devices that the by-name directory leads to. -/
def Placed (hal : Hal) (s : Store) : Prop :=
  ∀ path d, s path = some d → ∀ ptn ∈ abPtnList, hal.hasSlots ptn = true → ∀ (which : Slot) (gpt : GptInstance)
    (pentry : ℕ), entryOffset d gpt (ptn ++ which.suffix) = some pentry → hal.devPath (ptn ++ which.suffix) = some path

theorem Marks.placed {hal : Hal} {attr : PartAttr} {slot : Slot} {ptns : List String} {s s' : Store}
    (marks : Marks attr slot ptns s s') (devices : s.All SlotDevice) (placed : Placed hal s) : Placed hal s' := by
  intro path d' there ptn listed both which gpt pentry found
  obtain ⟨d, here, marked⟩ := marks.back there
  rw [marked.retagged.entryOffset_eq (devices path d here).toAbLayout] at found
  exact placed path d here ptn listed both which gpt pentry found

section Commit

variable {hal : Hal} {s : Store} {slot : Slot} {attr : PartAttr} {ptn : String} {d : BlockDevice}

/-- Marking the entry of one partition on its device. -/
theorem marked_commit (other : attr ≠ .slotActive) (device : SlotDevice d) {path : String} (here : s path = some d)
    {pentry : GptInstance → ℕ} (found : ∀ gpt, entryOffset d gpt (ptn ++ slot.suffix) = some (pentry gpt)) :
    (gptDiskCommit (markAttribute (loadDisk path d) attr pentry)).result s = 0 ∧ ∃ d', Marked attr slot [ptn] d d' ∧
      (gptDiskCommit (markAttribute (loadDisk path d) attr pentry)).final s = Function.update s path (some d') := by
  have wf := device.toAbLayout.toWellFormed
  have fits := fits_loadDisk wf path
  have fits' : Fits (markAttribute (loadDisk path d) attr pentry) d := (fits.edit fun _ => length_write ..).updateCrc
  have sealing : Sealed (markAttribute (loadDisk path d) attr pentry) :=
    sealed_updateCrc device.paired (fits.edit fun _ => length_write ..)
      fun gpt => ((usable_iff wf gpt).mp (device.usable gpt)).sigOk
  obtain ⟨accepted, d', rewritten, tables, final⟩ := run_gptDiskCommit here wf fits'
  refine ⟨accepted, d', ⟨rewritten, fun gpt => ?_, fun gpt => ?_⟩, final⟩
  · rw [(tables gpt).2, pentryArr_markAttribute other, pentryArr_loadDisk]
    apply (flagsSet_flagged attr (pentry gpt) _).congr
    intro offset
    constructor
    · rintro rfl
      exact ⟨ptn, slot, ⟨List.mem_singleton_self ptn, rfl⟩, found gpt⟩
    · rintro ⟨name, which, ⟨member, rfl⟩, there⟩
      obtain rfl := List.mem_singleton.mp member
      exact Option.some.inj (there.symm.trans (found gpt))
  · rw [usable_iff rewritten.wellFormed]
    refine ⟨?_, ?_, ?_⟩
    · rw [(tables gpt).1]; exact sealing.crcOk gpt
    · rw [(tables gpt).1]; exact sealing.sigOk gpt
    · rw [(tables gpt).1, (tables gpt).2]; exact sealing.table gpt

/-- A slot is on its device, with an entry in both tables. -/
def InTables (hal : Hal) (s : Store) (name : String) : Prop :=
  ∃ path d, hal.devPath name = some path ∧ s path = some d ∧
    ∀ gpt : GptInstance, ∃ pentry, entryOffset d gpt name = some pentry

/-- Marking one partition touches no other device, since no other one has its entries. -/
theorem marks_commit (other : attr ≠ .slotActive) (devices : s.All SlotDevice) (placed : Placed hal s)
    (listed : ptn ∈ abPtnList) (both : hal.hasSlots ptn = true) {disk : GptDisk} {pentry : GptInstance → ℕ}
    (loaded : gptDiskGetDiskInfo hal.toEnv s (ptn ++ slot.suffix) = some disk)
    (seeks : gptDiskGetPentries disk (ptn ++ slot.suffix) = some pentry) :
    InTables hal s (ptn ++ slot.suffix) ∧ (gptDiskCommit (markAttribute disk attr pentry)).result s = 0 ∧
      Marks attr slot [ptn] s ((gptDiskCommit (markAttribute disk attr pentry)).final s) := by
  have wf : s.All BlockDevice.WellFormed := fun path d here => (devices path d here).toAbLayout.toWellFormed
  obtain ⟨path, d, resolved, here, rfl⟩ := gptDiskGetDiskInfo_eq_some wf loaded
  have device := devices path d here
  have found (gpt : GptInstance) : entryOffset d gpt (ptn ++ slot.suffix) = some (pentry gpt) := by
    rw [entryOffset, device.toAbLayout.entrySize]
    rw [gptDiskGetPentries_eq_some] at seeks
    exact (gptDiskGetPentry_eq (wf path d here) (fits_loadDisk (wf path d here) path) _ gpt).symm.trans (seeks gpt)
  obtain ⟨accepted, d', marked, final⟩ := marked_commit other device here found
  refine ⟨⟨path, d, resolved, here, fun gpt => ⟨_, found gpt⟩⟩, accepted, ?_⟩
  rw [final]
  constructor
  · intro path₁ d₁ there
    rw [Function.update_apply]
    split_ifs with same
    · obtain rfl : d = d₁ := Option.some.inj (here.symm.trans (same ▸ there))
      exact ⟨d', rfl, marked⟩
    · refine ⟨d₁, there, .untouched (devices path₁ d₁ there) ?_⟩
      rintro gpt offset ⟨name, which, ⟨member, rfl⟩, elsewhere⟩
      obtain rfl := List.mem_singleton.mp member
      have resolved' := placed path₁ d₁ there name listed both which gpt offset elsewhere
      exact same (Option.some.inj (resolved'.symm.trans resolved))
  · intro path₁ gone
    rw [Function.update_of_ne, gone]
    rintro rfl
    exact absurd (here.symm.trans gone) (by simp)

end Commit

section Loop

variable {hal : Hal} {s : Store} {slot : Slot} {attr : PartAttr}

theorem updateSlotLoop_filter (ptns : List String) :
    updateSlotLoop hal slot attr ptns = updateSlotLoop hal slot attr (ptns.filter hal.hasSlots) := by
  induction ptns with
  | nil => rfl
  | cons ptn rest ih =>
    rw [updateSlotLoop]
    split_ifs with both
    · rw [List.filter_cons_of_pos both, updateSlotLoop, if_pos both]
      simp only [ih]
    · rw [List.filter_cons_of_neg both, ih]

theorem Marks.located {ptns : List String} {s' : Store} (marks : Marks attr slot ptns s s')
    (devices : s.All SlotDevice) {name : String} (located : InTables hal s' name) : InTables hal s name := by
  obtain ⟨path, d', resolved, there, found⟩ := located
  obtain ⟨d, here, marked⟩ := marks.back there
  refine ⟨path, d, resolved, here, fun gpt => ?_⟩
  rw [← marked.retagged.entryOffset_eq (devices path d here).toAbLayout]
  exact found gpt

/-- The loop of `update_slot_attribute`: when it succeeds, every partition that has both slots was found, and
marked. -/
theorem marks_updateSlotLoop (other : attr ≠ .slotActive) {ptns : List String} (listed : ptns ⊆ abPtnList)
    (devices : s.All SlotDevice) (placed : Placed hal s) (accepted : (updateSlotLoop hal slot attr ptns).result s = 0) :
    (∀ ptn ∈ ptns.filter hal.hasSlots, InTables hal s (ptn ++ slot.suffix)) ∧
      Marks attr slot (ptns.filter hal.hasSlots) s ((updateSlotLoop hal slot attr ptns).final s) := by
  have failed : ¬ (-1 : ℤ) = 0 := by decide
  induction ptns generalizing s with
  | nil => exact ⟨nofun, .refl devices⟩
  | cons ptn rest ih =>
    have later := (List.cons_subset.mp listed).2
    rw [updateSlotLoop] at accepted ⊢
    split_ifs at accepted ⊢ with both
    · rw [List.filter_cons_of_pos both]
      rw [Prog.result_bind, Prog.result_get, Prog.final_get] at accepted
      rw [Prog.final_bind, Prog.result_get, Prog.final_get]
      cases loaded : gptDiskGetDiskInfo hal.toEnv s (ptn ++ slot.suffix) with
      | none => rw [loaded] at accepted; exact absurd accepted failed
      | some disk =>
        rw [loaded] at accepted
        simp only at accepted ⊢
        cases seeks : gptDiskGetPentries disk (ptn ++ slot.suffix) with
        | none => rw [seeks] at accepted; exact absurd accepted failed
        | some pentry =>
          rw [seeks] at accepted
          simp only at accepted ⊢
          obtain ⟨located, zero, first⟩ :=
            marks_commit other devices placed (listed List.mem_cons_self) both loaded seeks
          rw [Prog.result_bind, zero, if_neg (by decide)] at accepted
          rw [Prog.final_bind, zero, if_neg (by decide)]
          obtain ⟨found, second⟩ := ih later (first.devices devices) (first.placed devices placed) accepted
          refine ⟨fun name member => ?_, first.trans devices second⟩
          rcases List.mem_cons.mp member with rfl | member
          · exact located
          · exact first.located devices (found name member)
    · rw [List.filter_cons_of_neg both]
      exact ih later devices placed accepted

end Loop

end Cypfr.BootControl
