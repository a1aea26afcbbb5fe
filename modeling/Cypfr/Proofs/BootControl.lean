import Cypfr.Model.BootControl
import Cypfr.Proofs.GptDisk
import Cypfr.Proofs.GptFormat
import Cypfr.ToMathlib.OptionFold

/-! # The edits of the boot control HAL

Every edit of a slot operation keeps the disk in memory writable to its device, and refreshing the CRCs
seals both headers when they have one size. The rounds of the loops are inverted here once: a round that
succeeds found both entries of its partition in both tables.
-/

namespace Cypfr.Gpt

open ByteList

section Edits

variable {disk : GptDisk} {d : BlockDevice}

theorem sameGeometry_sealWith (size : ℕ) (h : Bytes) : SameGeometry (sealWith size h) h := by
  refine ⟨by simp [sealWith], ?_, ?_⟩
  · rw [sealWith, read_put4 (by decide), read_put4 (by decide)]
  · rw [sealWith, read_put4 (by decide), read_put4 (by decide)]

theorem sameGeometry_updateCrc (disk : GptDisk) (gpt : GptInstance) :
    SameGeometry ((gptDiskUpdateCrc disk).hdr gpt) (disk.hdr gpt) :=
  (sameGeometry_sealWith _ _).trans ⟨length_put4 .., read_put4 (by decide), read_put4 (by decide)⟩

theorem Fits.updateCrc (fits : Fits disk d) : Fits (gptDiskUpdateCrc disk) d where
  header gpt := (sameGeometry_updateCrc disk gpt).trans (fits.header gpt)
  array := fits.array
  arrSize := fits.arrSize
  entrySize := fits.entrySize

theorem Fits.edit (fits : Fits disk d) {arr : GptInstance → Bytes}
    (length : ∀ gpt, (arr gpt).length = (disk.pentryArr gpt).length) : Fits { disk with pentryArr := arr } d where
  header := fits.header
  array gpt := (length gpt).trans (fits.array gpt)
  arrSize := fits.arrSize
  entrySize := fits.entrySize

/-- The search in a copy goes through all of its array. -/
theorem gptDiskGetPentry_eq (wf : d.WellFormed) (fits : Fits disk d) (partname : String) (gpt : GptInstance) :
    gptDiskGetPentry disk partname gpt =
      gptPentrySeek (ascii partname) (disk.pentryArr gpt) disk.pentrySize (disk.pentryArr gpt).length 0 := by
  have size : disk.pentryArrSize = (disk.pentryArr gpt).length := by
    rw [fits.arrSize, fits.array gpt]
    cases gpt with
    | primaryGpt => rfl
    | secondaryGpt => exact wf.length_arrays
  rw [gptDiskGetPentry, fits.take_arr wf, size]

/-- A well-formed device whose headers have one size. -/
structure Paired (d : BlockDevice) : Prop extends d.WellFormed where
  headerSize : get4 d.primaryHeader headerSizeOffset = get4 d.secondaryHeader headerSizeOffset

theorem Paired.rewritten {d' : BlockDevice} (paired : Paired d) (rewritten : Rewritten d d') : Paired d' := by
  refine ⟨rewritten.wellFormed, ?_⟩
  have primary : get4 d'.primaryHeader headerSizeOffset = get4 d.primaryHeader headerSizeOffset :=
    (rewritten.geometry .primaryGpt).headerSize
  have secondary : get4 d'.secondaryHeader headerSizeOffset = get4 d.secondaryHeader headerSizeOffset :=
    (rewritten.geometry .secondaryGpt).headerSize
  rw [primary, secondary, paired.headerSize]

/-- With headers of one size, updating the CRCs puts the CRC of its array into each header and seals it. -/
theorem hdr_updateCrc (paired : Paired d) (fits : Fits disk d) (gpt : GptInstance) :
    (gptDiskUpdateCrc disk).hdr gpt = retableHeader (disk.hdr gpt) (disk.pentryArr gpt) := by
  have tabled (gpt : GptInstance) : get4 (put4 (disk.hdr gpt) partitionCrcOffset (Crc32.crc32 (disk.pentryArr gpt)))
      headerSizeOffset = get4 (d.tables gpt.header) headerSizeOffset := by
    rw [get4, read_put4 (by decide)]
    exact (fits.header gpt).headerSize
  have same : get4 (d.tables .primaryHeader) headerSizeOffset = get4 (d.tables gpt.header) headerSizeOffset := by
    cases gpt with
    | primaryGpt => rfl
    | secondaryGpt => exact paired.headerSize
  simp only [gptDiskUpdateCrc, fits.take_arr paired.toWellFormed]
  rw [tabled .primaryGpt, GptInstance.header, same, ← tabled gpt]
  rfl

/-- Both headers in memory are signed and match their contents and their arrays. -/
structure Sealed (disk : GptDisk) : Prop where
  crcOk : ∀ gpt, CrcOk (disk.hdr gpt)
  sigOk : ∀ gpt, SigOk (disk.hdr gpt)
  table : ∀ gpt, get4 (disk.hdr gpt) partitionCrcOffset = Crc32.crc32 (disk.pentryArr gpt)

theorem sealed_updateCrc (paired : Paired d) (fits : Fits disk d) (signed : ∀ gpt, SigOk (disk.hdr gpt)) :
    Sealed (gptDiskUpdateCrc disk) := by
  have long (gpt : GptInstance) : 92 ≤ (disk.hdr gpt).length := by
    rw [(fits.header gpt).length, paired.toWellFormed.length_header]
    exact paired.block
  refine ⟨fun gpt => ?_, fun gpt => ?_, fun gpt => ?_⟩
  · rw [hdr_updateCrc paired fits]; exact crcOk_retable (long gpt) _
  · rw [hdr_updateCrc paired fits]; exact sigOk_retable.mpr (signed gpt)
  · rw [hdr_updateCrc paired fits]; exact partitionCrc_retable (long gpt) _

end Edits

end Cypfr.Gpt

namespace Cypfr.BootControl

open Cypfr.Gpt ByteList Journal

section Rounds

variable {hal : Hal} {s : Store} {slot : Slot} {disk : GptDisk} {d : BlockDevice}

theorem fits_updateSlot (fits : Fits disk d) (pentry : GptInstance → ℕ) (guid : Bytes) (active : Bool) :
    Fits (updateSlot disk pentry guid active) d :=
  fits.edit fun gpt => by simp

theorem gptDiskGetPentries_eq_some {name : String} {pentry : GptInstance → ℕ} :
    gptDiskGetPentries disk name = some pentry ↔ ∀ gpt, gptDiskGetPentry disk name gpt = some (pentry gpt) := by
  simp only [gptDiskGetPentries, Option.bind_eq_bind, Option.pure_def, Option.bind_eq_some_iff, Option.some.injEq]
  constructor
  · rintro ⟨primary, foundPrimary, secondary, foundSecondary, rfl⟩ gpt
    cases gpt with
    | primaryGpt => exact foundPrimary
    | secondaryGpt => exact foundSecondary
  · intro found
    refine ⟨_, found .primaryGpt, _, found .secondaryGpt, ?_⟩
    funext gpt
    cases gpt <;> rfl

/-- The GUID that goes to a slot: that of the current one to the slot chosen. -/
def guidFor (current chosen which : Slot) (guidA guidB : Bytes) : Bytes :=
  if which = chosen then if current = .a then guidA else guidB
  else if current = .a then guidB else guidA

theorem switchPair_eq_some {ptn : String} {diskA diskB diskA' diskB' : GptDisk}
    (run : switchPair hal s slot ptn diskA diskB = some (diskA', diskB')) :
    ∃ pentryA pentryB current,
      gptDiskGetPentries diskA (ptn ++ Slot.a.suffix) = some pentryA ∧
      gptDiskGetPentries diskB (ptn ++ Slot.b.suffix) = some pentryB ∧
      activeSlot hal s ptn = some current ∧
      diskA' = gptDiskUpdateCrc (updateSlot diskA pentryA
        (guidFor current slot .a (guidAt (diskA.pentryArr .primaryGpt) (pentryA .primaryGpt))
          (guidAt (diskB.pentryArr .primaryGpt) (pentryB .primaryGpt))) (slot = .a)) ∧
      diskB' = gptDiskUpdateCrc (updateSlot diskB pentryB
        (guidFor current slot .b (guidAt (diskA.pentryArr .primaryGpt) (pentryA .primaryGpt))
          (guidAt (diskB.pentryArr .primaryGpt) (pentryB .primaryGpt))) (slot = .b)) := by
  simp only [switchPair, Option.bind_eq_bind, Option.pure_def, Option.bind_eq_some_iff, Option.some.injEq,
    Prod.mk.injEq] at run
  obtain ⟨pentryA, foundA, pentryB, foundB, current, active, rfl, rfl⟩ := run
  refine ⟨pentryA, pentryB, current, foundA, foundB, active, ?_, ?_⟩
  · simp only [guidFor, eq_comm]
  · simp only [guidFor, eq_comm]

theorem switchRound_eq_some {disks disks' : Option GptDisk × Option GptDisk} {partition : String}
    (run : switchRound hal s slot disks partition = some disks') :
    hal.hasSlots (chopSuffix partition) = false ∧ disks' = disks ∨
      hal.hasSlots (chopSuffix partition) = true ∧ ∃ diskA diskB diskA' diskB',
        disks.1.or (gptDiskGetDiskInfo hal.toEnv s (chopSuffix partition ++ Slot.a.suffix)) = some diskA ∧
        disks.2.or (gptDiskGetDiskInfo hal.toEnv s (chopSuffix partition ++ Slot.b.suffix)) = some diskB ∧
        switchPair hal s slot (chopSuffix partition) diskA diskB = some (diskA', diskB') ∧
        disks' = (some diskA', some diskB') := by
  simp only [switchRound] at run
  split_ifs at run with short both
  · simp only [Option.bind_eq_bind, Option.pure_def, Option.bind_eq_some_iff, Option.some.injEq] at run
    obtain ⟨diskA, loadedA, diskB, loadedB, ⟨diskA', diskB'⟩, switched, rfl⟩ := run
    exact .inr ⟨both, diskA, diskB, diskA', diskB', loadedA, loadedB, switched, rfl⟩
  · exact .inl ⟨by simpa using both, (Option.some.inj run).symm⟩

end Rounds

section PartitionMap

theorem chopSuffix_append (ptn : String) (slot : Slot) : chopSuffix (ptn ++ slot.suffix) = ptn := by
  have two : slot.suffix.length = 2 := by cases slot <;> decide
  rw [chopSuffix, String.length_append, two, Nat.add_sub_cancel, String.toList_append,
    List.take_left' (String.length_toList), String.ofList_toList]

theorem perm_pushPartition (path name : String) (map : List (String × List String)) :
    ((pushPartition path name map).flatMap Prod.snd).Perm (name :: map.flatMap Prod.snd) := by
  fun_induction pushPartition with
  | case1 => simp
  | case2 names rest =>
    rw [List.flatMap_cons, List.flatMap_cons, List.append_assoc]
    exact List.perm_middle
  | case3 key names rest other before => exact List.Perm.refl _
  | case4 key names rest other after ih =>
    rw [List.flatMap_cons, List.flatMap_cons]
    exact (ih.append_left names).trans List.perm_middle

theorem getPartitionMap_eq (env : Env) (ptnList : List String) : getPartitionMap env ptnList =
    ptnList.foldl (fun map name => (env.devPath name).elim map fun path => pushPartition path name map) [] := by
  refine List.foldl_ext _ _ _ fun map name _ => ?_
  cases env.devPath name with
  | none => rfl
  | some path => rfl

/-- The map holds every partition that has a device, once for each time it is listed. -/
theorem perm_getPartitionMap (env : Env) (ptnList : List String) :
    ((getPartitionMap env ptnList).flatMap Prod.snd).Perm (ptnList.filter fun name => (env.devPath name).isSome) := by
  suffices general : ∀ map : List (String × List String), ((ptnList.foldl (fun map name =>
      (env.devPath name).elim map fun path => pushPartition path name map) map).flatMap Prod.snd).Perm
        (map.flatMap Prod.snd ++ ptnList.filter fun name => (env.devPath name).isSome) by
    rw [getPartitionMap_eq]
    exact general []
  induction ptnList with
  | nil => simp
  | cons name rest ih =>
    intro map
    rw [List.foldl_cons]
    cases resolved : env.devPath name with
    | none => simpa [resolved] using ih map
    | some path =>
      rw [List.filter_cons_of_pos (by simp [resolved])]
      refine (ih _).trans (((perm_pushPartition path name map).append_right _).trans ?_)
      exact List.perm_middle.symm

/-- The slot names that `set_active_boot_slot` works on, by device. -/
abbrev slotMap (hal : Hal) (slot : Slot) : List (String × List String) :=
  getPartitionMap hal.toEnv ((handledPtns hal).map (· ++ slot.suffix))

theorem perm_slotMap (hal : Hal) (slot : Slot) : (((slotMap hal slot).flatMap Prod.snd).map chopSuffix).Perm
    ((handledPtns hal).filter fun ptn => (hal.devPath (ptn ++ slot.suffix)).isSome) := by
  have listed := (perm_getPartitionMap hal.toEnv ((handledPtns hal).map (· ++ slot.suffix))).map chopSuffix
  have chop : chopSuffix ∘ (· ++ slot.suffix) = id := funext fun ptn => chopSuffix_append ptn slot
  rwa [List.filter_map, List.map_map, chop, List.map_id] at listed

end PartitionMap

/-! ## A device with one A/B partition -/

/-- An entry with a name, a repeated byte as type GUID, and flags. -/
def abEntry (name : String) (guid flag : UInt8) : Bytes :=
  write (write (namedEntry ptnEntrySize name) 0 (List.replicate typeGuidSize guid)) abFlagOffset [flag]

/-- A boot partition whose slot A is active. -/
def bootPair : Bytes := abEntry "boot_a" 1 0x3F ++ abEntry "boot_b" 2 0x3B

theorem formattable_bootPair : Formattable 512 ptnEntrySize bootPair := by
  have length : bootPair.length = 256 := by simp [bootPair, abEntry, ptnEntrySize]
  exact ⟨by decide, by decide, by decide, by rw [length]; decide, by rw [length]; decide⟩

def bootDisk : BlockDevice := format 512 ptnEntrySize bootPair

/-- The eMMC device holds the pair, and there is no other device. -/
def bootStore : Store := Function.update (fun _ => none) "/dev/block/mmcblk0" (some bootDisk)

def bootHal : Hal where
  isUfs := false
  byName name := if name = "boot_a" then some "/dev/block/mmcblk0p1"
    else if name = "boot_b" then some "/dev/block/mmcblk0p2" else none
  setBootLun _ _ := true
  gvmqPlatform := false
  miscMessage := true
  bootDevDir := ["boot_a", "boot_b"]
  bootSlotProp := "_a"

theorem bootStore_here : bootStore "/dev/block/mmcblk0" = some bootDisk := Function.update_self ..

theorem all_bootStore {P : BlockDevice → Prop} (holds : P bootDisk) : bootStore.All P := by
  intro path d here
  rw [bootStore, Function.update_apply] at here
  split_ifs at here
  exact Option.some.inj here ▸ holds

theorem array_bootDisk (gpt : GptInstance) : bootDisk.tables gpt.array = bootPair :=
    array_format formattable_bootPair gpt

theorem paired_bootDisk : Paired bootDisk := by
  refine ⟨wellFormed_format formattable_bootPair, ?_⟩
  rw [bootDisk, primaryHeader_format, secondaryHeader_format, size_formatHeader (by decide),
    size_formatHeader (by decide)]

theorem entrySize_bootDisk : get4 bootDisk.primaryHeader pentrySizeOffset = ptnEntrySize := by
  rw [bootDisk, primaryHeader_format]
  exact pentrySize_formatHeader (by decide) (by decide)

/-- Boot is the only partition of the list with two slots. -/
theorem hasSlots_bootHal : abPtnList.filter bootHal.hasSlots = ["boot"] := by decide

end Cypfr.BootControl
