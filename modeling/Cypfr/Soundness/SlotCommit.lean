import Cypfr.Machine.Reachable
import Cypfr.Proofs.SlotMarks

/-! # Slot operations under power loss

`gpt_disk_commit` writes the primary header, the primary array, the backup header and the backup array.
Behind the first write the primary copy does not match its array, so the device then lives on its backup
copy. The operations never check that copy: they keep one copy usable as long as the backup copies of
the devices they write are usable when they begin.
-/

namespace Cypfr.BootControl

open Cypfr.Gpt ByteList Journal Machine

/-- Both headers are signed and sealed. -/
def HeadersOk (T : Tables) : Prop := ∀ gpt : GptInstance, CrcOk (T gpt.header) ∧ SigOk (T gpt.header)

/-- The header of a copy has the CRC of its array. -/
def TableOk (T : Tables) (gpt : GptInstance) : Prop :=
  get4 (T gpt.header) partitionCrcOffset = Crc32.crc32 (T gpt.array)

/-- What holds at every write boundary. -/
def Guarded (T : Tables) : Prop := HeadersOk T ∧ (TableOk T .primaryGpt ∨ TableOk T .secondaryGpt)

section Tables

variable {T : Tables}

theorem HeadersOk.usable_iff (ok : HeadersOk T) (gpt : GptInstance) : UsableTables T gpt ↔ TableOk T gpt :=
  ⟨UsableTables.table, fun table => ⟨(ok gpt).1, (ok gpt).2, table⟩⟩

theorem HeadersOk.update_header (ok : HeadersOk T) {h : Bytes} (crcOk : CrcOk h) (sigOk : SigOk h)
    (gpt : GptInstance) : HeadersOk (Function.update T gpt.header h) := by
  intro other
  by_cases here : other = gpt
  · subst here; rw [Function.update_self]; exact ⟨crcOk, sigOk⟩
  · have apart : other.header ≠ gpt.header := by cases other <;> cases gpt <;> first | exact absurd rfl here | decide
    rw [Function.update_of_ne apart]
    exact ok other

theorem HeadersOk.update_array (ok : HeadersOk T) (a : Bytes) (gpt : GptInstance) :
    HeadersOk (Function.update T gpt.array a) := by
  intro other
  have apart : other.header ≠ gpt.array := by cases other <;> cases gpt <;> decide
  rw [Function.update_of_ne apart]
  exact ok other

/-- With a good backup copy, one copy is good at every write boundary of a commit. -/
theorem throughout_commit (ok : HeadersOk T) (backup : TableOk T .secondaryGpt) {disk : GptDisk}
    (sealing : Sealed disk) : Throughout Guarded T (commitPlan disk) := by
  have header := ok.update_header (sealing.crcOk .primaryGpt) (sealing.sigOk .primaryGpt) .primaryGpt
  have array := header.update_array (disk.pentryArr .primaryGpt) .primaryGpt
  have headerBak := array.update_header (sealing.crcOk .secondaryGpt) (sealing.sigOk .secondaryGpt) .secondaryGpt
  have arrayBak := headerBak.update_array (disk.pentryArr .secondaryGpt) .secondaryGpt
  have table := sealing.table .primaryGpt
  exact ⟨⟨ok, .inr backup⟩, ⟨header, .inr backup⟩, ⟨array, .inl table⟩, ⟨headerBak, .inl table⟩,
    ⟨arrayBak, .inl table⟩⟩

end Tables

/-- A device on which one copy is usable, and the other one but for its array. -/
structure Alive (d : BlockDevice) : Prop where
  paired : Paired d
  guarded : Guarded d.tables

/-- Between two commits: the backup copies of the targets are usable. -/
structure Backed (targets : List String) (s : Store) : Prop where
  alive : s.All Alive
  backup : ∀ path ∈ targets, ∀ d, s path = some d → TableOk d.tables .secondaryGpt

theorem all_update {P : BlockDevice → Prop} {s : Store} (all : s.All P) {path : String} {d : BlockDevice}
    (holds : P d) :
    Store.All P (Function.update s path (some d)) := by
  intro other d' there
  rw [Function.update_apply] at there
  split_ifs at there
  · exact Option.some.inj there ▸ holds
  · exact all other d' there

section Programs

variable {targets : List String} {s : Store} {hal : Hal} {slot : Slot} {disk : GptDisk}

/-- A slot operation or a part of it: one copy of every device is usable at every write boundary, and
the targets have both at the end. -/
abbrev Survives (targets : List String) (p : StoreProg ℤ) (s : Store) : Prop :=
  p.Keeps (Store.All Alive) (Backed targets) s

theorem survives_pure (backed : Backed targets s) (r : ℤ) : Survives targets (pure r) s :=
  Prog.keeps_pure (J := Backed targets) (fun _ => Backed.alive) backed r

theorem survives_commit (backed : Backed targets s) {d : BlockDevice}
    (target : disk.devpath ∈ targets) (here : s disk.devpath = some d) (fits : Fits disk d) (sealing : Sealed disk) :
    Survives targets (gptDiskCommit disk) s := by
  have ⟨paired, guarded⟩ := backed.alive _ d here
  have plan := throughout_commit guarded.1 (backed.backup _ target d here) sealing
  refine ⟨fun k => ?_, ?_⟩
  · obtain ⟨d', rewritten, tables, cut⟩ := cut_gptDiskCommit here paired.toWellFormed fits k
    rw [cut]
    exact all_update backed.alive ⟨paired.rewritten rewritten, tables ▸ plan.take k⟩
  · obtain ⟨-, d', rewritten, tables, final⟩ := run_gptDiskCommit here paired.toWellFormed fits
    have table (gpt : GptInstance) : TableOk d'.tables gpt := by
      rw [TableOk, (tables gpt).1, (tables gpt).2]; exact sealing.table gpt
    have headers : HeadersOk d'.tables := fun gpt => by
      rw [(tables gpt).1]; exact ⟨sealing.crcOk gpt, sealing.sigOk gpt⟩
    rw [final]
    refine ⟨all_update backed.alive ⟨paired.rewritten rewritten, headers, .inl (table .primaryGpt)⟩, ?_⟩
    intro path member d₁ there
    rw [Function.update_apply] at there
    split_ifs at there
    · exact Option.some.inj there ▸ table .secondaryGpt
    · exact backed.backup path member d₁ there

/-- A disk in memory that belongs to a target and has signed headers. -/
structure Held (targets : List String) (s : Store) (disk : GptDisk) : Prop where
  target : disk.devpath ∈ targets
  device : ∃ d, s disk.devpath = some d ∧ Fits disk d
  signed : ∀ gpt, SigOk (disk.hdr gpt)

theorem held_of_loaded (backed : Backed targets s) {partname : String} {disk : GptDisk}
    (loaded : gptDiskGetDiskInfo hal.toEnv s partname = some disk)
    (targeted : ∀ path, hal.devPath partname = some path → path ∈ targets) : Held targets s disk := by
  have wf : s.All BlockDevice.WellFormed := fun path d here => (backed.alive path d here).paired.toWellFormed
  obtain ⟨path, d, resolved, here, rfl⟩ := gptDiskGetDiskInfo_eq_some wf loaded
  exact ⟨targeted path resolved, ⟨d, here, fits_loadDisk (wf path d here) path⟩,
    fun gpt => ((backed.alive path d here).guarded.1 gpt).2⟩

/-- Editing the arrays and updating the CRCs makes a disk ready to be written back. -/
theorem Held.edit (held : Held targets s disk) (backed : Backed targets s) (arr : GptInstance → Bytes)
    (length : ∀ gpt, (arr gpt).length = (disk.pentryArr gpt).length) :
    Held targets s (gptDiskUpdateCrc { disk with pentryArr := arr }) ∧
      Sealed (gptDiskUpdateCrc { disk with pentryArr := arr }) := by
  obtain ⟨target, ⟨d, here, fits⟩, signed⟩ := held
  have edited := fits.edit length
  have sealing := sealed_updateCrc (backed.alive _ d here).paired edited signed
  exact ⟨⟨target, ⟨d, here, edited.updateCrc⟩, sealing.sigOk⟩, sealing⟩

theorem survives_held (backed : Backed targets s) (held : Held targets s disk) (sealing : Sealed disk) :
    Survives targets (gptDiskCommit disk) s := by
  obtain ⟨target, ⟨d, here, fits⟩, -⟩ := held
  exact survives_commit backed target here fits sealing

/-- A disk in memory stays writable when another one, of the same device or not, is written back. -/
theorem Held.commit (backed : Backed targets s) {other : GptDisk} (held : Held targets s disk)
    (written : Held targets s other) : Held targets ((gptDiskCommit other).final s) disk := by
  obtain ⟨target, ⟨d, here, fits⟩, signed⟩ := held
  obtain ⟨-, ⟨d₁, there, fits₁⟩, -⟩ := written
  obtain ⟨-, d', rewritten, -, final⟩ := run_gptDiskCommit there (backed.alive _ d₁ there).paired.toWellFormed fits₁
  refine ⟨target, ?_, signed⟩
  rw [final, Function.update_apply]
  split_ifs with same
  · rw [same] at here
    obtain rfl : d₁ = d := Option.some.inj (there.symm.trans here)
    exact ⟨d', rfl, fits.rewritten (backed.alive _ d₁ there).paired.toWellFormed rewritten⟩
  · exact ⟨d, here, fits⟩

/-- The targets of an operation on one slot of some partitions. -/
def Covers (hal : Hal) (targets : List String) (slot : Slot) (ptns : List String) : Prop :=
  ∀ ptn ∈ ptns, hal.hasSlots ptn = true → ∀ path, hal.devPath (ptn ++ slot.suffix) = some path → path ∈ targets

theorem survives_updateSlotLoop (attr : PartAttr) {ptns : List String} (backed : Backed targets s)
    (covers : Covers hal targets slot ptns) : Survives targets (updateSlotLoop hal slot attr ptns) s := by
  induction ptns generalizing s with
  | nil => exact survives_pure backed 0
  | cons ptn rest ih =>
    have later : Covers hal targets slot rest := fun name member => covers name (List.mem_cons_of_mem ptn member)
    rw [updateSlotLoop]
    split_ifs with both
    · apply Prog.keeps_get
      split
      · exact survives_pure backed (-1)
      · next disk loaded =>
        split
        · exact survives_pure backed (-1)
        · next pentry _ =>
          have held := held_of_loaded backed loaded (covers ptn List.mem_cons_self both)
          obtain ⟨marked, sealing⟩ := held.edit backed (fun gpt => write (disk.pentryArr gpt)
            (pentry gpt + abFlagOffset) [markFlag attr (fun gpt => flagAt (disk.pentryArr gpt) (pentry gpt)) gpt])
            fun gpt => length_write ..
          apply Prog.keeps_bind (survives_held backed marked sealing)
          intro backed'
          split_ifs
          · exact survives_pure backed' (-1)
          · exact ih backed' later
    · exact ih backed later

/-- What the loop of `boot_ctl_set_active_slot_for_partitions` keeps in its two disks. -/
def Ready (targets : List String) (s : Store) (disk : Option GptDisk) : Prop :=
  ∀ image, disk = some image → Held targets s image ∧ Sealed image

theorem held_or_loaded (backed : Backed targets s) {current : Option GptDisk} (ready : Ready targets s current)
    {partname : String} (taken : current.or (gptDiskGetDiskInfo hal.toEnv s partname) = some disk)
    (targeted : ∀ path, hal.devPath partname = some path → path ∈ targets) : Held targets s disk := by
  cases current with
  | none => exact held_of_loaded backed taken targeted
  | some image => exact (ready disk taken).1

theorem ready_switched {partList : List String} (backed : Backed targets s)
    (covers : ∀ which, Covers hal targets which (partList.map chopSuffix)) {diskA diskB : Option GptDisk}
    (run : partList.foldlM (switchRound hal s slot) (none, none) = some (diskA, diskB)) :
    Ready targets s diskA ∧ Ready targets s diskB := by
  refine OptionFold.induction (fun _ disks => Ready targets s disks.1 ∧ Ready targets s disks.2) run ⟨nofun, nofun⟩ ?_
  rintro done partition ⟨a, b⟩ next reached ⟨readyA, readyB⟩ round
  rcases switchRound_eq_some round with ⟨-, rfl⟩ | ⟨both, imageA, imageB, imageA', imageB', takenA, takenB, pair, rfl⟩
  · exact ⟨readyA, readyB⟩
  · have listed := List.mem_map_of_mem (f := chopSuffix) (reached.subset List.mem_concat_self)
    have heldA := held_or_loaded backed readyA takenA (covers .a _ listed both)
    have heldB := held_or_loaded backed readyB takenB (covers .b _ listed both)
    obtain ⟨pentryA, pentryB, current, -, -, -, rfl, rfl⟩ := switchPair_eq_some pair
    constructor
    · rintro image ⟨⟩
      exact heldA.edit backed _ fun gpt => by simp
    · rintro image ⟨⟩
      exact heldB.edit backed _ fun gpt => by simp

theorem survives_commitDisk (backed : Backed targets s) {image : Option GptDisk} (ready : Ready targets s image) :
    Survives targets (commitDisk image) s := by
  cases image with
  | none => exact survives_pure backed 0
  | some image => exact survives_held backed (ready image rfl).1 (ready image rfl).2

theorem Ready.commit (backed : Backed targets s) {image other : Option GptDisk} (ready : Ready targets s image)
    (written : Ready targets s other) : Ready targets ((commitDisk other).final s) image := by
  cases other with
  | none => exact ready
  | some other =>
    intro disk same
    exact ⟨(ready disk same).1.commit backed (written other rfl).1, (ready disk same).2⟩

theorem survives_setActiveSlotForPartitions {partList : List String} (backed : Backed targets s)
    (covers : ∀ which, Covers hal targets which (partList.map chopSuffix)) :
    Survives targets (setActiveSlotForPartitions hal slot partList) s := by
  apply Prog.keeps_get
  split
  · exact survives_pure backed (-1)
  · next diskA diskB run =>
    obtain ⟨readyA, readyB⟩ := ready_switched backed covers run
    apply Prog.keeps_bind (survives_commitDisk backed readyA)
    intro backed'
    split_ifs
    · exact survives_pure backed' (-1)
    · apply Prog.keeps_bind (survives_commitDisk backed' (readyB.commit backed readyA))
      intro backed''
      exact survives_pure backed'' _

theorem survives_switchDevices {map : List (String × List String)} (backed : Backed targets s)
    (covers : ∀ which, Covers hal targets which ((map.flatMap Prod.snd).map chopSuffix)) :
    Survives targets (switchDevices hal slot map) s := by
  induction map generalizing s with
  | nil => exact survives_pure backed 0
  | cons entry rest ih =>
    obtain ⟨path, names⟩ := entry
    rw [switchDevices]
    have here (which : Slot) : Covers hal targets which (names.map chopSuffix) :=
      fun ptn member => covers which ptn (by simp only [List.flatMap_cons, List.map_append]; simp [member])
    have later (which : Slot) : Covers hal targets which ((rest.flatMap Prod.snd).map chopSuffix) :=
      fun ptn member => covers which ptn (by simp only [List.flatMap_cons, List.map_append]; simp [member])
    apply Prog.keeps_bind (survives_setActiveSlotForPartitions backed here)
    intro backed'
    split_ifs
    · exact survives_pure backed' (-1)
    · exact ih backed' later

end Programs

/-- The operations that change slots. -/
inductive SlotOp where
  | markBootSuccessful
  | setSlotAsUnbootable (slot : Slot)
  | setActiveBootSlot (slot : Slot)

/-- The devices that hold one slot of some partitions that have both. -/
def slotDevices (hal : Hal) (slot : Slot) (ptns : List String) : List String :=
  (ptns.filter hal.hasSlots).filterMap fun ptn => hal.devPath (ptn ++ slot.suffix)

namespace SlotOp

def prog (hal : Hal) : SlotOp → StoreProg ℤ
  | .markBootSuccessful => BootControl.markBootSuccessful hal
  | .setSlotAsUnbootable slot => BootControl.setSlotAsUnbootable hal slot
  | .setActiveBootSlot slot => BootControl.setActiveBootSlot hal slot

/-- The devices that an operation writes. -/
def targets (hal : Hal) : SlotOp → List String
  | .markBootSuccessful => slotDevices hal (getCurrentSlot hal) abPtnList
  | .setSlotAsUnbootable slot => slotDevices hal slot abPtnList
  | .setActiveBootSlot _ => slotDevices hal .a (handledPtns hal) ++ slotDevices hal .b (handledPtns hal)

end SlotOp

theorem covers_slotDevices {hal : Hal} {slot : Slot} {ptns targets : List String}
    (inside : slotDevices hal slot ptns ⊆ targets) : Covers hal targets slot ptns := by
  intro ptn member both path resolved
  exact inside (List.mem_filterMap.mpr ⟨ptn, List.mem_filter.mpr ⟨member, both⟩, resolved⟩)

theorem covers_partitionMap (hal : Hal) (slot which : Slot) :
    Covers hal (SlotOp.targets hal (.setActiveBootSlot slot)) which
      (((slotMap hal slot).flatMap Prod.snd).map chopSuffix) := by
  have handled : Covers hal (SlotOp.targets hal (.setActiveBootSlot slot)) which (handledPtns hal) := by
    apply covers_slotDevices
    cases which with
    | a => exact List.subset_append_left _ _
    | b => exact List.subset_append_right _ _
  intro ptn member
  exact handled ptn (List.mem_of_mem_filter ((perm_slotMap hal slot).subset member))

theorem survives_prog {hal : Hal} {s : Store} (op : SlotOp) (backed : Backed (op.targets hal) s) :
    Survives (op.targets hal) (op.prog hal) s := by
  cases op with
  | markBootSuccessful =>
    rw [SlotOp.prog, markBootSuccessful]
    split
    · exact survives_pure backed (-1)
    · exact Prog.keeps_bind (survives_updateSlotLoop _ backed (covers_slotDevices (List.Subset.refl _)))
        fun backed' => survives_pure backed' _
  | setSlotAsUnbootable slot =>
    rw [SlotOp.prog, setSlotAsUnbootable]
    split
    · exact survives_pure backed (-1)
    · exact Prog.keeps_bind (survives_updateSlotLoop _ backed (covers_slotDevices (List.Subset.refl _)))
        fun backed' => survives_pure backed' _
  | setActiveBootSlot slot =>
    rw [SlotOp.prog, setActiveBootSlot]
    split
    · exact survives_pure backed (-1)
    · split
      · exact survives_pure backed (-1)
      · apply Prog.keeps_bind (survives_switchDevices backed (covers_partitionMap hal slot))
        intro backed'
        split_ifs
        · exact survives_pure backed' (-1)
        · exact survives_pure backed' _
        · exact survives_pure backed' _
        · exact survives_pure backed' 0

/-- One slot operation, cut off after some writes; the system may answer differently each time. -/
def slotStep (s : Store) (call : Hal × SlotOp × ℕ) : Store := (call.2.1.prog call.1).cut s call.2.2

/-- The backup copy of every device that the operation writes is usable. -/
def BackupsUsable (s : Store) (call : Hal × SlotOp × ℕ) : Prop :=
  ∀ path ∈ call.2.1.targets call.1, ∀ d, s path = some d → usable d .secondaryGpt = true

/-- A device with headers of one size and two usable copies. -/
structure SlotStart (d : BlockDevice) : Prop where
  paired : Paired d
  usable : ∀ gpt, Gpt.usable d gpt = true

theorem SlotStart.alive {d : BlockDevice} (start : SlotStart d) : Alive d := by
  have tables (gpt : GptInstance) := (usable_iff start.paired.toWellFormed gpt).mp (start.usable gpt)
  exact ⟨start.paired, fun gpt => ⟨(tables gpt).crcOk, (tables gpt).sigOk⟩, .inl (tables .primaryGpt).table⟩

theorem Alive.usable_iff {d : BlockDevice} (alive : Alive d) (gpt : GptInstance) :
    usable d gpt = true ↔ TableOk d.tables gpt := by
  rw [Gpt.usable_iff alive.paired.toWellFormed, alive.guarded.1.usable_iff]

theorem alive_slotStep {s : Store} (call : Hal × SlotOp × ℕ) (alive : s.All Alive) (usable : BackupsUsable s call) :
    (slotStep s call).All Alive :=
  (survives_prog call.2.1 ⟨alive, fun path target d here =>
    ((alive path d here).usable_iff _).mp (usable path target d here)⟩).boundaries call.2.2

/-- In every run of slot operations, whole or cut off, that each begin with usable backup copies of the
devices they write, one copy of every device is usable at every write boundary. -/
theorem slots_keep_copy {s₀ s : Store} (start : s₀.All SlotStart)
    (reach : Reachable slotStep BackupsUsable s₀ s) :
    s.All fun d => usable d .primaryGpt = true ∨ usable d .secondaryGpt = true := by
  have inv := reach.invariant (Store.All Alive) (fun path d here => (start path d here).alive)
    fun s call alive usable => alive_slotStep call alive usable
  intro path d here
  have alive := inv path d here
  rw [alive.usable_iff, alive.usable_iff]
  exact alive.guarded.2

theorem slotStart_bootStore : bootStore.All SlotStart :=
  all_bootStore ⟨paired_bootDisk, usable_format formattable_bootPair⟩

/-- A first operation may be cut off anywhere. -/
theorem slots_keep_copy_boot :
    (slotStep bootStore (bootHal, .markBootSuccessful, 3)).All fun d =>
      usable d .primaryGpt = true ∨ usable d .secondaryGpt = true :=
  slots_keep_copy slotStart_bootStore
    (.step .start fun path _ d here => (slotStart_bootStore path d here).usable .secondaryGpt)

section OnePartition

variable {hal : Hal} {slot : Slot} {attr : PartAttr} {s : Store}

/-- With one partition that has both slots, an attribute update is one commit. -/
theorem cut_updateSlotAttribute {ptn : String} {disk : GptDisk} {pentry : GptInstance → ℕ}
    (only : abPtnList.filter hal.hasSlots = [ptn])
    (loaded : gptDiskGetDiskInfo hal.toEnv s (ptn ++ slot.suffix) = some disk)
    (found : gptDiskGetPentries disk (ptn ++ slot.suffix) = some pentry) (k : ℕ) :
    (updateSlotAttribute hal slot attr).cut s k = (gptDiskCommit (markAttribute disk attr pentry)).cut s k := by
  have both : hal.hasSlots ptn = true :=
    (List.mem_filter.mp (only ▸ List.mem_singleton_self ptn : ptn ∈ abPtnList.filter hal.hasSlots)).2
  have tail (r : ℤ) : (if r ≠ 0 then pure (-1) else updateSlotLoop hal slot attr [] : StoreProg ℤ) =
      pure (if r ≠ 0 then -1 else 0) := by
    rw [updateSlotLoop]; split_ifs <;> rfl
  rw [updateSlotAttribute, updateSlotLoop_filter, only, updateSlotLoop, if_pos both, Prog.cut_get_bind, loaded]
  simp only [found, tail]
  exact Prog.cut_bind_pure _ _ _ _

/-- The same on the eMMC device, over the contents of its regions. -/
theorem tables_updateSlotAttribute (hal : Hal) (slot : Slot) (attr : PartAttr) {d : BlockDevice}
    (emmc : hal.isUfs = false) {ptn : String} (only : abPtnList.filter hal.hasSlots = [ptn])
    (wf : s.All BlockDevice.WellFormed) (here : s "/dev/block/mmcblk0" = some d) (pentry : GptInstance → ℕ)
    (found : ∀ gpt : GptInstance, gptPentrySeek (ascii (ptn ++ slot.suffix)) (d.tables gpt.array)
      (get4 d.primaryHeader pentrySizeOffset) (d.tables gpt.array).length 0 = some (pentry gpt)) (k : ℕ) :
    ∃ d', Rewritten d d' ∧
      d'.tables = applyPlan d.tables
        ((commitPlan (markAttribute (loadDisk "/dev/block/mmcblk0" d) attr pentry)).take k) ∧
      (updateSlotAttribute hal slot attr).cut s k = Function.update s "/dev/block/mmcblk0" (some d') := by
  have wfd := wf _ d here
  have fits := fits_loadDisk wfd "/dev/block/mmcblk0"
  have loaded : gptDiskGetDiskInfo hal.toEnv s (ptn ++ slot.suffix) = some (loadDisk "/dev/block/mmcblk0" d) := by
    rw [gptDiskGetDiskInfo_eq wf, Env.devPath, emmc, if_neg Bool.false_ne_true, Option.bind_some, here, Option.map_some]
  have seeks : gptDiskGetPentries (loadDisk "/dev/block/mmcblk0" d) (ptn ++ slot.suffix) = some pentry := by
    rw [gptDiskGetPentries_eq_some]
    intro gpt
    rw [gptDiskGetPentry_eq wfd fits]
    exact found gpt
  rw [cut_updateSlotAttribute only loaded seeks]
  exact cut_gptDiskCommit here wfd ((fits.edit fun gpt => length_write ..).updateCrc) k

theorem sealed_markAttribute {d : BlockDevice} (alive : Alive d) (path : String) (attr : PartAttr)
    (pentry : GptInstance → ℕ) : Sealed (markAttribute (loadDisk path d) attr pentry) :=
  sealed_updateCrc alive.paired ((fits_loadDisk alive.paired.toWellFormed path).edit fun _ => length_write ..)
    fun gpt => (alive.guarded.1 gpt).2

end OnePartition

section Cuts

variable {T : Tables} {disk : GptDisk}

theorem applyPlan_commit_one : applyPlan T ((commitPlan disk).take 1) =
    Function.update T .primaryHeader (disk.hdr .primaryGpt) := rfl

/-- Before the last write of a commit only the backup array is old. -/
theorem applyPlan_commit_three (T : Tables) (disk : GptDisk) :
    applyPlan T ((commitPlan disk).take 3) .primaryArray = disk.pentryArr .primaryGpt ∧
      applyPlan T ((commitPlan disk).take 3) .secondaryHeader = disk.hdr .secondaryGpt ∧
      applyPlan T ((commitPlan disk).take 3) .secondaryArray = T .secondaryArray := ⟨rfl, rfl, rfl⟩

/-- Setting a flag that was clear changes the CRC of the array. -/
theorem crc32_flagged {attr : PartAttr} {pentry : ℕ} {arr : Bytes} (inside : pentry + abFlagOffset < arr.length)
    (clear : flagAt arr pentry ||| attr.mask ≠ flagAt arr pentry) :
    Crc32.crc32 (flagged attr pentry arr) ≠ Crc32.crc32 arr := by
  have old : arr = arr.take (pentry + abFlagOffset) ++ flagAt arr pentry :: arr.drop (pentry + abFlagOffset + 1) := by
    rw [flagAt, List.getD_eq_getElem _ _ inside, List.getElem_cons_drop, List.take_append_drop]
  have new : flagged attr pentry arr = arr.take (pentry + abFlagOffset) ++
      (flagAt arr pentry ||| attr.mask) :: arr.drop (pentry + abFlagOffset + 1) := by
    rw [flagged, write_singleton, List.set_eq_take_append_cons_drop, if_pos inside]
  intro same
  exact Crc32.crc32_ne_of_byte clear ((congrArg Crc32.crc32 new).symm.trans (same.trans (congrArg Crc32.crc32 old)))

theorem usable_eq_false {d : BlockDevice} (wf : d.WellFormed) {gpt : GptInstance}
    (table : get4 (d.tables gpt.header) partitionCrcOffset ≠ Crc32.crc32 (d.tables gpt.array)) :
    usable d gpt = false := by
  rw [Bool.eq_false_iff, ne_eq, usable_iff wf]
  exact fun usable => table usable.table

end Cuts

theorem slotStep_markBootSuccessful (s : Store) (k : ℕ) :
    slotStep s (bootHal, .markBootSuccessful, k) = (updateSlotAttribute bootHal .a .bootSuccessful).cut s k := by
  have sane : ¬ (bootHal.gvmqPlatform && !bootHal.miscMessage) = true := by decide
  have current : getCurrentSlot bootHal = .a := by decide
  rw [slotStep, SlotOp.prog, markBootSuccessful, current, if_neg sane]
  exact Prog.cut_bind_pure _ _ _ _

theorem slotStep_setSlotAsUnbootable (s : Store) (k : ℕ) :
    slotStep s (bootHal, .setSlotAsUnbootable .b, k) = (updateSlotAttribute bootHal .b .unbootable).cut s k := by
  have sane : ¬ (!checkSlotSanity bootHal .b) = true := by decide
  rw [slotStep, SlotOp.prog, setSlotAsUnbootable, if_neg sane]
  exact Prog.cut_bind_pure _ _ _ _

/-- Marking the boot as successful, cut off before its last write: the backup header announces the new
array, and the old one is still there. -/
theorem boot_marked_cut : ∃ d, slotStep bootStore (bootHal, .markBootSuccessful, 3) =
      Function.update bootStore "/dev/block/mmcblk0" (some d) ∧
    get4 d.primaryHeader pentrySizeOffset = ptnEntrySize ∧
    d.tables .primaryArray = flagged .bootSuccessful 0 bootPair ∧ d.tables .secondaryArray = bootPair ∧
    get4 (d.tables .secondaryHeader) partitionCrcOffset = Crc32.crc32 (flagged .bootSuccessful 0 bootPair) := by
  have alive := (slotStart_bootStore _ _ bootStore_here).alive
  have sealing := sealed_markAttribute alive "/dev/block/mmcblk0" .bootSuccessful fun _ => 0
  have marked (gpt : GptInstance) : (markAttribute (loadDisk "/dev/block/mmcblk0" bootDisk) .bootSuccessful
      fun _ => 0).pentryArr gpt = flagged .bootSuccessful 0 bootPair := by
    rw [pentryArr_markAttribute (by decide), pentryArr_loadDisk, array_bootDisk]
  obtain ⟨d, rewritten, tables, cut⟩ := tables_updateSlotAttribute bootHal .a .bootSuccessful rfl
    hasSlots_bootHal (all_bootStore paired_bootDisk.toWellFormed) bootStore_here (fun _ => 0)
    (fun gpt => by rw [array_bootDisk, entrySize_bootDisk]; decide +kernel) 3
  obtain ⟨array, headerBak, arrayBak⟩ := applyPlan_commit_three bootDisk.tables
    (markAttribute (loadDisk "/dev/block/mmcblk0" bootDisk) .bootSuccessful fun _ => 0)
  rw [← tables] at array headerBak arrayBak
  refine ⟨d, (slotStep_markBootSuccessful _ _).trans cut, ?_, array.trans (marked .primaryGpt),
    arrayBak.trans (array_bootDisk .secondaryGpt), ?_⟩
  · exact (rewritten.geometry .primaryGpt).pentrySize.trans entrySize_bootDisk
  · rw [headerBak, sealing.table, marked]

/-- Marking the other slot as unbootable then, cut off after its first write, leaves no usable copy. -/
theorem both_copies_lost :
    bootStore.All SlotStart ∧ ∃ d, slotStep (slotStep bootStore (bootHal, .markBootSuccessful, 3))
        (bootHal, .setSlotAsUnbootable .b, 1) "/dev/block/mmcblk0" = some d ∧
      usable d .primaryGpt = false ∧ usable d .secondaryGpt = false := by
  refine ⟨slotStart_bootStore, ?_⟩
  have alive := alive_slotStep (bootHal, .markBootSuccessful, 3)
    (fun path d here => (slotStart_bootStore path d here).alive)
    fun path _ d here => (slotStart_bootStore path d here).usable .secondaryGpt
  obtain ⟨d₁, cut, entrySize, array, arrayBak, table⟩ := boot_marked_cut
  rw [cut] at alive ⊢
  set s₁ := Function.update bootStore "/dev/block/mmcblk0" (some d₁)
  have here : s₁ "/dev/block/mmcblk0" = some d₁ := Function.update_self ..
  have alive₁ := alive _ d₁ here
  have found (gpt : GptInstance) : gptPentrySeek (ascii ("boot" ++ Slot.b.suffix)) (d₁.tables gpt.array)
      (get4 d₁.primaryHeader pentrySizeOffset) (d₁.tables gpt.array).length 0 = some 128 := by
    rw [entrySize]
    cases gpt with
    | primaryGpt => rw [GptInstance.array, array]; decide +kernel
    | secondaryGpt => rw [GptInstance.array, arrayBak]; decide +kernel
  obtain ⟨d₂, rewritten, tables, cut₂⟩ := tables_updateSlotAttribute bootHal .b .unbootable rfl hasSlots_bootHal
    (fun path d there => (alive path d there).paired.toWellFormed) here (fun _ => 128) found 1
  have header : get4 (d₂.tables .primaryHeader) partitionCrcOffset =
      Crc32.crc32 (flagged .unbootable 128 (flagged .bootSuccessful 0 bootPair)) := by
    rw [tables, applyPlan_commit_one, Function.update_self, (sealed_markAttribute alive₁ _ .unbootable _).table,
      pentryArr_markAttribute (by decide), pentryArr_loadDisk, GptInstance.array, array]
  rw [applyPlan_commit_one] at tables
  refine ⟨d₂, ?_, usable_eq_false rewritten.wellFormed ?_, usable_eq_false rewritten.wellFormed ?_⟩
  · rw [slotStep_setSlotAsUnbootable, cut₂, Function.update_self]
  · rw [GptInstance.header, header, tables, Function.update_of_ne (by decide), GptInstance.array, array]
    exact crc32_flagged (by decide +kernel) (by decide +kernel)
  · rw [tables, Function.update_of_ne (by decide), Function.update_of_ne (by decide), GptInstance.header,
      GptInstance.array, table, arrayBak]
    exact crc32_flagged (by decide +kernel) (by decide +kernel)

end Cypfr.BootControl
