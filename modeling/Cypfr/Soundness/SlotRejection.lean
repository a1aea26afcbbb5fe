import Cypfr.Soundness.SlotSwitch

/-! # Rejected switches

`set_active_boot_slot` goes through the groups of its partition map one by one. Within a group nothing is
written before all of its pairs have been checked, so a group is switched as a whole or not at all. The
groups before the one that is refused stay switched.
-/

namespace Cypfr.Gpt

open ByteList Journal

/-- Both headers can be read: there is a block behind the first one. -/
def TwoBlocks (d : BlockDevice) : Prop := 2 * d.blkSize ≤ d.bytes.length

/-- What no write changes. -/
def BlockDevice.shape (d : BlockDevice) : ℕ × ℕ := (d.blkSize, d.bytes.length)

section Device

variable {d : BlockDevice}

theorem shape_foldl (writes : List (ℕ × Bytes)) (d : BlockDevice) :
    (writes.foldl BlockDevice.write d).shape = d.shape := by
  induction writes generalizing d with
  | nil => rfl
  | cons w rest ih =>
    rw [List.foldl_cons, ih]
    simp [BlockDevice.write, BlockDevice.shape]

/-- The device has blocks, at least two. -/
def Blocks (d : BlockDevice) : Prop := d.blkSize ≠ 0 ∧ TwoBlocks d

theorem Blocks.of_shape {d' : BlockDevice} (blocks : Blocks d) (same : d'.shape = d.shape) : Blocks d' := by
  obtain ⟨size, length⟩ := Prod.mk.inj same
  rw [Blocks, TwoBlocks, size, length]
  exact blocks

theorem Blocks.final (blocks : Blocks d) {α : Type} (p : DiskProg α) : Blocks (p.final d) :=
  blocks.of_shape (shape_foldl _ d)

theorem Blocks.gptSetHeader (blocks : Blocks d) (hdr : Bytes) (gpt : GptInstance) :
    (gptSetHeader hdr gpt).result d = 0 := by
  obtain ⟨size, two⟩ := blocks
  rw [TwoBlocks] at two
  rw [Gpt.gptSetHeader, Prog.result_bind, Prog.result_get, Prog.final_get, if_neg size]
  cases gpt with
  | primaryGpt => simp [headerOffset, size]
  | secondaryGpt =>
    have fits : ¬ d.bytes.length < d.blkSize := by omega
    have behind : d.bytes.length - d.blkSize ≠ 0 := by omega
    simp [headerOffset, fits, behind]

theorem Blocks.gptSetPentryArr (blocks : Blocks d) (hdr arr : Bytes) : (gptSetPentryArr hdr arr).result d = 0 := by
  rw [Gpt.gptSetPentryArr, Prog.result_bind, Prog.result_get, Prog.final_get, if_neg blocks.1]
  rfl

theorem Blocks.commitCopy (blocks : Blocks d) (disk : GptDisk) (gpt : GptInstance) :
    (commitCopy disk gpt).result d = 0 := by
  rw [Gpt.commitCopy, Prog.result_bind, blocks.gptSetHeader, if_neg (by decide), Prog.result_bind,
    (blocks.final _).gptSetPentryArr]
  rfl

/-- Both copies can be written back to a device that has blocks. -/
theorem Blocks.commitCopies (blocks : Blocks d) (disk : GptDisk) : (commitCopies disk).result d = 0 := by
  rw [Gpt.commitCopies, Prog.result_bind, blocks.commitCopy, if_neg (by decide)]
  exact (blocks.final _).commitCopy disk .secondaryGpt

end Device

section Store

variable {s : Store} {disk : GptDisk} {path : String}

theorem shape_foldl_store (writes : List (String × ℕ × Bytes)) (s : Store) (path : String) :
    (writes.foldl Store.write s path).map BlockDevice.shape = (s path).map BlockDevice.shape := by
  induction writes generalizing s with
  | nil => rfl
  | cons w rest ih =>
    rw [List.foldl_cons, ih, Store.write, Function.update_apply]
    split_ifs with same
    · rw [same]
      cases s w.1 with
      | none => rfl
      | some d => exact congrArg some (shape_foldl [w.2] d)
    · rfl

/-- The device of a disk in memory is there and has blocks. -/
def Mounted (s : Store) (disk : GptDisk) : Prop := ∃ d, s disk.devpath = some d ∧ Blocks d

theorem Mounted.final (mounted : Mounted s disk) {α : Type} (p : StoreProg α) : Mounted (p.final s) disk := by
  obtain ⟨d, here, blocks⟩ := mounted
  have same := shape_foldl_store (p.writes s) s disk.devpath
  rw [here, Option.map_some, Option.map_eq_some_iff] at same
  obtain ⟨d', there, shape⟩ := same
  exact ⟨d', there, blocks.of_shape shape⟩

theorem Mounted.commit (mounted : Mounted s disk) : (gptDiskCommit disk).result s = 0 := by
  obtain ⟨d, here, blocks⟩ := mounted
  rw [gptDiskCommit, result_onDevice here, blocks.commitCopies]

theorem final_onDevice_ne (other : path ≠ disk.devpath) (p : DiskProg ℤ) :
    (onDevice disk.devpath p).final s path = s path := by
  cases here : s disk.devpath with
  | none => simp only [Prog.final, Prog.writes, onDevice, here, List.foldl_nil]
  | some d => rw [final_onDevice here, Function.update_of_ne other]

theorem mounted_of_loaded (readable : s.All TwoBlocks) {env : Env} {partname : String}
    (loaded : gptDiskGetDiskInfo env s partname = some disk) :
    env.devPath partname = some disk.devpath ∧ Mounted s disk := by
  simp only [gptDiskGetDiskInfo, Option.bind_eq_bind, Option.pure_def, Option.bind_eq_some_iff,
    Option.some.injEq] at loaded
  obtain ⟨devpath, resolved, d, here, hdr, got, hdrBak, -, rfl⟩ := loaded
  refine ⟨resolved, d, here, ?_, readable devpath d here⟩
  intro zero
  rw [gptGetHeader, if_pos zero] at got
  cases got

end Store

end Cypfr.Gpt

namespace Cypfr.BootControl

open Cypfr.Gpt ByteList Journal

/-- The device holds a slot of a partition of a group. -/
def Serves (hal : Hal) (names : List String) (path : String) : Prop :=
  ∃ ptn ∈ pairsOf hal names, ∃ which : Slot, hal.devPath (ptn ++ which.suffix) = some path

section Group

variable {hal : Hal} {s : Store} {slot : Slot} {names : List String} {path : String}

/-- A disk in memory, if there is one, is that of a partition of the group, and can be written back. -/
def Writable (hal : Hal) (s : Store) (names : List String) (disk : Option GptDisk) : Prop :=
  ∀ image, disk = some image → Mounted s image ∧ Serves hal names image.devpath

theorem Writable.taken {done : List String} {current : Option GptDisk} (writable : Writable hal s done current)
    (readable : s.All TwoBlocks) (more : done ⊆ names) {ptn : String} (member : ptn ∈ pairsOf hal names) {which : Slot}
    {image : GptDisk} (taken : current.or (gptDiskGetDiskInfo hal.toEnv s (ptn ++ which.suffix)) = some image) :
    Mounted s image ∧ Serves hal names image.devpath := by
  cases current with
  | none =>
    obtain ⟨resolved, mounted⟩ := mounted_of_loaded readable taken
    exact ⟨mounted, ptn, member, which, resolved⟩
  | some held =>
    obtain ⟨mounted, ptn', member', which', resolved⟩ := writable image taken
    refine ⟨mounted, ptn', ?_, which', resolved⟩
    exact List.filter_subset hal.hasSlots (List.map_subset chopSuffix more) member'

theorem writable_partitions (readable : s.All TwoBlocks) {disks : Option GptDisk × Option GptDisk}
    (run : names.foldlM (switchRound hal s slot) (none, none) = some disks) :
    Writable hal s names disks.1 ∧ Writable hal s names disks.2 := by
  refine OptionFold.induction (fun done disks => Writable hal s done disks.1 ∧ Writable hal s done disks.2) run
    ⟨nofun, nofun⟩ ?_
  rintro done partition ⟨a, b⟩ next - ⟨writableA, writableB⟩ round
  have more : done ⊆ done ++ [partition] := List.subset_append_left _ _
  have weaken {disk : Option GptDisk} (writable : Writable hal s done disk) :
      Writable hal s (done ++ [partition]) disk := by
    intro image held
    obtain ⟨mounted, ptn, member, which, resolved⟩ := writable image held
    exact ⟨mounted, ptn, List.filter_subset hal.hasSlots (List.map_subset chopSuffix more) member, which, resolved⟩
  rcases switchRound_eq_some round with ⟨-, rfl⟩ | ⟨both, imageA, imageB, imageA', imageB', takenA, takenB, pair, rfl⟩
  · exact ⟨weaken writableA, weaken writableB⟩
  · have member : chopSuffix partition ∈ pairsOf hal (done ++ [partition]) :=
      mem_pairsOf_reached (List.prefix_refl _) both
    obtain ⟨pentryA, pentryB, current, -, -, -, rfl, rfl⟩ := switchPair_eq_some pair
    have keptA := writableA.taken readable more member takenA
    have keptB := writableB.taken readable more member takenB
    constructor
    · rintro image ⟨⟩
      exact keptA
    · rintro image ⟨⟩
      exact keptB

theorem commitDisk_accepted {disk : Option GptDisk} (writable : ∀ image, disk = some image → Mounted s image) :
    (commitDisk disk).result s = 0 := by
  cases disk with
  | none => rfl
  | some image => exact (writable image rfl).commit

theorem commitDisk_elsewhere {disk : Option GptDisk} (writable : Writable hal s names disk)
    (elsewhere : ¬ Serves hal names path) (t : Store) : (commitDisk disk).final t path = t path := by
  cases disk with
  | none => rfl
  | some image =>
    apply final_onDevice_ne
    rintro rfl
    exact elsewhere (writable image rfl).2

/-- A group is switched, on the devices of its partitions, or it is refused before anything is written. -/
theorem partitions_whole (hal : Hal) (slot : Slot) (names : List String) (readable : s.All TwoBlocks) :
    (setActiveSlotForPartitions hal slot names).result s = 0 ∧
        (∀ path, ¬ Serves hal names path → (setActiveSlotForPartitions hal slot names).final s path = s path) ∨
      (setActiveSlotForPartitions hal slot names).result s = -1 ∧
        (setActiveSlotForPartitions hal slot names).final s = s := by
  rw [setActiveSlotForPartitions, Prog.result_bind, Prog.final_bind, Prog.result_get, Prog.final_get]
  cases run : names.foldlM (switchRound hal s slot) (none, none) with
  | none => exact .inr ⟨rfl, rfl⟩
  | some disks =>
    obtain ⟨diskA, diskB⟩ := disks
    obtain ⟨writableA, writableB⟩ := writable_partitions readable run
    have acceptedA := commitDisk_accepted fun image held => (writableA image held).1
    have acceptedB := commitDisk_accepted fun image held => (writableB image held).1.final (commitDisk diskA)
    left
    simp only
    rw [Prog.result_bind, Prog.final_bind, acceptedA, if_neg (by decide), Prog.result_bind, Prog.final_bind, acceptedB]
    refine ⟨rfl, fun path elsewhere => ?_⟩
    rw [Prog.final_pure, commitDisk_elsewhere writableB elsewhere, commitDisk_elsewhere writableA elsewhere]

end Group

section Groups

variable {hal : Hal} {s : Store} {slot : Slot} {map : List (String × List String)}

theorem all_twoBlocks_final (readable : s.All TwoBlocks) {α : Type} (p : StoreProg α) : (p.final s).All TwoBlocks := by
  intro path d' there
  have same := shape_foldl_store (p.writes s) s path
  have there' : (p.writes s).foldl Store.write s path = some d' := there
  rw [there', Option.map_some, eq_comm, Option.map_eq_some_iff] at same
  obtain ⟨d, here, shape⟩ := same
  obtain ⟨size, length⟩ := Prod.mk.inj shape
  have two := readable path d here
  rw [TwoBlocks] at two ⊢
  rwa [← size, ← length]

/-- A loop that is stopped: the groups before were accepted, and the one that is refused writes nothing. -/
theorem switchDevices_stopped (readable : s.All TwoBlocks) (stopped : (switchDevices hal slot map).result s ≠ 0) :
    ∃ done group rest, map = done ++ group :: rest ∧ (switchDevices hal slot done).result s = 0 ∧
      (setActiveSlotForPartitions hal slot group.2).result ((switchDevices hal slot done).final s) = -1 ∧
      (switchDevices hal slot map).final s = (switchDevices hal slot done).final s := by
  induction map generalizing s with
  | nil => exact absurd rfl stopped
  | cons group rest ih =>
    obtain ⟨path, names⟩ := group
    rw [switchDevices, Prog.result_bind] at stopped
    rcases partitions_whole hal slot names readable with ⟨accepted, -⟩ | ⟨refused, same⟩
    · rw [accepted, if_neg (by decide)] at stopped
      obtain ⟨done, group, rest, rfl, before, refused, final⟩ := ih (all_twoBlocks_final readable _) stopped
      refine ⟨(path, names) :: done, group, rest, rfl, ?_, ?_, ?_⟩
      · rw [switchDevices, Prog.result_bind, accepted, if_neg (by decide), before]
      · rw [switchDevices, Prog.final_bind, accepted, if_neg (by decide), refused]
      · rw [switchDevices, switchDevices, Prog.final_bind, Prog.final_bind, accepted, if_neg (by decide), final,
          if_neg (by decide)]
    · refine ⟨[], (path, names), rest, rfl, rfl, refused, ?_⟩
      have stays : (switchDevices hal slot ((path, names) :: rest)).final s = s := by
        rw [switchDevices, Prog.final_bind, refused, if_pos (by decide), Prog.final_pure, same]
      exact stays

/-- The devices that hold no partition of the groups are not written. -/
theorem switchDevices_elsewhere (readable : s.All TwoBlocks) {path : String}
    (elsewhere : ∀ group ∈ map, ¬ Serves hal group.2 path) : (switchDevices hal slot map).final s path = s path := by
  induction map generalizing s with
  | nil => rfl
  | cons group rest ih =>
    obtain ⟨key, names⟩ := group
    have later := ih (all_twoBlocks_final readable (setActiveSlotForPartitions hal slot names))
      fun group member => elsewhere group (List.mem_cons_of_mem _ member)
    rw [switchDevices, Prog.final_bind]
    rcases partitions_whole hal slot names readable with ⟨accepted, same⟩ | ⟨refused, same⟩
    · rw [accepted, if_neg (by decide), later, same path (elsewhere (key, names) List.mem_cons_self)]
    · rw [refused, if_pos (by decide), Prog.final_pure, same]

end Groups

/-- Where a rejected call stopped. The groups before were switched, each with the answer that it was; the
next group was refused or, behind the last one, the boot LUN. Nothing else was written. -/
structure StoppedAfter (hal : Hal) (slot : Slot) (s : Store) (done rest : List (String × List String)) (s' : Store) :
    Prop where
  groups : slotMap hal slot = done ++ rest
  accepted : (switchDevices hal slot done).result s = 0
  switched : s' = (switchDevices hal slot done).final s
  elsewhere : ∀ path, (∀ group ∈ done, ¬ Serves hal group.2 path) → s' path = s path
  refused : match rest with
    | [] => hal.isUfs = true ∧ hal.setXblBootPartition slot.bootChain ≠ 0
    | group :: _ => (setActiveSlotForPartitions hal slot group.2).result s' = -1

section Call

variable {hal : Hal} {s : Store} {slot : Slot}

theorem admitted_or_rejected (hal : Hal) (slot : Slot) : Admitted hal slot ∨ setActiveBootSlot hal slot =
    pure (-1) := by
  rw [setActiveBootSlot]
  split
  · exact .inr rfl
  · next platform =>
    split
    · exact .inr rfl
    · next sane => exact .inl ⟨platform, by simpa using sane⟩

theorem stopped_setActiveBootSlot (readable : s.All TwoBlocks) (admitted : Admitted hal slot)
    (rejected : (setActiveBootSlot hal slot).result s = -1) :
    ∃ done rest, StoppedAfter hal slot s done rest ((setActiveBootSlot hal slot).final s) := by
  rw [setActiveBootSlot_eq admitted, Prog.result_bind] at rejected
  rw [setActiveBootSlot_eq admitted, Prog.final_bind, final_finishSwitch]
  by_cases accepted : (switchDevices hal slot (slotMap hal slot)).result s = 0
  · refine ⟨slotMap hal slot, [], (List.append_nil _).symm, accepted, rfl, ?_, ?_⟩
    · exact fun path => switchDevices_elsewhere readable
    · rw [accepted, finishSwitch, if_neg (by decide)] at rejected
      split_ifs at rejected with ufs failed
      · exact ⟨ufs, failed⟩
      · exact absurd (show (0 : ℤ) = -1 from rejected) (by decide)
      · exact absurd (show (0 : ℤ) = -1 from rejected) (by decide)
  · obtain ⟨done, group, rest, groups, before, refused, final⟩ := switchDevices_stopped readable accepted
    rw [final]
    exact ⟨done, group :: rest, groups, before, rfl, fun path => switchDevices_elsewhere readable, refused⟩

/-- A call that answers -1 has left everything as it was, or has switched the first groups of the partition
map as a whole and nothing else. -/
theorem rejected_switch (hal : Hal) (s : Store) (readable : s.All TwoBlocks) (index : ℕ) {p : StoreProg ℤ}
    (call : setActiveBootSlotAt hal index = some p) (rejected : p.result s = -1) :
    p.final s = s ∨ ∃ slot done rest, Slot.ofIndex index = some slot ∧ StoppedAfter hal slot s done rest (p.final s) := by
  rw [setActiveBootSlotAt] at call
  cases named : Slot.ofIndex index with
  | none =>
    left
    rw [named] at call
    simp only at call
    split_ifs at call
    · exact Option.some.inj call ▸ rfl
    · exact Option.some.inj call ▸ rfl
  | some slot =>
    rw [named] at call
    obtain rfl := Option.some.inj call
    rcases admitted_or_rejected hal slot with admitted | refused
    · obtain ⟨done, rest, stopped⟩ := stopped_setActiveBootSlot readable admitted rejected
      exact .inr ⟨slot, done, rest, rfl, stopped⟩
    · left
      rw [refused, Prog.final_pure]

end Call

/-! ## A second device without an active slot -/

section TwoDevices

/-- A system partition of which neither slot is active. -/
def systemPair : Bytes := abEntry "system_a" 1 0x3B ++ abEntry "system_b" 2 0x3B

theorem length_systemPair : systemPair.length = 256 := by simp [systemPair, abEntry, ptnEntrySize]

theorem formattable_systemPair : Formattable 512 ptnEntrySize systemPair :=
  ⟨by decide, by decide, by decide, by rw [length_systemPair]; decide, by rw [length_systemPair]; decide⟩

theorem whole_bootPair : ptnEntrySize ∣ bootPair.length := by
  have length : bootPair.length = 256 := by simp [bootPair, abEntry, ptnEntrySize]
  rw [length]
  decide

theorem whole_systemPair : ptnEntrySize ∣ systemPair.length := by
  rw [length_systemPair]
  decide

def systemDisk : BlockDevice := format 512 ptnEntrySize systemPair

/-- The first LUN holds the boot pair and the second one the system pair. -/
def ufsStore : Store :=
  Function.update (Function.update (fun _ => none) "/dev/block/sda" (some bootDisk)) "/dev/block/sdb" (some systemDisk)

def ufsHal : Hal where
  isUfs := true
  byName name := if name = "boot_a" then some "/dev/block/sda1" else if name = "boot_b" then some "/dev/block/sda2"
    else if name = "system_a" then some "/dev/block/sdb1" else if name = "system_b" then some "/dev/block/sdb2" else none
  setBootLun _ _ := true
  gvmqPlatform := false
  miscMessage := true
  bootDevDir := ["boot_a", "boot_b", "system_a", "system_b"]
  bootSlotProp := "_a"

theorem ufsStore_boot : ufsStore "/dev/block/sda" = some bootDisk := by
  rw [ufsStore, Function.update_of_ne (by decide), Function.update_self]

theorem ufsStore_system : ufsStore "/dev/block/sdb" = some systemDisk := Function.update_self ..

theorem ufsStore_cases {path : String} {d : BlockDevice} (here : ufsStore path = some d) :
    path = "/dev/block/sda" ∧ d = bootDisk ∨ path = "/dev/block/sdb" ∧ d = systemDisk := by
  rw [ufsStore, Function.update_apply, Function.update_apply] at here
  split_ifs at here with second first
  · exact .inr ⟨second, (Option.some.inj here).symm⟩
  · exact .inl ⟨first, (Option.some.inj here).symm⟩

theorem abLayout_systemDisk : AbLayout systemDisk := abLayout_format formattable_systemPair (by decide +kernel)

theorem layouts_ufsStore : ufsStore.All AbLayout := by
  intro path d here
  rcases ufsStore_cases here with ⟨-, rfl⟩ | ⟨-, rfl⟩
  · exact abLayout_bootDisk
  · exact abLayout_systemDisk

theorem twoBlocks_ufsStore : ufsStore.All TwoBlocks := by
  intro path d here
  rcases ufsStore_cases here with ⟨-, rfl⟩ | ⟨-, rfl⟩
  · rw [TwoBlocks, bootDisk, length_format, format]; decide
  · rw [TwoBlocks, systemDisk, length_format, format]; decide

theorem paths_ufsHal (which : Slot) : ufsHal.devPath ("boot" ++ which.suffix) = some "/dev/block/sda" ∧
    ufsHal.devPath ("system" ++ which.suffix) = some "/dev/block/sdb" := by
  cases which <;> decide

theorem names_ufsHal : slotMap ufsHal .b = [("/dev/block/sda", ["boot_b"]), ("/dev/block/sdb", ["system_b"])] ∧
    linkedPtns ufsHal = ["boot", "system"] ∧ pairsOf ufsHal ["boot_b"] = ["boot"] ∧
    chopSuffix "system_b" = "system" ∧ ufsHal.hasSlots (chopSuffix "system_b") = true := by
  decide

theorem linkedPtns_ufsHal : linkedPtns ufsHal = ["boot", "system"] := names_ufsHal.2.1

theorem pairsOf_boot : pairsOf ufsHal ["boot_b"] = ["boot"] := names_ufsHal.2.2.1

/-- Each device has the entries of its own pair only. -/
theorem seeks_ufsStore (which : Slot) :
    gptPentrySeek (ascii ("system" ++ which.suffix)) bootPair ptnEntrySize bootPair.length 0 = none ∧
      gptPentrySeek (ascii ("boot" ++ which.suffix)) systemPair ptnEntrySize systemPair.length 0 = none ∧
      gptPentrySeek (ascii ("system" ++ which.suffix)) systemPair ptnEntrySize systemPair.length 0 =
        some (which.index * ptnEntrySize) := by
  cases which <;> decide +kernel

theorem placed_ufsStore {path : String} {d : BlockDevice} (here : ufsStore path = some d) {ptn : String}
    (linked : ptn ∈ linkedPtns ufsHal) {which : Slot} {gpt : GptInstance} {pentry : ℕ}
    (found : entryOffset d gpt (ptn ++ which.suffix) = some pentry) : ufsHal.devPath (ptn ++ which.suffix) =
    some path := by
  obtain ⟨noSystem, noBoot, -⟩ := seeks_ufsStore which
  rw [linkedPtns_ufsHal] at linked
  rcases ufsStore_cases here with ⟨rfl, rfl⟩ | ⟨rfl, rfl⟩
  · rw [bootDisk, entryOffset_format formattable_bootPair whole_bootPair] at found
    rcases List.mem_cons.mp linked with rfl | linked
    · exact (paths_ufsHal which).1
    · obtain rfl := List.mem_singleton.mp linked
      exact absurd (found.symm.trans noSystem) (by simp)
  · rw [systemDisk, entryOffset_format formattable_systemPair whole_systemPair] at found
    rcases List.mem_cons.mp linked with rfl | linked
    · exact absurd (found.symm.trans noBoot) (by simp)
    · obtain rfl := List.mem_singleton.mp linked
      exact (paths_ufsHal which).2

theorem entryOf_ufsStore (which : Slot) (gpt : GptInstance) :
    entryOf ufsHal ufsStore ("boot" ++ which.suffix) gpt = some (entryAt bootPair (which.index * ptnEntrySize)) := by
  refine entryOf_eq_some.mpr
    ⟨"/dev/block/sda", bootDisk, _, (paths_ufsHal which).1, ufsStore_boot, entryOffset_bootDisk which gpt, ?_⟩
  rw [array_bootDisk]

theorem group_ufsStore : Group ufsHal ufsStore ["boot_b"] := by
  refine ⟨⟨layouts_ufsStore, fun path d here ptn linked which gpt pentry => placed_ufsStore here linked, ?_⟩, ?_, ?_⟩
  · intro ptn member
    rw [pairsOf_boot, List.mem_singleton] at member
    subst member
    refine ⟨.a, fun which => ⟨_, entryOf_ufsStore which .primaryGpt, ?_⟩⟩
    cases which <;> decide
  · rw [pairsOf_boot, linkedPtns_ufsHal]
    decide
  · exact List.nodup_singleton _

theorem accepted_ufsStore : (setActiveSlotForPartitions ufsHal .b ["boot_b"]).result ufsStore = 0 := by
  have gathered : Gathered ufsHal ufsStore ["boot_b"] fun _ => "/dev/block/sda" := by
    constructor
    · decide
    · intro ptn member which
      rw [pairsOf_boot, List.mem_singleton] at member
      subst member
      exact ⟨(paths_ufsHal which).1, bootDisk, ufsStore_boot, fun gpt => ⟨_, entryOffset_bootDisk which gpt⟩⟩
  exact accepted_partitions group_ufsStore gathered

/-- Whatever the other devices hold, the system pair is refused. -/
theorem refused_system {s : Store} (layouts : s.All AbLayout) (here : s "/dev/block/sdb" = some systemDisk) :
    (setActiveSlotForPartitions ufsHal .b ["system_b"]).result s = -1 := by
  have inactive : activeSlot ufsHal s "system" = none := by
    have reads (which : Slot) : getPartitionAttribute ufsHal s ("system" ++ which.suffix) .slotActive = some false := by
      have entry : entryOf ufsHal s ("system" ++ which.suffix) .primaryGpt =
          some (entryAt systemPair (which.index * ptnEntrySize)) := by
        refine entryOf_eq_some.mpr
          ⟨"/dev/block/sdb", systemDisk, which.index * ptnEntrySize, (paths_ufsHal which).2, here, ?_, ?_⟩
        · rw [systemDisk, entryOffset_format formattable_systemPair whole_systemPair]
          exact (seeks_ufsStore which).2.2
        · rw [systemDisk, array_format formattable_systemPair]
      rw [getPartitionAttribute_eq layouts, entry, Option.map_some]
      cases which <;> decide
    simp [activeSlot, reads]
  obtain ⟨-, -, -, chopped, linked⟩ := names_ufsHal
  have refused : ["system_b"].foldlM (switchRound ufsHal s .b) (none, none) = none := by
    rw [List.foldlM_cons]
    cases round : switchRound ufsHal s .b (none, none) "system_b" with
    | none => rfl
    | some next =>
      rcases switchRound_eq_some round with ⟨single, -⟩ | ⟨-, diskA, diskB, diskA', diskB', -, -, pair, -⟩
      · exact absurd (single.symm.trans linked) (by decide)
      · obtain ⟨pentryA, pentryB, current, -, -, active, -⟩ := switchPair_eq_some pair
        rw [chopped] at active
        exact absurd (active.symm.trans inactive) (by simp)
  rw [setActiveSlotForPartitions, Prog.result_bind, Prog.result_get, Prog.final_get, refused]
  rfl

/-- The devices after the boot pair has been switched. -/
def bootSwitched : Store := (setActiveSlotForPartitions ufsHal .b ["boot_b"]).final ufsStore

theorem outcome_bootSwitched : Outcome ufsHal .b ["boot"] ufsStore bootSwitched :=
  pairsOf_boot ▸ outcome_partitions group_ufsStore accepted_ufsStore

theorem refused_bootSwitched : (setActiveSlotForPartitions ufsHal .b ["system_b"]).result bootSwitched = -1 := by
  apply refused_system (outcome_bootSwitched.evolves.layouts layouts_ufsStore)
  rcases partitions_whole ufsHal .b ["boot_b"] twoBlocks_ufsStore with
    ⟨-, elsewhere⟩ | ⟨refused, -⟩
  · rw [bootSwitched, elsewhere, ufsStore_system]
    rintro ⟨ptn, member, which, resolved⟩
    rw [pairsOf_boot, List.mem_singleton] at member
    subst member
    rw [(paths_ufsHal which).1] at resolved
    exact absurd resolved (by decide)
  · exact absurd (accepted_ufsStore.symm.trans refused) (by decide)

theorem admitted_ufsHal : Admitted ufsHal .b := ⟨by decide, by decide⟩

theorem rejected_ufsStore : (setActiveBootSlot ufsHal .b).result ufsStore = -1 := by
  have refused := refused_bootSwitched
  rw [bootSwitched] at refused
  rw [setActiveBootSlot_eq admitted_ufsHal, names_ufsHal.1, Prog.result_bind, switchDevices, Prog.result_bind,
    accepted_ufsStore, if_neg (by decide), switchDevices, Prog.result_bind, refused, if_pos (by decide)]
  rfl

theorem final_ufsStore : (setActiveBootSlot ufsHal .b).final ufsStore = bootSwitched := by
  have refused := refused_bootSwitched
  have unwritten : (setActiveSlotForPartitions ufsHal .b ["system_b"]).final bootSwitched = bootSwitched := by
    rcases partitions_whole ufsHal .b ["system_b"]
      (all_twoBlocks_final twoBlocks_ufsStore (setActiveSlotForPartitions ufsHal .b ["boot_b"])) with
      ⟨accepted, -⟩ | ⟨-, same⟩
    · exact absurd (accepted.symm.trans refused) (by decide)
    · exact same
  rw [bootSwitched] at refused unwritten ⊢
  rw [setActiveBootSlot_eq admitted_ufsHal, names_ufsHal.1, Prog.final_bind, final_finishSwitch, switchDevices,
    Prog.final_bind, accepted_ufsStore, if_neg (by decide), switchDevices, Prog.final_bind, refused,
    if_pos (by decide), Prog.final_pure, unwritten]

theorem rejected_switch_ufs :
    (setActiveBootSlot ufsHal .b).final ufsStore = ufsStore ∨ ∃ slot done rest, Slot.ofIndex 1 = some slot ∧
      StoppedAfter ufsHal slot ufsStore done rest ((setActiveBootSlot ufsHal .b).final ufsStore) :=
  rejected_switch ufsHal ufsStore twoBlocks_ufsStore 1 rfl rejected_ufsStore

/-- The call for slot B is refused on the second device, and the first one stays switched. -/
theorem first_device_stays_switched : ufsStore.All AbLayout ∧ (setActiveBootSlot ufsHal .b).result ufsStore = -1 ∧
    (setActiveBootSlot ufsHal .b).final ufsStore ≠ ufsStore := by
  refine ⟨layouts_ufsStore, rejected_ufsStore, ?_⟩
  rw [final_ufsStore]
  intro same
  obtain ⟨entry, reads, wanted⟩ := outcome_bootSwitched.settledB "boot" (List.mem_singleton_self _) .primaryGpt
  rw [same, entryOf_ufsStore .b] at reads
  obtain rfl := Option.some.inj reads
  have inactive : ¬ HasAttr .slotActive (entryAt bootPair (Slot.b.index * ptnEntrySize)) := by decide
  exact inactive (wanted.active.mpr rfl)

end TwoDevices

end Cypfr.BootControl
