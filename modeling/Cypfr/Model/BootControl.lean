import Cypfr.Model.GptDisk

/-! # The boot control HAL

The slot operations of `bootctrl/1.1/libboot_control_qti/libboot_control_qti.cpp`. An A/B partition
has an entry for each slot, whose flag byte says whether the slot is active, was booted successfully
or is unbootable; the active entry carries the type GUID the boot loader looks for.
-/

namespace Cypfr.BootControl

open Cypfr.Gpt Journal

/-- What the HAL asks the system for, besides links and boot LUNs: whether this is the virtual
platform and its bootloader message can be exchanged, the names in the by-name directory, and the slot
suffix property. -/
structure Hal extends Env where
  gvmqPlatform : Bool
  miscMessage : Bool
  bootDevDir : List String
  bootSlotProp : String

inductive Slot where
  | a
  | b
deriving DecidableEq

namespace Slot

/-- `slot_suffix_arr`. -/
def suffix : Slot → String
  | .a => "_a"
  | .b => "_b"

def index : Slot → ℕ
  | .a => 0
  | .b => 1

/-- The slot whose suffix is the given one of `slot_suffix_arr`. -/
def ofIndex : ℕ → Option Slot
  | 0 => some .a
  | 1 => some .b
  | _ => none

/-- The boot LUN of a slot on UFS. -/
def bootChain : Slot → BootChain
  | .a => .normalBoot
  | .b => .backupBoot

end Slot

inductive PartAttr where
  | slotActive
  | bootSuccessful
  | unbootable
deriving DecidableEq

namespace PartAttr

/-- `AB_PARTITION_ATTR_*`. -/
def mask : PartAttr → UInt8
  | .slotActive => 0x04
  | .bootSuccessful => 0x40
  | .unbootable => 0x80

end PartAttr

/-- `AB_FLAG_OFFSET`. -/
def abFlagOffset : ℕ := 54

/-- `AB_SLOT_ACTIVE_VAL`. -/
def abSlotActiveVal : UInt8 := 0x3F

def typeGuidSize : ℕ := 16

/-- `AB_PTN_LIST`. -/
def abPtnList : List String :=
  ptnSwapList ++ ["boot", "system", "vendor", "odm", "modem", "bluetooth", "fsg", "logo", "mdm1m9kefs3", "prov",
    "spss", "storsec", "vbmeta_system", "vendor_boot"]

/-- The flag byte of the entry at an offset. -/
def flagAt (arr : Bytes) (pentry : ℕ) : UInt8 := arr.getD (pentry + abFlagOffset) 0

/-- The type GUID of the entry at an offset. -/
def guidAt (arr : Bytes) (pentry : ℕ) : Bytes := ByteList.read arr pentry typeGuidSize

/-- `get_partition_attribute`; none is the error value. -/
def getPartitionAttribute (hal : Hal) (s : Store) (partname : String) (attr : PartAttr) : Option Bool := do
  let disk ← gptDiskGetDiskInfo hal.toEnv s partname
  let pentry ← gptDiskGetPentry disk partname .primaryGpt
  pure (flagAt (disk.pentryArr .primaryGpt) pentry &&& attr.mask ≠ 0)

/-- Both versions of a partition exist. -/
def Hal.hasSlots (hal : Hal) (ptn : String) : Bool := hal.stat (ptn ++ Slot.a.suffix) && hal.stat (ptn ++ Slot.b.suffix)

/-- The flags `update_slot_attribute` puts into the two tables. For ATTR_SLOT_ACTIVE the backup flags
come from the primary entry. -/
def markFlag (attr : PartAttr) (flags : GptInstance → UInt8) : GptInstance → UInt8 :=
  match attr with
  | .bootSuccessful => fun gpt => flags gpt ||| attr.mask
  | .unbootable => fun gpt => flags gpt ||| attr.mask
  | .slotActive => fun
    | .primaryGpt => flags .primaryGpt ||| attr.mask
    | .secondaryGpt => (flags .primaryGpt ||| attr.mask) ||| attr.mask

/-- The disk with the attribute set in the entry of both tables, and its CRCs updated. -/
def markAttribute (disk : GptDisk) (attr : PartAttr) (pentry : GptInstance → ℕ) : GptDisk :=
  let flags := markFlag attr fun gpt => flagAt (disk.pentryArr gpt) (pentry gpt)
  gptDiskUpdateCrc
    { disk with
      pentryArr := fun gpt => ByteList.write (disk.pentryArr gpt) (pentry gpt + abFlagOffset) [flags gpt] }

/-- The offsets of an entry in both tables. -/
def gptDiskGetPentries (disk : GptDisk) (partname : String) : Option (GptInstance → ℕ) := do
  let pentry ← gptDiskGetPentry disk partname .primaryGpt
  let pentryBak ← gptDiskGetPentry disk partname .secondaryGpt
  pure fun | .primaryGpt => pentry | .secondaryGpt => pentryBak

/-- The loop of `update_slot_attribute`. -/
def updateSlotLoop (hal : Hal) (slot : Slot) (attr : PartAttr) : List String → StoreProg ℤ
  | [] => pure 0
  | ptn :: rest =>
    if hal.hasSlots ptn then do
      let s ← Prog.get
      match gptDiskGetDiskInfo hal.toEnv s (ptn ++ slot.suffix) with
      | none => pure (-1)
      | some disk =>
        match gptDiskGetPentries disk (ptn ++ slot.suffix) with
        | none => pure (-1)
        | some pentry => do
          let r ← gptDiskCommit (markAttribute disk attr pentry)
          if r ≠ 0 then pure (-1)
          else updateSlotLoop hal slot attr rest
    else updateSlotLoop hal slot attr rest

/-- `update_slot_attribute`, called with one of the two suffixes. -/
def updateSlotAttribute (hal : Hal) (slot : Slot) (attr : PartAttr) : StoreProg ℤ :=
  updateSlotLoop hal slot attr abPtnList

/-- `get_number_slots`. -/
def getNumberSlots (hal : Hal) : ℕ :=
  if hal.gvmqPlatform then 2
  else (hal.bootDevDir.filter fun name => strncmpEq 4 (ascii name) (ascii "boot")).length

/-- `get_current_slot`. -/
def getCurrentSlot (hal : Hal) : Slot :=
  if getNumberSlots hal ≤ 1 then .a
  else if strncmpEq 3 (ascii hal.bootSlotProp) (ascii "N/A") then .a
  else if strncmpEq 2 (ascii hal.bootSlotProp) (ascii "_a") then .a
  else if strncmpEq 2 (ascii hal.bootSlotProp) (ascii "_b") then .b
  else .a

/-- `boot_control_check_slot_sanity`. -/
def checkSlotSanity (hal : Hal) (slot : Slot) : Bool :=
  !(getNumberSlots hal < 1 || getNumberSlots hal - 1 < slot.index)

/-- `mark_boot_successful`. -/
def markBootSuccessful (hal : Hal) : StoreProg ℤ :=
  if hal.gvmqPlatform && !hal.miscMessage then pure (-1)
  else do
    let r ← updateSlotAttribute hal (getCurrentSlot hal) .bootSuccessful
    pure (if r ≠ 0 then -1 else 0)

/-- `set_slot_as_unbootable`. -/
def setSlotAsUnbootable (hal : Hal) (slot : Slot) : StoreProg ℤ :=
  if !checkSlotSanity hal slot then pure (-1)
  else do
    let r ← updateSlotAttribute hal slot .unbootable
    pure (if r ≠ 0 then -1 else 0)

/-- `is_slot_bootable`. -/
def isSlotBootable (hal : Hal) (s : Store) (slot : Slot) : ℤ :=
  if !checkSlotSanity hal slot then -1
  else
    match getPartitionAttribute hal s ("boot" ++ slot.suffix) .unbootable with
    | some attr => if attr then 0 else 1
    | none => -1

/-- `is_slot_marked_successful`. -/
def isSlotMarkedSuccessful (hal : Hal) (s : Store) (slot : Slot) : ℤ :=
  if !checkSlotSanity hal slot then -1
  else
    match getPartitionAttribute hal s ("boot" ++ slot.suffix) .bootSuccessful with
    | some attr => if attr then 1 else 0
    | none => -1

/-- `UPDATE_SLOT` on the entry of both tables. -/
def updateSlot (disk : GptDisk) (pentry : GptInstance → ℕ) (guid : Bytes) (active : Bool) : GptDisk :=
  { disk with
    pentryArr := fun gpt =>
      let arr := ByteList.write (disk.pentryArr gpt) (pentry gpt) guid
      let flag := if active then abSlotActiveVal else flagAt arr (pentry gpt) &&& ~~~PartAttr.slotActive.mask
      ByteList.write arr (pentry gpt + abFlagOffset) [flag] }

/-- Which slot of a partition is active on the devices: A when both are. -/
def activeSlot (hal : Hal) (s : Store) (ptn : String) : Option Slot :=
  if getPartitionAttribute hal s (ptn ++ Slot.a.suffix) .slotActive = some true then some .a
  else if getPartitionAttribute hal s (ptn ++ Slot.b.suffix) .slotActive = some true then some .b
  else none

/-- A round of `boot_ctl_set_active_slot_for_partitions` with both disks in memory. -/
def switchPair (hal : Hal) (s : Store) (slot : Slot) (ptn : String) (diskA diskB : GptDisk) :
    Option (GptDisk × GptDisk) := do
  let pentryA ← gptDiskGetPentries diskA (ptn ++ Slot.a.suffix)
  let pentryB ← gptDiskGetPentries diskB (ptn ++ Slot.b.suffix)
  let current ← activeSlot hal s ptn
  let guidA := guidAt (diskA.pentryArr .primaryGpt) (pentryA .primaryGpt)
  let guidB := guidAt (diskB.pentryArr .primaryGpt) (pentryB .primaryGpt)
  let activeGuid := if current = .a then guidA else guidB
  let inactiveGuid := if current = .a then guidB else guidA
  pure
    (gptDiskUpdateCrc (updateSlot diskA pentryA (if slot = .a then activeGuid else inactiveGuid) (slot = .a)),
      gptDiskUpdateCrc (updateSlot diskB pentryB (if slot = .b then activeGuid else inactiveGuid) (slot = .b)))

/-- The partition name without its slot suffix. -/
def chopSuffix (partition : String) : String := String.ofList (partition.toList.take (partition.length - 2))

/-- A round of the loop. The disks are those of the first partition with both slots. -/
def switchRound (hal : Hal) (s : Store) (slot : Slot) (disks : Option GptDisk × Option GptDisk) (partition : String) :
    Option (Option GptDisk × Option GptDisk) :=
  if partition.length < 3 then none
  else
    let ptn := chopSuffix partition
    if hal.hasSlots ptn then do
      let diskA ← disks.1.or (gptDiskGetDiskInfo hal.toEnv s (ptn ++ Slot.a.suffix))
      let diskB ← disks.2.or (gptDiskGetDiskInfo hal.toEnv s (ptn ++ Slot.b.suffix))
      let (diskA, diskB) ← switchPair hal s slot ptn diskA diskB
      pure (some diskA, some diskB)
    else some disks

/-- Write back a disk, if one was read. -/
def commitDisk (disk : Option GptDisk) : StoreProg ℤ :=
  match disk with
  | none => pure 0
  | some disk => gptDiskCommit disk

/-- `boot_ctl_set_active_slot_for_partitions`: nothing is written before the loop is over. -/
def setActiveSlotForPartitions (hal : Hal) (slot : Slot) (partList : List String) : StoreProg ℤ := do
  let s ← Prog.get
  match partList.foldlM (switchRound hal s slot) (none, none) with
  | none => pure (-1)
  | some (diskA, diskB) => do
    let r ← commitDisk diskA
    if r ≠ 0 then pure (-1)
    else do
      let r ← commitDisk diskB
      pure (if r ≠ 0 then -1 else 0)

/-- Add a partition to a map sorted by path. -/
def pushPartition (path name : String) : List (String × List String) → List (String × List String)
  | [] => [(path, [name])]
  | (key, names) :: rest =>
    if key = path then (key, names ++ [name]) :: rest
    else if path < key then (path, [name]) :: (key, names) :: rest
    else (key, names) :: pushPartition path name rest

/-- `gpt_utils_get_partition_map` for a list that is not empty. -/
def getPartitionMap (env : Env) (ptnList : List String) : List (String × List String) :=
  ptnList.foldl (fun map name =>
    match env.devPath name with
    | none => map
    | some path => pushPartition path name map) []

/-- The partitions that `set_active_boot_slot` handles: on UFS not the XBL ones. -/
def handledPtns (hal : Hal) : List String :=
  abPtnList.filter fun ptn => !(hal.isUfs &&
    (strncmpEq 3 (ascii ptn) (ascii "xbl") || strncmpEq 10 (ascii ptn) (ascii "xbl_config")))

/-- The loop of `set_active_boot_slot` over the devices. -/
def switchDevices (hal : Hal) (slot : Slot) : List (String × List String) → StoreProg ℤ
  | [] => pure 0
  | (_, names) :: rest => do
    let r ← setActiveSlotForPartitions hal slot names
    if r ≠ 0 then pure (-1)
    else switchDevices hal slot rest

/-- `set_active_boot_slot`. -/
def setActiveBootSlot (hal : Hal) (slot : Slot) : StoreProg ℤ :=
  if hal.gvmqPlatform && (!hal.miscMessage || getNumberSlots hal < 1 ||
      getNumberSlots hal - 1 < (getCurrentSlot hal).index) then pure (-1)
  else if !checkSlotSanity hal slot then pure (-1)
  else do
    let r ← switchDevices hal slot (getPartitionMap hal.toEnv ((handledPtns hal).map (· ++ slot.suffix)))
    if r ≠ 0 then pure (-1)
    else if hal.isUfs then
      pure (if hal.setXblBootPartition slot.bootChain ≠ 0 then -1 else 0)
    else pure 0

/-- `set_active_boot_slot` with any unsigned value. Where the platform has more than two slots, a value
that names neither suffix gets past the checks, and the code reads a string that is not there. -/
def setActiveBootSlotAt (hal : Hal) (slot : ℕ) : Option (StoreProg ℤ) :=
  match Slot.ofIndex slot with
  | some slot => some (setActiveBootSlot hal slot)
  | none =>
    if hal.gvmqPlatform && (!hal.miscMessage || getNumberSlots hal < 1 ||
        getNumberSlots hal - 1 < (getCurrentSlot hal).index) then some (pure (-1))
    else if getNumberSlots hal < 1 || getNumberSlots hal - 1 < slot then some (pure (-1))
    else none

/-- `slot_suffix_arr`, which NULL ends. -/
def slotSuffixArr : List (Option String) := [some Slot.a.suffix, some Slot.b.suffix, none]

/-- What `get_number_slots` returns in 32 bits. -/
def numSlots (hal : Hal) : UInt32 := UInt32.ofNat (getNumberSlots hal)

/-- `boot_control_check_slot_sanity` of any unsigned value. -/
def checkSlotSanityAt (hal : Hal) (slot : UInt32) : Bool := !(numSlots hal < 1 || numSlots hal - 1 < slot)

/-- What is done with the suffix of a slot that passes the check; none is a suffix that is not there. -/
def withSuffix {α : Type} (hal : Hal) (slot : UInt32) (rejected : α) (operation : Slot → α) : Option α :=
  if !checkSlotSanityAt hal slot then some rejected
  else (slotSuffixArr[slot.toNat]?).join.bind fun suffix =>
    ([Slot.a, Slot.b].find? fun slot => slot.suffix == suffix).map operation

/-- `set_active_boot_slot` with the count of slots in 32 bits. -/
def setActiveBootSlotOf (hal : Hal) (slot : UInt32) : Option (StoreProg ℤ) :=
  if hal.gvmqPlatform && (!hal.miscMessage || getNumberSlots hal < 1 ||
      getNumberSlots hal - 1 < (getCurrentSlot hal).index) then some (pure (-1))
  else withSuffix hal slot (pure (-1)) (setActiveBootSlot hal)

/-- `set_slot_as_unbootable` with any unsigned value. -/
def setSlotAsUnbootableOf (hal : Hal) (slot : UInt32) : Option (StoreProg ℤ) :=
  withSuffix hal slot (pure (-1)) (setSlotAsUnbootable hal)

/-- `is_slot_bootable` with any unsigned value. -/
def isSlotBootableOf (hal : Hal) (s : Store) (slot : UInt32) : Option ℤ :=
  withSuffix hal slot (-1) (isSlotBootable hal s)

/-- `is_slot_marked_successful` with any unsigned value. -/
def isSlotMarkedSuccessfulOf (hal : Hal) (s : Store) (slot : UInt32) : Option ℤ :=
  withSuffix hal slot (-1) (isSlotMarkedSuccessful hal s)

/-- `get_suffix`. -/
def getSuffix (hal : Hal) (slot : UInt32) : Option (Option String) :=
  withSuffix hal slot none fun slot => some slot.suffix

end Cypfr.BootControl
