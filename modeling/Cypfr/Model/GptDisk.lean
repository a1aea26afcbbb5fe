import Cypfr.Model.Gpt
import Mathlib.Logic.Function.Basic

/-! # GPT disks in memory

The A/B code of `gpt-utils/gpt-utils.cpp` works on a `gpt_disk`: both headers and both entry arrays
of the device that holds a partition, read into memory, edited there and written back as a whole. The
fields of the structure come in a primary and a backup version; here they are indexed by the copy.
Its stored CRC values are left out, since nothing reads them.
-/

namespace Cypfr.Gpt

open Journal

/-- The block devices of the system by path; a path without a device cannot be opened. -/
abbrev Store := String → Option BlockDevice

namespace Store

def write (s : Store) (w : String × ℕ × Bytes) : Store :=
  Function.update s w.1 ((s w.1).map (BlockDevice.write · w.2))

end Store

/-- Code that writes to the block devices. -/
abbrev StoreProg := Prog Store.write

/-- Open the device at a path and run code on it. -/
def onDevice (path : String) (p : DiskProg ℤ) : StoreProg ℤ := fun s =>
  match s path with
  | none => (-1, [])
  | some d => (p.result d, (p.writes d).map fun w => (path, w))

/-- `get_dev_path_from_partition_name`: the link target up to the LUN name, or the eMMC device. -/
def Env.devPath (env : Env) (partname : String) : Option String :=
  if env.isUfs then (env.byName partname).map fun link => String.ofList (link.toList.take "/dev/block/sda".length)
  else some "/dev/block/mmcblk0"

/-- A disk in memory, with its headers and arrays by copy. -/
structure GptDisk where
  hdr : GptInstance → Bytes
  pentryArr : GptInstance → Bytes
  pentryArrSize : ℕ
  pentrySize : ℕ
  devpath : String

/-- `gpt_get_header`, on the open device. -/
def gptGetHeader (d : BlockDevice) (gpt : GptInstance) : Option Bytes :=
  if d.blkSize = 0 then none
  else (headerOffset d gpt).map fun offset => d.read offset d.blkSize

/-- `gpt_get_pentry_arr`. -/
def gptGetPentryArr (d : BlockDevice) (hdr : Bytes) : Bytes :=
  d.read (pentriesStart d.blkSize hdr) (pentriesSize hdr)

/-- `gpt_disk_get_disk_info`: the size and the entry size are those of the primary header. -/
def gptDiskGetDiskInfo (env : Env) (s : Store) (partname : String) : Option GptDisk := do
  let devpath ← env.devPath partname
  let d ← s devpath
  let hdr ← gptGetHeader d .primaryGpt
  let hdrBak ← gptGetHeader d .secondaryGpt
  pure
    { hdr := fun | .primaryGpt => hdr | .secondaryGpt => hdrBak
      pentryArr := fun | .primaryGpt => gptGetPentryArr d hdr | .secondaryGpt => gptGetPentryArr d hdrBak
      pentryArrSize := pentriesSize hdr
      pentrySize := get4 hdr pentrySizeOffset
      devpath := devpath }

/-- `gpt_disk_get_pentry`: the offset of the entry in the array of a copy. -/
def gptDiskGetPentry (disk : GptDisk) (partname : String) (gpt : GptInstance) : Option ℕ :=
  gptPentrySeek (ascii partname) ((disk.pentryArr gpt).take disk.pentryArrSize) disk.pentrySize disk.pentryArrSize 0

/-- Put a fresh CRC, over a given number of bytes, into a header. -/
def sealWith (size : ℕ) (header : Bytes) : Bytes :=
  put4 (put4 header headerCrcOffset 0) headerCrcOffset (headerCrc header size)

/-- `gpt_disk_update_crc`: both headers are summed up to the size of the primary one. -/
def gptDiskUpdateCrc (disk : GptDisk) : GptDisk :=
  let tabled := fun gpt =>
    put4 (disk.hdr gpt) partitionCrcOffset (Crc32.crc32 ((disk.pentryArr gpt).take disk.pentryArrSize))
  { disk with hdr := fun gpt => sealWith (get4 (tabled .primaryGpt) headerSizeOffset) (tabled gpt) }

/-- `gpt_set_header`. -/
def gptSetHeader (hdr : Bytes) (gpt : GptInstance) : DiskProg ℤ := do
  let d ← Prog.get
  if d.blkSize = 0 then pure (-1)
  else
    match headerOffset d gpt with
    | none => pure (-1)
    | some offset =>
      if offset = 0 then pure (-1)
      else do
        Prog.emit (offset, hdr.take d.blkSize)
        pure 0

/-- `gpt_set_pentry_arr`. -/
def gptSetPentryArr (hdr arr : Bytes) : DiskProg ℤ := do
  let d ← Prog.get
  if d.blkSize = 0 then pure (-1)
  else do
    Prog.emit (pentriesStart d.blkSize hdr, arr.take (pentriesSize hdr))
    pure 0

/-- Write back one copy, the header before the array. -/
def commitCopy (disk : GptDisk) (gpt : GptInstance) : DiskProg ℤ := do
  let r ← gptSetHeader (disk.hdr gpt) gpt
  if r ≠ 0 then pure (-1)
  else do
    let r ← gptSetPentryArr (disk.hdr gpt) (disk.pentryArr gpt)
    pure (if r ≠ 0 then -1 else 0)

/-- Write back both copies, the primary one first. -/
def commitCopies (disk : GptDisk) : DiskProg ℤ := do
  let r ← commitCopy disk .primaryGpt
  if r ≠ 0 then pure (-1)
  else commitCopy disk .secondaryGpt

/-- `gpt_disk_commit`. -/
def gptDiskCommit (disk : GptDisk) : StoreProg ℤ := onDevice disk.devpath (commitCopies disk)

end Cypfr.Gpt
