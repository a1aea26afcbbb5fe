import Cypfr.Machine.Journal
import Cypfr.Model.CString
import Cypfr.ToMathlib.ByteList
import Cypfr.ToMathlib.Crc32

/-! # Partition tables on a block device

A block device is its block size and its bytes. A GPT copy is a header block, which holds among
others the place, count and size of the partition entries, and the entry array; the primary header
is the second block of the device and the secondary header its last. This module has what both
users of `gpt-utils/gpt-utils.cpp` share: the byte macros, the search for an entry by name, and
the environment of links and boot LUNs. Reads and writes of the device succeed.
-/

namespace Cypfr.Gpt

open Journal

/-- `GPT_SIGNATURE`, which the code copies and compares with its terminating NUL. -/
def gptSignature : Bytes := ascii "EFI PART" ++ [0]

def headerSizeOffset : ℕ := 12
def headerCrcOffset : ℕ := 16
def pentriesOffset : ℕ := 72
def partitionCountOffset : ℕ := 80
def pentrySizeOffset : ℕ := 84
def partitionCrcOffset : ℕ := 88
def ptnEntrySize : ℕ := 128
def partitionNameOffset : ℕ := 56

/-- `GET_4_BYTES`. -/
def get4 (buf : Bytes) (off : ℕ) : ℕ := ByteList.leNat (ByteList.read buf off 4)

/-- `GET_8_BYTES`. -/
def get8 (buf : Bytes) (off : ℕ) : ℕ := ByteList.leNat (ByteList.read buf off 8)

/-- `PUT_4_BYTES`. -/
def put4 (buf : Bytes) (off y : ℕ) : Bytes := ByteList.write buf off (ByteList.leBytes 4 y)

structure BlockDevice where
  blkSize : ℕ
  bytes : Bytes
deriving DecidableEq

namespace BlockDevice

/-- `blk_rw` with the read flag. -/
def read (d : BlockDevice) (off len : ℕ) : Bytes := ByteList.read d.bytes off len

/-- `blk_rw` with the write flag. -/
def write (d : BlockDevice) (w : ℕ × Bytes) : BlockDevice := { d with bytes := ByteList.write d.bytes w.1 w.2 }

end BlockDevice

/-- Code that writes to one block device. -/
abbrev DiskProg := Prog BlockDevice.write

inductive GptInstance where
  | primaryGpt
  | secondaryGpt
deriving DecidableEq

/-- Where a header is: the second block, or `lseek64(fd, 0, SEEK_END) - blk_size` unless negative. -/
def headerOffset (d : BlockDevice) : GptInstance → Option ℕ
  | .primaryGpt => some d.blkSize
  | .secondaryGpt => if d.bytes.length < d.blkSize then none else some (d.bytes.length - d.blkSize)

/-- The byte offset of the entry array a header announces, a product in `uint64_t`. -/
def pentriesStart (blkSize : ℕ) (header : Bytes) : ℕ := get8 header pentriesOffset * blkSize % 2 ^ 64

/-- The size of the entry array a header announces, a product in `uint32_t`. -/
def pentriesSize (header : Bytes) : ℕ :=
  get4 header partitionCountOffset * get4 header pentrySizeOffset % 2 ^ 32

/-- The CRC of a header, computed with its CRC field cleared. -/
def headerCrc (header : Bytes) (size : ℕ) : ℕ := Crc32.crc32 ((put4 header headerCrcOffset 0).take size)

/-- The lower bytes of a UTF-16 partition name. -/
def name8 (name : Bytes) : Bytes := (List.range 36).map fun i => name.getD (2 * i) 0

/-- The test of `gpt_pentry_seek`: the name itself, or the name with the extension `bak`. -/
def nameMatches (ptnName name : Bytes) : Bool :=
  strncmpEq ptnName.length ptnName (name8 name) &&
    ((name8 name).getD ptnName.length 0 == 0 || strcmpEq ((name8 name).drop ptnName.length) (ascii "bak"))

/-- `gpt_pentry_seek` from the entry at `entry`: the offset of the first entry whose name matches. The
fuel is the size of the array, since every round moves on by an entry. -/
def gptPentrySeek (ptnName pentries : Bytes) (pentrySize : ℕ) : ℕ → ℕ → Option ℕ
  | 0, _ => none
  | fuel + 1, entry =>
    if entry + partitionNameOffset < pentries.length then
      if nameMatches ptnName (ByteList.read pentries (entry + partitionNameOffset) 72) then some entry
      else gptPentrySeek ptnName pentries pentrySize fuel (entry + pentrySize)
    else none

/-- `PTN_SWAP_LIST`. -/
def ptnSwapList : List String :=
  ["xbl", "xbl_config", "sbl1", "rpm", "tz", "aboot", "abl", "hyp", "lksecapp", "keymaster", "cmnlib", "cmnlib32",
    "cmnlib64", "pmic", "apdp", "devcfg", "hosd", "keystore", "msadp", "mdtp", "mdtpsecapp", "dsp", "aop", "qupfw",
    "vbmeta", "dtbo", "imagefv", "ImageFv", "multiimgoem", "multiimgqti", "uefisecapp", "shrm", "cpucp"]

inductive BootChain where
  | normalBoot
  | backupBoot
deriving DecidableEq

/-- What the code asks the system for: whether the boot device is UFS, the link targets under `by-name`,
and whether the boot LUN can be switched through a link's device. -/
structure Env where
  isUfs : Bool
  byName : String → Option String
  setBootLun : String → ℕ → Bool

namespace Env

/-- `stat` of a link under `by-name`. -/
def stat (env : Env) (name : String) : Bool := (env.byName name).isSome

/-- `gpt_utils_set_xbl_boot_partition`; the SCSI node lookup and the query belong to `setBootLun`. -/
def setXblBootPartition (env : Env) (chain : BootChain) : ℤ :=
  let bootDev :=
    match chain with
    | .backupBoot => if env.stat "xblbak" then some "xblbak" else if env.stat "xbl_b" then some "xbl_b" else none
    | .normalBoot => if env.stat "xbl" then some "xbl" else if env.stat "xbl_a" then some "xbl_a" else none
  let bootLunId := match chain with | .backupBoot => 2 | .normalBoot => 1
  match bootDev with
  | none => -1
  | some bootDev =>
    if (!env.stat "xbl" || !env.stat "xblbak") && (!env.stat "xbl_a" || !env.stat "xbl_b") then -1
    else if env.setBootLun bootDev bootLunId then 0 else -1

end Env

end Cypfr.Gpt
