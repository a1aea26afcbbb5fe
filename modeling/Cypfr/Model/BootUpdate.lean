import Cypfr.Model.Gpt

/-! # The fail-safe boot update

`prepare_partitions` takes a disk through the three stages of a boot update. UPDATE_MAIN rewrites
the secondary table so that it points to the backup images and corrupts the primary signature;
UPDATE_BACKUP repairs the primary header and corrupts the secondary one; UPDATE_FINALIZE rewrites
the secondary table from the primary array. Which stage a disk is in is derived from the state of
its two headers. The translation follows `gpt-utils/gpt-utils.cpp`.
-/

namespace Cypfr.Gpt

open Journal

inductive GptState where
  | gptOk
  | gptBadSignature
  | gptBadCrc
deriving DecidableEq

inductive BootUpdateStage where
  | updateMain
  | updateBackup
  | updateFinalize
deriving DecidableEq

def BootUpdateStage.toInt : BootUpdateStage → ℤ
  | .updateMain => 1
  | .updateBackup => 2
  | .updateFinalize => 3

/-- Exchange two entries through a temporary copy. -/
def swapEntries (pentries : Bytes) (entry bakEntry : ℕ) : Bytes :=
  let ptnSwap := ByteList.read pentries entry ptnEntrySize
  ByteList.write (ByteList.write pentries entry (ByteList.read pentries bakEntry ptnEntrySize)) bakEntry ptnSwap

/-- One round of `gpt_boot_chain_swap`; the flag is `backup_not_found`. -/
def swapRound (isUfs : Bool) (pentrySize : ℕ) (found : Bool × Bytes) (ptnName : String) : Bool × Bytes :=
  if isUfs && strncmpEq 3 (ascii ptnName) (ascii "xbl") then found
  else
    match gptPentrySeek (ascii ptnName) found.2 pentrySize found.2.length 0 with
    | none => found
    | some entry =>
      match gptPentrySeek (ascii ptnName) found.2 pentrySize found.2.length (entry + pentrySize) with
      | none => found
      | some bakEntry => (false, swapEntries found.2 entry bakEntry)

/-- `gpt_boot_chain_swap`: whether no backup was found, and the array it leaves. -/
def gptBootChainSwap (isUfs : Bool) (pentries : Bytes) (pentrySize : ℕ) : Bool × Bytes :=
  ptnSwapList.foldl (swapRound isUfs pentrySize) (true, pentries)

/-- Put a fresh CRC into a header. -/
def sealHeader (header : Bytes) : Bytes :=
  put4 (put4 header headerCrcOffset 0) headerCrcOffset (headerCrc header (get4 header headerSizeOffset))

/-- The array for the secondary table: swapped for the backup boot chain only. -/
def chainArray (isUfs : Bool) (boot : BootChain) (pentries : Bytes) (pentrySize : ℕ) : Bool × Bytes :=
  match boot with
  | .backupBoot => gptBootChainSwap isUfs pentries pentrySize
  | .normalBoot => (false, pentries)

/-- `gpt2_set_boot_chain`. -/
def gpt2SetBootChain (isUfs : Bool) (boot : BootChain) : DiskProg ℤ := do
  let d ← Prog.get
  match headerOffset d .secondaryGpt with
  | none => pure (-1)
  | some gpt2HeaderOffset =>
    let primary := d.read d.blkSize d.blkSize
    let pentries := d.read (pentriesStart d.blkSize primary) (pentriesSize primary)
    if get4 primary partitionCrcOffset ≠ Crc32.crc32 pentries then pure (-1)
    else
      let gptHeader := d.read gpt2HeaderOffset d.blkSize
      let swapped := chainArray isUfs boot pentries (get4 primary pentrySizeOffset)
      if swapped.1 then pure 1
      else do
        Prog.emit (gpt2HeaderOffset,
          sealHeader (put4 gptHeader partitionCrcOffset (Crc32.crc32 swapped.2)))
        Prog.emit (pentriesStart d.blkSize gptHeader, swapped.2)
        pure 0

/-- The state of a header: a bad CRC hides a bad signature. -/
def headerState (header : Bytes) : GptState :=
  if headerCrc header (get4 header headerSizeOffset) ≠ get4 header headerCrcOffset then .gptBadCrc
  else if header.take gptSignature.length ≠ gptSignature then .gptBadSignature
  else .gptOk

/-- `gpt_get_state`. -/
def gptGetState (d : BlockDevice) (gpt : GptInstance) : Option GptState :=
  (headerOffset d gpt).map fun offset => headerState (d.read offset d.blkSize)

/-- `gpt_set_state` for the two states it accepts. -/
def gptSetState (gpt : GptInstance) (ok : Bool) : DiskProg ℤ := do
  let d ← Prog.get
  match headerOffset d gpt with
  | none => pure (-1)
  | some offset => do
    let gptHeader := d.read offset d.blkSize
    Prog.emit (offset,
      sealHeader (if ok then ByteList.write gptHeader 0 gptSignature else ByteList.write gptHeader 0 [0]))
    pure 0

/-- The boot LUN switch of the first two stages. Without both XBL links the target uses SBL. -/
def switchXbl (env : Env) (chain : BootChain) : ℤ :=
  if env.isUfs && env.stat "xbl" && env.stat "xblbak" then env.setXblBootPartition chain else 0

/-- The work of one stage, once it is the disk's turn. -/
def runStage (env : Env) : BootUpdateStage → DiskProg ℤ
  | .updateMain =>
    if switchXbl env .backupBoot ≠ 0 then pure (switchXbl env .backupBoot)
    else do
      let r ← gpt2SetBootChain env.isUfs .backupBoot
      if r ≠ 0 then pure (if r < 0 then r else 0)
      else gptSetState .primaryGpt false
  | .updateBackup =>
    if switchXbl env .normalBoot ≠ 0 then pure (switchXbl env .normalBoot)
    else do
      let r ← gptSetState .primaryGpt true
      if r ≠ 0 then pure r
      else gptSetState .secondaryGpt false
  | .updateFinalize => do
    let r ← gpt2SetBootChain env.isUfs .normalBoot
    if r < 0 then pure r
    else gptSetState .secondaryGpt true

/-- The stage a disk is in, from the states of its headers. -/
def internalStage : GptState → GptState → Option BootUpdateStage
  | .gptBadCrc, _ => none
  | _, .gptBadCrc => none
  | .gptBadSignature, .gptBadSignature => none
  | .gptOk, .gptOk => some .updateMain
  | .gptBadSignature, .gptOk => some .updateBackup
  | .gptOk, .gptBadSignature => some .updateFinalize

/-- `prepare_partitions` on an open device. -/
def preparePartitions (env : Env) (stage : BootUpdateStage) : DiskProg ℤ := do
  let d ← Prog.get
  match gptGetState d .primaryGpt, gptGetState d .secondaryGpt with
  | some gptPrim, some gptSecond =>
    match internalStage gptPrim gptSecond with
    | none => pure (-1)
    | some internal =>
      if stage.toInt = internal.toInt - 1 then pure 0
      else if stage ≠ internal then pure (-1)
      else runStage env stage
  | _, _ => pure 1

end Cypfr.Gpt
