import Cypfr.Proofs.GptTables

/-! # A formatted disk

A disk with a given entry array in both copies. It is well formed and both copies are usable, for
every block size and every array that fits in a block.
-/

namespace Cypfr.Gpt

open ByteList Regions

/-- A header of 92 bytes in a block, for an array at block `lba`. -/
def formatHeader (blkSize pentrySize lba : ℕ) (pentries : Bytes) : Bytes :=
  retableHeader (write (write (write (List.replicate blkSize 0) 0 gptSignature) headerSizeOffset (leBytes 4 92))
    pentriesOffset (leBytes 8 lba ++ (leBytes 4 (pentries.length / pentrySize) ++ leBytes 4 pentrySize))) pentries

/-- A disk of five blocks with two copies of an array: headers in blocks 1 and 4, arrays in 2 and 3. -/
def format (blkSize pentrySize : ℕ) (pentries : Bytes) : BlockDevice where
  blkSize := blkSize
  bytes := write (write (write (write (List.replicate (5 * blkSize) 0) blkSize (formatHeader blkSize pentrySize 2 pentries))
    (2 * blkSize) pentries) (3 * blkSize) pentries) (4 * blkSize) (formatHeader blkSize pentrySize 3 pentries)

/-- An entry with only a name, in UTF-16. -/
def namedEntry (size : ℕ) (name : String) : Bytes :=
  write (List.replicate size 0) partitionNameOffset ((ascii name).flatMap fun c => [c, 0])

@[simp] theorem length_namedEntry (size : ℕ) (name : String) : (namedEntry size name).length = size := by
  rw [namedEntry, length_write, List.length_replicate]

/-- The header fits in a block, and the array is a whole number of entries and fits in one too. -/
structure Formattable (blkSize pentrySize : ℕ) (pentries : Bytes) : Prop where
  block : 92 ≤ blkSize
  small : blkSize < 2 ^ 32
  entry : pentrySize ≤ blkSize
  whole : pentrySize ∣ pentries.length
  fits : pentries.length ≤ blkSize

variable {blkSize pentrySize lba : ℕ} {pentries : Bytes}

@[simp] theorem length_formatHeader : (formatHeader blkSize pentrySize lba pentries).length = blkSize := by
  simp [formatHeader]

theorem read_retable {h : Bytes} {o n : ℕ} (crc : headerCrcOffset + 4 ≤ o ∨ o + n ≤ headerCrcOffset)
    (table : partitionCrcOffset + 4 ≤ o ∨ o + n ≤ partitionCrcOffset) :
    read (retableHeader h pentries) o n = read h o n := by
  rw [retableHeader, read_sealHeader crc, read_put4 table]

theorem entries_formatHeader (block : 92 ≤ blkSize) :
    read (formatHeader blkSize pentrySize lba pentries) pentriesOffset 16 =
      leBytes 8 lba ++ (leBytes 4 (pentries.length / pentrySize) ++ leBytes 4 pentrySize) := by
  rw [formatHeader, read_retable (by decide) (by decide)]
  have back := read_write_same (write (write (List.replicate blkSize (0 : UInt8)) 0 gptSignature)
    headerSizeOffset (leBytes 4 92)) pentriesOffset
    (leBytes 8 lba ++ (leBytes 4 (pentries.length / pentrySize) ++ leBytes 4 pentrySize))
    (by simp [pentriesOffset]; omega)
  simpa using back

theorem pentriesStart_formatHeader (block : 92 ≤ blkSize) (small : lba * blkSize < 2 ^ 64) (lbaSmall : lba < 2 ^ 64) :
    pentriesStart blkSize (formatHeader blkSize pentrySize lba pentries) = lba * blkSize := by
  have field : get8 (formatHeader blkSize pentrySize lba pentries) pentriesOffset = lba := by
    rw [get8, ← Nat.add_zero pentriesOffset, ← read_read _ (show 0 + 8 ≤ 16 by decide), entries_formatHeader block]
    simp only [ByteList.read, List.drop_zero]
    rw [List.take_left' (by simp), leNat_leBytes]
    exact Nat.mod_eq_of_lt lbaSmall
  rw [pentriesStart, field, Nat.mod_eq_of_lt small]

theorem pentrySize_formatHeader (block : 92 ≤ blkSize) (small : pentrySize < 2 ^ 32) :
    get4 (formatHeader blkSize pentrySize lba pentries) pentrySizeOffset = pentrySize := by
  rw [get4, show pentrySizeOffset = pentriesOffset + 12 from rfl, ← read_read _ (show 12 + 4 ≤ 16 by decide),
    entries_formatHeader block, ByteList.read, ← List.append_assoc, List.drop_left' (by simp),
    List.take_of_length_le (by simp), leNat_leBytes]
  exact Nat.mod_eq_of_lt small

theorem pentriesSize_formatHeader (block : 92 ≤ blkSize) (entry : pentrySize < 2 ^ 32)
    (whole : pentrySize ∣ pentries.length) (small : pentries.length < 2 ^ 32) :
    pentriesSize (formatHeader blkSize pentrySize lba pentries) = pentries.length := by
  have count : get4 (formatHeader blkSize pentrySize lba pentries) partitionCountOffset =
      pentries.length / pentrySize := by
    rw [get4, show partitionCountOffset = pentriesOffset + 8 from rfl, ← read_read _ (show 8 + 4 ≤ 16 by decide),
      entries_formatHeader block, ByteList.read, List.drop_left' (by simp), List.take_left' (by simp), leNat_leBytes]
    exact Nat.mod_eq_of_lt (by have := Nat.div_le_self pentries.length pentrySize; omega)
  rw [pentriesSize, count, pentrySize_formatHeader block entry, Nat.div_mul_cancel whole, Nat.mod_eq_of_lt small]

theorem size_formatHeader (block : 92 ≤ blkSize) :
    get4 (formatHeader blkSize pentrySize lba pentries) headerSizeOffset = 92 := by
  rw [get4, formatHeader, read_retable (by decide) (by decide), read_write_disjoint (.inr (by decide))]
  have back := read_write_same (write (List.replicate blkSize (0 : UInt8)) 0 gptSignature)
    headerSizeOffset (leBytes 4 92) (by simp [headerSizeOffset]; omega)
  rw [length_leBytes] at back
  rw [back]
  decide

theorem sigOk_formatHeader (block : 92 ≤ blkSize) : SigOk (formatHeader blkSize pentrySize lba pentries) := by
  rw [formatHeader, sigOk_retable, sigOk_iff_read, read_write_disjoint (.inr (by decide)),
    read_write_disjoint (.inr (by decide))]
  have length : gptSignature.length = 9 := by decide
  exact read_write_same _ _ _ (by rw [List.length_replicate]; omega)

theorem length_format : (format blkSize pentrySize pentries).bytes.length = 5 * blkSize := by simp [format]

theorem primaryHeader_format :
    (format blkSize pentrySize pentries).primaryHeader = formatHeader blkSize pentrySize 2 pentries := by
  rw [BlockDevice.primaryHeader, BlockDevice.read]
  simp only [format]
  rw [read_write_disjoint (.inr (by omega)), read_write_disjoint (.inr (by omega)),
    read_write_disjoint (.inr (by omega))]
  have back := read_write_same (List.replicate (5 * blkSize) (0 : UInt8)) blkSize
    (formatHeader blkSize pentrySize 2 pentries) (by simp; omega)
  rwa [length_formatHeader] at back

theorem secondaryHeader_format : (format blkSize pentrySize pentries).secondaryHeader =
    formatHeader blkSize pentrySize 3 pentries := by
  have offset : 5 * blkSize - blkSize = 4 * blkSize := by omega
  rw [BlockDevice.secondaryHeader, BlockDevice.read, length_format]
  simp only [format, offset]
  have back := read_write_same (write (write (write (List.replicate (5 * blkSize) (0 : UInt8)) blkSize
    (formatHeader blkSize pentrySize 2 pentries)) (2 * blkSize) pentries) (3 * blkSize) pentries) (4 * blkSize)
    (formatHeader blkSize pentrySize 3 pentries) (by simp; omega)
  rwa [length_formatHeader] at back

/-- The regions of a formatted disk are the blocks 1 to 4. -/
theorem layout_format (ok : Formattable blkSize pentrySize pentries) :
    (format blkSize pentrySize pentries).layout =
      { off := fun
          | .primaryHeader => blkSize
          | .primaryArray => 2 * blkSize
          | .secondaryHeader => 4 * blkSize
          | .secondaryArray => 3 * blkSize
        len := fun
          | .primaryHeader => blkSize
          | .primaryArray => pentries.length
          | .secondaryHeader => blkSize
          | .secondaryArray => pentries.length } := by
  have ⟨block, small, entry, whole, fits⟩ := ok
  have offset : 5 * blkSize - blkSize = 4 * blkSize := by omega
  have size (lba : ℕ) : pentriesSize (formatHeader blkSize pentrySize lba pentries) = pentries.length :=
    pentriesSize_formatHeader block (by omega) whole (by omega)
  have primary : pentriesStart blkSize (formatHeader blkSize pentrySize 2 pentries) = 2 * blkSize :=
    pentriesStart_formatHeader block (by omega) (by decide)
  have secondary : pentriesStart blkSize (formatHeader blkSize pentrySize 3 pentries) = 3 * blkSize :=
    pentriesStart_formatHeader block (by omega) (by decide)
  apply congrArg₂ Layout.mk
  · funext r
    cases r with
    | primaryHeader => rfl
    | primaryArray => exact (congrArg (pentriesStart blkSize) primaryHeader_format).trans primary
    | secondaryHeader => exact (congrArg (· - blkSize) length_format).trans offset
    | secondaryArray => exact (congrArg (pentriesStart blkSize) secondaryHeader_format).trans secondary
  · funext r
    cases r with
    | primaryArray => exact (congrArg pentriesSize primaryHeader_format).trans (size 2)
    | secondaryArray => exact (congrArg pentriesSize secondaryHeader_format).trans (size 3)
    | _ => rfl

theorem wellFormed_format (ok : Formattable blkSize pentrySize pentries) :
    (format blkSize pentrySize pentries).WellFormed := by
  have layout := layout_format ok
  have ⟨block, small, entry, whole, fits⟩ := ok
  refine ⟨block, ?_, ?_, ?_, ?_⟩
  · rw [primaryHeader_format, size_formatHeader block]; exact block
  · rw [secondaryHeader_format, size_formatHeader block]; exact block
  · rw [primaryHeader_format, secondaryHeader_format, pentriesSize_formatHeader block (by omega) whole (by omega),
      pentriesSize_formatHeader block (by omega) whole (by omega)]
  · rw [layout, length_format]
    constructor
    · intro r
      cases r <;> simp only <;> omega
    · intro r s apart
      cases r <;> cases s <;> first | exact absurd rfl apart | (simp only; omega)

theorem array_format (ok : Formattable blkSize pentrySize pentries) (gpt : GptInstance) :
    (format blkSize pentrySize pentries).tables gpt.array = pentries := by
  have layout := layout_format ok
  have ⟨block, small, entry, whole, fits⟩ := ok
  rw [BlockDevice.tables, layout]
  cases gpt with
  | primaryGpt =>
    simp only [Layout.view, GptInstance.array, format]
    rw [read_write_disjoint (.inr (by omega)), read_write_disjoint (.inr (by omega))]
    exact read_write_same _ _ _ (by simp; omega)
  | secondaryGpt =>
    simp only [Layout.view, GptInstance.array, format]
    rw [read_write_disjoint (.inr (by omega))]
    exact read_write_same _ _ _ (by simp; omega)

theorem header_format (blkSize pentrySize : ℕ) (pentries : Bytes) (gpt : GptInstance) :
    ∃ lba, (format blkSize pentrySize pentries).tables gpt.header = formatHeader blkSize pentrySize lba pentries := by
  cases gpt with
  | primaryGpt => exact ⟨2, primaryHeader_format⟩
  | secondaryGpt => exact ⟨3, secondaryHeader_format⟩

/-- Both copies of a formatted disk are usable. -/
theorem usable_format (ok : Formattable blkSize pentrySize pentries) (gpt : GptInstance) :
    usable (format blkSize pentrySize pentries) gpt = true := by
  rw [usable_iff (wellFormed_format ok)]
  have array := array_format ok gpt
  have block : 92 ≤ blkSize := ok.block
  obtain ⟨lba, header⟩ := header_format blkSize pentrySize pentries gpt
  refine ⟨?_, ?_, ?_⟩
  · rw [header]; exact crcOk_retable (by simpa using block) pentries
  · rw [header]; exact sigOk_formatHeader block
  · rw [header, array]; exact partitionCrc_retable (by simpa using block) pentries

end Cypfr.Gpt
