import Cypfr.Model.BootUpdate

/-! # Header algebra

Sealing a header writes the CRC of everything else, so it forgets the old CRC field, commutes with
changes elsewhere and leaves a correctly sealed header alone. The four ways in which the code
rewrites a header are all a change followed by a seal.
-/

namespace Cypfr.Gpt

open ByteList

@[simp] theorem length_put4 (h : Bytes) (off y : ℕ) : (put4 h off y).length = h.length := length_write ..

theorem read_put4 {h : Bytes} {off o n y : ℕ} (apart : off + 4 ≤ o ∨ o + n ≤ off) :
    read (put4 h off y) o n = read h o n :=
  read_write_disjoint (by simpa using apart)

theorem get4_put4_same {h : Bytes} {o y : ℕ} (inside : o + 4 ≤ h.length) (bound : y < 2 ^ 32) :
    get4 (put4 h o y) o = y := by
  have back := read_write_same h o (leBytes 4 y) (by simpa using inside)
  rw [length_leBytes] at back
  rw [get4, put4, back, leNat_leBytes]
  exact Nat.mod_eq_of_lt bound

theorem put4_put4_same (h : Bytes) (off x y : ℕ) : put4 (put4 h off x) off y = put4 h off y :=
  write_write_same h off (by simp)

theorem put4_get4 {h : Bytes} {o : ℕ} (inside : o + 4 ≤ h.length) : put4 h o (get4 h o) = h := by
  have length := length_read_of_le inside
  have bytes := leBytes_leNat (read h o 4)
  rw [length] at bytes
  rw [put4, get4, bytes, write_read]

/-- The header carries the CRC of its contents. -/
def CrcOk (h : Bytes) : Prop := headerCrc h (get4 h headerSizeOffset) = get4 h headerCrcOffset

/-- The header begins with the signature. -/
def SigOk (h : Bytes) : Prop := h.take gptSignature.length = gptSignature

instance : DecidablePred SigOk := fun h => inferInstanceAs (Decidable (h.take gptSignature.length = gptSignature))

theorem headerState_eq {h : Bytes} (crcOk : CrcOk h) :
    headerState h = if SigOk h then .gptOk else .gptBadSignature := by
  have crc : headerCrc h (get4 h headerSizeOffset) = get4 h headerCrcOffset := crcOk
  unfold headerState SigOk
  rw [if_neg (not_not_intro crc), ite_not]
  rfl

theorem headerState_eq_ok {h : Bytes} : headerState h = .gptOk ↔ CrcOk h ∧ SigOk h := by
  by_cases crcOk : CrcOk h
  · rw [headerState_eq crcOk]
    by_cases sig : SigOk h <;> simp [sig, crcOk]
  · have bad : headerState h = .gptBadCrc := if_pos crcOk
    simp [bad, crcOk]

section Seal

@[simp] theorem length_sealHeader (h : Bytes) : (sealHeader h).length = h.length := by simp [sealHeader]

theorem read_sealHeader {h : Bytes} {o n : ℕ} (apart : headerCrcOffset + 4 ≤ o ∨ o + n ≤ headerCrcOffset) :
    read (sealHeader h) o n = read h o n := by
  rw [sealHeader, read_put4 apart, read_put4 apart]

theorem get4_sealHeader {h : Bytes} {o : ℕ} (apart : headerCrcOffset + 4 ≤ o ∨ o + 4 ≤ headerCrcOffset) :
    get4 (sealHeader h) o = get4 h o := by
  rw [get4, read_sealHeader apart, get4]

theorem clear_sealHeader (h : Bytes) : put4 (sealHeader h) headerCrcOffset 0 = put4 h headerCrcOffset 0 := by
  rw [sealHeader, put4_put4_same, put4_put4_same]

theorem crcOk_sealHeader {h : Bytes} (inside : headerCrcOffset + 4 ≤ h.length) : CrcOk (sealHeader h) := by
  have size : get4 (sealHeader h) headerSizeOffset = get4 h headerSizeOffset := get4_sealHeader (by decide)
  have stored : get4 (sealHeader h) headerCrcOffset = headerCrc h (get4 h headerSizeOffset) :=
    get4_put4_same (by simpa using inside) (Crc32.crc32_lt _)
  rw [CrcOk, size, stored, headerCrc, clear_sealHeader, headerCrc]

/-- A seal depends only on what surrounds the CRC field. -/
theorem sealHeader_congr {h h' : Bytes} (same : put4 h headerCrcOffset 0 = put4 h' headerCrcOffset 0) :
    sealHeader h = sealHeader h' := by
  have size : get4 h headerSizeOffset = get4 h' headerSizeOffset := by
    have fields := congrArg (fun x => get4 x headerSizeOffset) same
    simp only [get4] at fields ⊢
    rw [read_put4 (by decide), read_put4 (by decide)] at fields
    exact fields
  rw [sealHeader, sealHeader, headerCrc, headerCrc, same, size]

theorem sealHeader_of_crcOk {h : Bytes} (inside : headerCrcOffset + 4 ≤ h.length) (crcOk : CrcOk h) :
    sealHeader h = h := by
  rw [sealHeader, crcOk, put4_put4_same, put4_get4 inside]

/-- A change away from the CRC field may be made before or after a seal. -/
theorem sealHeader_write_sealHeader {h new : Bytes} {o : ℕ}
    (apart : headerCrcOffset + 4 ≤ o ∨ o + new.length ≤ headerCrcOffset) :
    sealHeader (write (sealHeader h) o new) = sealHeader (write h o new) := by
  apply sealHeader_congr
  have move (x : Bytes) : put4 (write x o new) headerCrcOffset 0 = write (put4 x headerCrcOffset 0) o new := by
    rw [put4, put4]
    exact write_comm x (by simp only [length_leBytes]; omega)
  rw [move, move, clear_sealHeader]

end Seal

/-- The header with its first byte cleared. -/
def corruptHeader (h : Bytes) : Bytes := sealHeader (write h 0 [0])

/-- The header with the signature put back. -/
def restoreHeader (h : Bytes) : Bytes := sealHeader (write h 0 gptSignature)

/-- The header with the CRC of a new entry array. -/
def retableHeader (h pentries : Bytes) : Bytes := sealHeader (put4 h partitionCrcOffset (Crc32.crc32 pentries))

section Rewrites

variable {h : Bytes}

theorem sigOk_iff_read : SigOk h ↔ read h 0 gptSignature.length = gptSignature := by
  simp [SigOk, ByteList.read]

theorem not_sigOk_corrupt (inside : 92 ≤ h.length) : ¬ SigOk (corruptHeader h) := by
  rw [sigOk_iff_read, corruptHeader, read_sealHeader (by decide)]
  intro signed
  have first := congrArg (fun l => l[0]?) signed
  rw [getElem?_read, if_pos (by decide), getElem?_write, if_pos ⟨by omega, by simp, by omega⟩] at first
  exact absurd first (by decide)

theorem sigOk_restore (inside : 92 ≤ h.length) : SigOk (restoreHeader h) := by
  rw [sigOk_iff_read, restoreHeader, read_sealHeader (by decide)]
  have length : gptSignature.length = 9 := by decide
  exact read_write_same _ _ _ (by omega)

theorem sigOk_retable {pentries : Bytes} : SigOk (retableHeader h pentries) ↔ SigOk h := by
  rw [sigOk_iff_read, sigOk_iff_read, retableHeader, read_sealHeader (by decide), read_put4 (by decide)]

theorem crcOk_corrupt (inside : 92 ≤ h.length) : CrcOk (corruptHeader h) :=
  crcOk_sealHeader (by rw [length_write]; exact le_trans (by decide) inside)

theorem crcOk_restore (inside : 92 ≤ h.length) : CrcOk (restoreHeader h) :=
  crcOk_sealHeader (by rw [length_write]; exact le_trans (by decide) inside)

theorem crcOk_retable (inside : 92 ≤ h.length) (pentries : Bytes) : CrcOk (retableHeader h pentries) :=
  crcOk_sealHeader (by rw [length_put4]; exact le_trans (by decide) inside)

@[simp] theorem partitionCrc_corrupt :
    get4 (corruptHeader h) partitionCrcOffset = get4 h partitionCrcOffset := by
  rw [corruptHeader, get4_sealHeader (by decide), get4, read_write_disjoint (by decide), get4]

@[simp] theorem partitionCrc_restore :
    get4 (restoreHeader h) partitionCrcOffset = get4 h partitionCrcOffset := by
  rw [restoreHeader, get4_sealHeader (by decide), get4, read_write_disjoint (by decide), get4]

theorem partitionCrc_retable (inside : 92 ≤ h.length) (pentries : Bytes) :
    get4 (retableHeader h pentries) partitionCrcOffset = Crc32.crc32 pentries := by
  rw [retableHeader, get4_sealHeader (by decide), get4_put4_same (o := partitionCrcOffset) inside (Crc32.crc32_lt _)]

@[simp] theorem length_corrupt : (corruptHeader h).length = h.length := by simp [corruptHeader]

@[simp] theorem length_restore : (restoreHeader h).length = h.length := by simp [restoreHeader]

@[simp] theorem length_retable {pentries : Bytes} : (retableHeader h pentries).length = h.length := by
  simp [retableHeader]

/-- Only the last entry array counts. -/
theorem retable_retable (first second : Bytes) :
    retableHeader (retableHeader h first) second = retableHeader h second := by
  rw [retableHeader, retableHeader, put4, sealHeader_write_sealHeader (by simp; decide), ← put4, put4_put4_same,
    retableHeader]

/-- Putting the signature back undoes its corruption. -/
theorem restore_corrupt (inside : 92 ≤ h.length) (crcOk : CrcOk h) (sigOk : SigOk h) :
    restoreHeader (corruptHeader h) = h := by
  have signed : write h 0 gptSignature = h := write_eq_self (sigOk_iff_read.mp sigOk)
  have twice : write (write h 0 [0]) 0 gptSignature = write h 0 gptSignature := by
    apply List.ext_getElem?
    intro i
    rw [getElem?_write, getElem?_write, getElem?_write, length_write]
    have length : gptSignature.length = 9 := by decide
    split_ifs with inner outer
    · rfl
    · simp only [List.length_singleton] at outer; omega
    · rfl
  rw [restoreHeader, corruptHeader, sealHeader_write_sealHeader (by decide), twice, signed,
    sealHeader_of_crcOk (le_trans (by decide) inside) crcOk]

theorem retable_corrupt (pentries : Bytes) :
    retableHeader (corruptHeader h) pentries = corruptHeader (retableHeader h pentries) := by
  rw [retableHeader, corruptHeader, put4, sealHeader_write_sealHeader (by simp; decide), corruptHeader, retableHeader,
    put4, sealHeader_write_sealHeader (by decide), write_comm h (.inl (by decide))]

theorem retable_self (inside : 92 ≤ h.length) (crcOk : CrcOk h) {pentries : Bytes}
    (table : get4 h partitionCrcOffset = Crc32.crc32 pentries) : retableHeader h pentries = h := by
  rw [retableHeader, ← table, put4_get4 (o := partitionCrcOffset) inside,
    sealHeader_of_crcOk (le_trans (by decide) inside) crcOk]

/-- A header that went through a swap, a corruption and the way back is the old one. -/
theorem restore_retable_corrupt_retable (inside : 92 ≤ h.length) (crcOk : CrcOk h) (sigOk : SigOk h)
    (pentries : Bytes) (table : get4 h partitionCrcOffset = Crc32.crc32 pentries) (swapped : Bytes) :
    restoreHeader (retableHeader (corruptHeader (retableHeader h swapped)) pentries) = h := by
  rw [retable_corrupt, retable_retable, retable_self inside crcOk table, restore_corrupt inside crcOk sigOk]

end Rewrites

/-- Two headers that announce the same entries and the same header size. -/
structure SameGeometry (h h' : Bytes) : Prop where
  length : h.length = h'.length
  size : read h headerSizeOffset 4 = read h' headerSizeOffset 4
  entries : read h pentriesOffset 16 = read h' pentriesOffset 16

namespace SameGeometry

variable {h h' h'' : Bytes}

theorem refl (h : Bytes) : SameGeometry h h := ⟨rfl, rfl, rfl⟩

theorem symm (same : SameGeometry h h') : SameGeometry h' h :=
  ⟨same.length.symm, same.size.symm, same.entries.symm⟩

theorem trans (first : SameGeometry h h') (second : SameGeometry h' h'') : SameGeometry h h'' :=
  ⟨first.length.trans second.length, first.size.trans second.size, first.entries.trans second.entries⟩

theorem get4_eq (same : SameGeometry h h') {o : ℕ} (inside : o + 4 ≤ 16) :
    get4 h (pentriesOffset + o) = get4 h' (pentriesOffset + o) := by
  rw [get4, get4, ← read_read h inside, ← read_read h' inside, same.entries]

theorem headerSize (same : SameGeometry h h') : get4 h headerSizeOffset = get4 h' headerSizeOffset :=
  congrArg leNat same.size

theorem pentrySize (same : SameGeometry h h') : get4 h pentrySizeOffset = get4 h' pentrySizeOffset :=
  same.get4_eq (o := 12) (by decide)

theorem pentriesSize (same : SameGeometry h h') : pentriesSize h = pentriesSize h' := by
  have count : get4 h partitionCountOffset = get4 h' partitionCountOffset := same.get4_eq (o := 8) (by decide)
  rw [Gpt.pentriesSize, Gpt.pentriesSize, count, same.pentrySize]

theorem pentriesStart (same : SameGeometry h h') (blkSize : ℕ) :
    pentriesStart blkSize h = pentriesStart blkSize h' := by
  have lba : get8 h pentriesOffset = get8 h' pentriesOffset := by
    rw [get8, get8, ← Nat.add_zero pentriesOffset, ← read_read h (show 0 + 8 ≤ 16 by decide),
      ← read_read h' (show 0 + 8 ≤ 16 by decide), same.entries]
  rw [Gpt.pentriesStart, Gpt.pentriesStart, lba]

end SameGeometry

theorem sameGeometry_seal (h : Bytes) : SameGeometry (sealHeader h) h :=
  ⟨length_sealHeader h, read_sealHeader (by decide), read_sealHeader (by decide)⟩

theorem sameGeometry_corrupt (h : Bytes) : SameGeometry (corruptHeader h) h :=
  (sameGeometry_seal _).trans ⟨length_write .., read_write_disjoint (by decide), read_write_disjoint (by decide)⟩

theorem sameGeometry_restore (h : Bytes) : SameGeometry (restoreHeader h) h :=
  (sameGeometry_seal _).trans ⟨length_write .., read_write_disjoint (by decide), read_write_disjoint (by decide)⟩

theorem sameGeometry_retable (h pentries : Bytes) : SameGeometry (retableHeader h pentries) h :=
  (sameGeometry_seal _).trans ⟨length_put4 .., read_put4 (by decide), read_put4 (by decide)⟩

end Cypfr.Gpt
