import Mathlib.Data.Nat.Bitwise

/-! # CRC-32

The checksum of zlib: reflected polynomial, all-ones start value and complemented result, one bit
at a time. A round can be undone, so two texts that differ in one byte have different checksums.
-/

namespace Crc32

def polynomial : ℕ := 0xEDB88320

def bitStep (crc : ℕ) : ℕ := if crc % 2 = 1 then crc / 2 ^^^ polynomial else crc / 2

def byteStep (crc : ℕ) (b : UInt8) : ℕ := bitStep^[8] (crc ^^^ b.toNat)

/-- `crc32(crc32(0, NULL, 0), bytes, length)`. -/
def crc32 (bytes : List UInt8) : ℕ := bytes.foldl byteStep 0xFFFFFFFF ^^^ 0xFFFFFFFF

theorem bitStep_lt {crc : ℕ} (bound : crc < 2 ^ 32) : bitStep crc < 2 ^ 32 := by
  unfold bitStep
  split_ifs
  · exact Nat.xor_lt_two_pow (by omega) (by decide)
  · omega

theorem iterate_bitStep_lt {crc : ℕ} (bound : crc < 2 ^ 32) (n : ℕ) : bitStep^[n] crc < 2 ^ 32 := by
  induction n generalizing crc with
  | zero => exact bound
  | succ n ih => exact ih (bitStep_lt bound)

theorem byte_lt (b : UInt8) : b.toNat < 2 ^ 32 := b.toNat_lt.trans (by decide)

theorem byteStep_lt {crc : ℕ} (bound : crc < 2 ^ 32) (b : UInt8) : byteStep crc b < 2 ^ 32 :=
  iterate_bitStep_lt (Nat.xor_lt_two_pow bound (byte_lt b)) 8

theorem foldl_lt (bytes : List UInt8) {crc : ℕ} (bound : crc < 2 ^ 32) : bytes.foldl byteStep crc < 2 ^ 32 := by
  induction bytes generalizing crc with
  | nil => exact bound
  | cons b rest ih => exact ih (byteStep_lt bound b)

theorem crc32_lt (bytes : List UInt8) : crc32 bytes < 2 ^ 32 :=
  Nat.xor_lt_two_pow (foldl_lt bytes (by decide)) (by decide)

example : crc32 [0x31, 0x32, 0x33, 0x34, 0x35, 0x36, 0x37, 0x38, 0x39] = 0xCBF43926 := by decide +kernel

/-- The top bit of a round tells which bit was shifted out. -/
theorem bitStep_injective {x y : ℕ} (left : x < 2 ^ 32) (right : y < 2 ^ 32) (same : bitStep x = bitStep y) :
    x = y := by
  have shifted {z : ℕ} (bound : z < 2 ^ 32) : (z / 2).testBit 31 = false :=
    Nat.testBit_lt_two_pow (by omega)
  have top := congrArg (Nat.testBit · 31) same
  have poly : polynomial.testBit 31 = true := by decide
  unfold bitStep at same top
  split_ifs at same top with oddX oddY oddY
  · have halves := Nat.xor_left_injective same
    omega
  · simp [shifted left, shifted right, poly] at top
  · simp [shifted left, shifted right, poly] at top
  · omega

theorem iterate_bitStep_injective (n : ℕ) {x y : ℕ} (left : x < 2 ^ 32) (right : y < 2 ^ 32)
    (same : bitStep^[n] x = bitStep^[n] y) : x = y := by
  induction n generalizing x y with
  | zero => exact same
  | succ n ih => exact bitStep_injective left right (ih (bitStep_lt left) (bitStep_lt right) same)

theorem foldl_injective (bytes : List UInt8) {x y : ℕ} (left : x < 2 ^ 32) (right : y < 2 ^ 32)
    (same : bytes.foldl byteStep x = bytes.foldl byteStep y) : x = y := by
  induction bytes generalizing x y with
  | nil => exact same
  | cons b rest ih =>
    have next := ih (byteStep_lt left b) (byteStep_lt right b) same
    exact Nat.xor_left_injective (iterate_bitStep_injective 8 (Nat.xor_lt_two_pow left (byte_lt b))
      (Nat.xor_lt_two_pow right (byte_lt b)) next)

/-- One changed byte changes the checksum. -/
theorem crc32_ne_of_byte {front rest : List UInt8} {b c : UInt8} (changed : b ≠ c) :
    crc32 (front ++ b :: rest) ≠ crc32 (front ++ c :: rest) := by
  intro same
  have bound := foldl_lt front (show 0xFFFFFFFF < 2 ^ 32 by decide)
  have whole := Nat.xor_left_injective same
  rw [List.foldl_append, List.foldl_append, List.foldl_cons, List.foldl_cons] at whole
  have steps := foldl_injective rest (byteStep_lt bound b) (byteStep_lt bound c) whole
  have bytes := Nat.xor_right_injective (iterate_bitStep_injective 8 (Nat.xor_lt_two_pow bound (byte_lt b))
    (Nat.xor_lt_two_pow bound (byte_lt c)) steps)
  exact changed (UInt8.toNat_inj.mp bytes)

end Crc32
