import Cypfr.ToMathlib.Decimal

/-! # C string functions

The C library calls that the modelled code makes on its buffers. A buffer is the list of its bytes;
everything behind them reads as NUL, as in the zero-filled arrays and strings that hold them.
-/

namespace Cypfr

abbrev Bytes := List UInt8

def ascii (text : String) : Bytes := text.toList.map fun c => UInt8.ofNat c.toNat

def strlen (s : Bytes) : ℕ := (s.takeWhile (· != 0)).length

/-- What `strlcpy` puts into a buffer of `size` bytes. -/
def strlcpy (s : Bytes) (size : ℕ) : Bytes := (s.takeWhile (· != 0)).take (size - 1)

/-- `strncmp(a, b, n) == 0`. -/
def strncmpEq : ℕ → Bytes → Bytes → Bool
  | 0, _, _ => true
  | n + 1, a, b => a.headD 0 == b.headD 0 && (a.headD 0 == 0 || strncmpEq n a.tail b.tail)

/-- `strcmp(a, b) == 0`. -/
def strcmpEq (a b : Bytes) : Bool := strncmpEq (a.length + b.length + 1) a b

def isSpace (b : UInt8) : Bool := b == 32 || (9 ≤ b.toNat && b.toNat ≤ 13)

/-- `strtoull` in base ten, which saturates, before the sign is applied. -/
def scanDigits (s : Bytes) : ℕ := min (Decimal.value (s.takeWhile Decimal.isDigit)) (2 ^ 64 - 1)

/-- `size_t v = 0; sscanf(s, "%zu", &v)`. A string without digits leaves `v` alone. -/
def scanZu (s : Bytes) : ℕ :=
  match s.dropWhile isSpace with
  | 45 :: rest => (2 ^ 64 - scanDigits rest) % 2 ^ 64
  | 43 :: rest => scanDigits rest
  | rest => scanDigits rest

end Cypfr
