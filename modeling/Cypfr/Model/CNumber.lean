import Cypfr.Model.CString
import Mathlib.Algebra.Group.Nat.Defs

/-! # C number functions

`strtol`, `strtoull`, `atoi` and the `%d` of `sscanf` on a string, with 64 bits of a `long` and 32 of an
`int`, and `std::to_string`, which writes an `int`.
-/

namespace Cypfr

/-- The value of a digit or a letter. -/
def digitValue (b : UInt8) : ℕ :=
  if 48 ≤ b.toNat ∧ b.toNat ≤ 57 then b.toNat - 48
  else if 65 ≤ b.toNat ∧ b.toNat ≤ 90 then b.toNat - 55
  else if 97 ≤ b.toNat ∧ b.toNat ≤ 122 then b.toNat - 87
  else 36

/-- The value of the digits a string begins with. -/
def digitsValue (base : ℕ) : Bytes → ℕ → ℕ
  | [], value => value
  | b :: rest, value =>
    if digitValue b < base then digitsValue base rest (value * base + digitValue b) else value

/-- What a number in base 16 may begin with. -/
def skipHexPrefix : Bytes → Bytes
  | 48 :: x :: b :: rest => if (x = 120 ∨ x = 88) ∧ digitValue b < 16 then b :: rest else 48 :: x :: b :: rest
  | s => s

/-- The sign and the size of the number a string begins with. -/
def scanNumber (base : ℕ) (s : Bytes) : Bool × ℕ :=
  let digits (s : Bytes) := digitsValue base (if base = 16 then skipHexPrefix s else s) 0
  match s.dropWhile isSpace with
  | 45 :: rest => (true, digits rest)
  | 43 :: rest => (false, digits rest)
  | rest => (false, digits rest)

/-- `strtol`. -/
def strtol (base : ℕ) (s : Bytes) : Int64 :=
  let (negative, size) := scanNumber base s
  if negative then Int64.ofInt (-(min size (2 ^ 63) : ℕ)) else Int64.ofInt (min size (2 ^ 63 - 1) : ℕ)

/-- `strtoull`. -/
def strtoull (base : ℕ) (s : Bytes) : UInt64 :=
  let (negative, size) := scanNumber base s
  if 2 ^ 64 ≤ size then UInt64.ofNat (2 ^ 64 - 1) else if negative then -UInt64.ofNat size else UInt64.ofNat size

/-- `atoi`, which cuts `strtol` to an `int`. -/
def atoi (s : Bytes) : Int32 := (strtol 10 s).toInt32

/-- What stands behind the sign of a number. -/
def skipSign : Bytes → Bytes
  | 45 :: rest => rest
  | 43 :: rest => rest
  | s => s

/-- `%d` of `sscanf`: the number and what stands behind it. Where there is no number the directive fails. -/
def scanD (s : Bytes) : Option (Int32 × Bytes) :=
  let digits := skipSign (s.dropWhile isSpace)
  if digits.takeWhile Decimal.isDigit = [] then none else some (atoi s, digits.dropWhile Decimal.isDigit)

/-- `std::to_string`. -/
def stdToString (i : Int32) : Bytes :=
  if i.toInt < 0 then 45 :: Decimal.numeral i.toInt.natAbs else Decimal.numeral i.toInt.natAbs

example : atoi (ascii " -42,7") = -42 ∧ strtol 16 (ascii "0x1F") = 31 ∧ strtoull 10 (ascii "7") = 7 := by decide

end Cypfr
