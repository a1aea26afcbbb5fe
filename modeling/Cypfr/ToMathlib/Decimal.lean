import Mathlib.Data.Nat.Digits.Lemmas

/-! # Decimal numerals as bytes

Numbers written in ASCII digits, most significant first, and the value of a string of digits. The
numeral of a number is read back as that number and no string of digits with the same value is
shorter.
-/

namespace Decimal

/-- The ASCII code of a digit. -/
def digitByte (d : ℕ) : UInt8 := UInt8.ofNat (48 + d)

def isDigit (b : UInt8) : Bool := 48 ≤ b.toNat && b.toNat ≤ 57

/-- The numeral of `n`. -/
def numeral (n : ℕ) : List UInt8 := if n = 0 then [48] else (Nat.digits 10 n).reverse.map digitByte

/-- The value of a string of digits. -/
def value (digits : List UInt8) : ℕ := digits.foldl (fun acc b => 10 * acc + (b.toNat - 48)) 0

theorem digitByte_toNat {d : ℕ} (digit : d < 10) : (digitByte d).toNat = 48 + d := by
  simp only [digitByte, UInt8.toNat_ofNat']
  omega

theorem isDigit_numeral (n : ℕ) : ∀ b ∈ numeral n, isDigit b = true := by
  intro b member
  unfold numeral at member
  split_ifs at member with zero
  · obtain rfl := List.mem_singleton.mp member
    decide
  · obtain ⟨d, digit, rfl⟩ := List.mem_map.mp member
    have bound := Nat.digits_lt_base (by norm_num) (List.mem_reverse.mp digit)
    simp [isDigit, digitByte_toNat bound]
    omega

theorem numeral_ne_nil (n : ℕ) : numeral n ≠ [] := by
  unfold numeral
  split_ifs with zero
  · simp
  · simpa using Nat.digits_ne_nil_iff_ne_zero.mpr zero

theorem foldl_digitByte (ds : List ℕ) (digit : ∀ d ∈ ds, d < 10) (acc : ℕ) :
    (ds.map digitByte).foldl (fun acc b => 10 * acc + (b.toNat - 48)) acc =
      ds.foldl (fun acc d => d + 10 * acc) acc := by
  induction ds generalizing acc with
  | nil => rfl
  | cons d rest ih =>
    have here := digitByte_toNat (digit d List.mem_cons_self)
    rw [List.map_cons, List.foldl_cons, List.foldl_cons, ih fun e member => digit e (List.mem_cons_of_mem d member),
      here]
    congr 1
    omega

theorem value_numeral (n : ℕ) : value (numeral n) = n := by
  unfold numeral value
  split_ifs with zero
  · simp [zero]
  · rw [foldl_digitByte _ fun d member =>
      Nat.digits_lt_base (by norm_num) (List.mem_reverse.mp member), List.foldl_reverse]
    have back := Nat.ofDigits_digits 10 n
    rw [Nat.ofDigits_eq_foldr] at back
    simpa using back

theorem foldl_lt {digits : List UInt8} (digit : ∀ b ∈ digits, isDigit b = true) (acc : ℕ) :
    digits.foldl (fun acc b => 10 * acc + (b.toNat - 48)) acc < (acc + 1) * 10 ^ digits.length := by
  induction digits generalizing acc with
  | nil => simp
  | cons b rest ih =>
    have here := digit b List.mem_cons_self
    simp only [isDigit, Bool.and_eq_true, decide_eq_true_eq] at here
    calc rest.foldl (fun acc b => 10 * acc + (b.toNat - 48)) (10 * acc + (b.toNat - 48))
        < (10 * acc + (b.toNat - 48) + 1) * 10 ^ rest.length :=
          ih (fun c member => digit c (List.mem_cons_of_mem b member)) _
      _ ≤ (10 * (acc + 1)) * 10 ^ rest.length := Nat.mul_le_mul_right _ (by omega)
      _ = (acc + 1) * 10 ^ (b :: rest).length := by rw [List.length_cons, Nat.pow_succ']; ring

theorem value_lt {digits : List UInt8} (digit : ∀ b ∈ digits, isDigit b = true) :
    value digits < 10 ^ digits.length := by
  simpa [value] using foldl_lt digit 0

theorem length_numeral_le_of_lt {n k : ℕ} (positive : 0 < n) (bound : n < 10 ^ k) : (numeral n).length ≤ k := by
  rw [numeral, if_neg positive.ne', List.length_map, List.length_reverse]
  exact (Nat.digits_length_le_iff (by norm_num : 1 < 10) n).mpr bound

end Decimal
