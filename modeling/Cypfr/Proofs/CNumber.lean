import Cypfr.Model.CNumber

/-! # Numbers written and read back

What `std::to_string` writes, `%d` of `sscanf` reads back, as long as no further digit follows.
-/

namespace Cypfr

theorem digitValue_of_isDigit {b : UInt8} (digit : Decimal.isDigit b = true) : digitValue b = b.toNat - 48 := by
  simp only [Decimal.isDigit, Bool.and_eq_true, decide_eq_true_eq] at digit
  rw [digitValue, if_pos digit]

theorem ten_le_digitValue {b : UInt8} (other : Decimal.isDigit b = false) : 10 ≤ digitValue b := by
  simp only [Decimal.isDigit, Bool.and_eq_false_iff, decide_eq_false_iff_not] at other
  rw [digitValue]
  split_ifs <;> omega

theorem digitsValue_append {digits rest : Bytes} (all : ∀ b ∈ digits, Decimal.isDigit b = true)
    (stop : ∀ b ∈ rest.head?, Decimal.isDigit b = false) (acc : ℕ) :
    digitsValue 10 (digits ++ rest) acc = digits.foldl (fun acc b => 10 * acc + (b.toNat - 48)) acc := by
  induction digits generalizing acc with
  | nil =>
    cases rest with
    | nil => rfl
    | cons b rest =>
      have large := ten_le_digitValue (stop b rfl)
      rw [List.nil_append, digitsValue, if_neg (by omega), List.foldl_nil]
  | cons b digits ih =>
    have digit := all b List.mem_cons_self
    have value := digitValue_of_isDigit digit
    simp only [Decimal.isDigit, Bool.and_eq_true, decide_eq_true_eq] at digit
    rw [List.cons_append, digitsValue, if_pos (by omega), ih fun c member => all c (List.mem_cons_of_mem b member),
      List.foldl_cons, value, Nat.mul_comm]

section Numeral

variable {rest : Bytes} (stop : ∀ b ∈ rest.head?, Decimal.isDigit b = false) (n : ℕ)
include stop

theorem digitsValue_numeral : digitsValue 10 (Decimal.numeral n ++ rest) 0 = n := by
  rw [digitsValue_append (Decimal.isDigit_numeral n) stop]
  exact Decimal.value_numeral n

theorem takeWhile_numeral_append :
    (Decimal.numeral n ++ rest).takeWhile Decimal.isDigit = Decimal.numeral n := by
  rw [List.takeWhile_append_of_pos (Decimal.isDigit_numeral n)]
  cases rest with
  | nil => simp
  | cons b rest => simp [stop b rfl]

theorem dropWhile_numeral_append : (Decimal.numeral n ++ rest).dropWhile Decimal.isDigit = rest := by
  rw [List.dropWhile_append_of_pos (Decimal.isDigit_numeral n)]
  cases rest with
  | nil => rfl
  | cons b rest => simp [stop b rfl]

end Numeral

/-- A digit is neither white space nor a sign. -/
theorem numeral_begins (n : ℕ) (rest : Bytes) : ∃ d tail, Decimal.numeral n ++ rest = d :: tail ∧
    isSpace d = false ∧ d ≠ 45 ∧ d ≠ 43 := by
  obtain ⟨d, tail, start⟩ := List.exists_cons_of_ne_nil (Decimal.numeral_ne_nil n)
  have digit := Decimal.isDigit_numeral n d (start ▸ List.mem_cons_self)
  simp only [Decimal.isDigit, Bool.and_eq_true, decide_eq_true_eq] at digit
  refine ⟨d, tail ++ rest, by rw [start, List.cons_append], ?_, ?_, ?_⟩
  · simp only [isSpace, Bool.or_eq_false_iff, beq_eq_false_iff_ne, Bool.and_eq_false_iff, decide_eq_false_iff_not]
    refine ⟨?_, by omega⟩
    rintro rfl
    simp at digit
  · rintro rfl
    simp at digit
  · rintro rfl
    simp at digit

theorem skipSign_numeral (n : ℕ) (rest : Bytes) :
    skipSign ((Decimal.numeral n ++ rest).dropWhile isSpace) = Decimal.numeral n ++ rest := by
  obtain ⟨d, tail, start, notSpace, notMinus, notPlus⟩ := numeral_begins n rest
  rw [start, List.dropWhile_cons_of_neg (by simp [notSpace]), skipSign]
  · simpa using notMinus
  · simpa using notPlus

theorem scanNumber_numeral {rest : Bytes} (stop : ∀ b ∈ rest.head?, Decimal.isDigit b = false) (n : ℕ) :
    scanNumber 10 (Decimal.numeral n ++ rest) = (false, n) := by
  have value := digitsValue_numeral stop n
  obtain ⟨d, tail, start, notSpace, notMinus, notPlus⟩ := numeral_begins n rest
  rw [start] at value ⊢
  rw [scanNumber, List.dropWhile_cons_of_neg (by simp [notSpace])]
  split
  · next head => exact absurd (List.cons.inj head).1 notMinus
  · next head => exact absurd (List.cons.inj head).1 notPlus
  · exact congrArg (false, ·) value

theorem scanNumber_minus {rest : Bytes} (stop : ∀ b ∈ rest.head?, Decimal.isDigit b = false) (n : ℕ) :
    scanNumber 10 (45 :: (Decimal.numeral n ++ rest)) = (true, n) :=
  congrArg (true, ·) (digitsValue_numeral stop n)

/-- What `std::to_string` writes is read back as the number it is, up to where the digits end. -/
theorem atoi_stdToString {rest : Bytes} (stop : ∀ b ∈ rest.head?, Decimal.isDigit b = false) (i : Int32) :
    atoi (stdToString i ++ rest) = i := by
  have lower := i.le_toInt
  have upper := i.toInt_lt
  rw [stdToString, atoi, strtol]
  split_ifs with negative
  · have size : (-(min i.toInt.natAbs (2 ^ 63) : ℕ) : ℤ) = i.toInt := by omega
    simp only [List.cons_append, scanNumber_minus stop, if_true, Int64.toInt32_ofInt, size, Int32.ofInt_toInt]
  · have size : ((min i.toInt.natAbs (2 ^ 63 - 1) : ℕ) : ℤ) = i.toInt := by omega
    simp only [scanNumber_numeral stop, Bool.false_eq_true, if_false, Int64.toInt32_ofInt, size, Int32.ofInt_toInt]

theorem scanD_stdToString {rest : Bytes} (stop : ∀ b ∈ rest.head?, Decimal.isDigit b = false) (i : Int32) :
    scanD (stdToString i ++ rest) = some (i, rest) := by
  have digits : skipSign ((stdToString i ++ rest).dropWhile isSpace) = Decimal.numeral i.toInt.natAbs ++ rest := by
    rw [stdToString]
    split_ifs with negative
    · rfl
    · exact skipSign_numeral _ rest
  simp only [scanD, digits]
  rw [takeWhile_numeral_append stop, dropWhile_numeral_append stop, if_neg (Decimal.numeral_ne_nil _),
    atoi_stdToString stop]

theorem stdToString_bytes {i : Int32} {b : UInt8} (member : b ∈ stdToString i) :
    b = 45 ∨ Decimal.isDigit b = true := by
  rw [stdToString] at member
  split_ifs at member with negative
  · rcases List.mem_cons.mp member with minus | digit
    · exact Or.inl minus
    · exact Or.inr (Decimal.isDigit_numeral _ b digit)
  · exact Or.inr (Decimal.isDigit_numeral _ b member)

theorem length_stdToString_le (i : Int32) : (stdToString i).length ≤ 11 := by
  have lower := i.le_toInt
  have upper := i.toInt_lt
  have digits : (Decimal.numeral i.toInt.natAbs).length ≤ 10 := by
    rcases Nat.eq_zero_or_pos i.toInt.natAbs with zero | positive
    · simp [zero, Decimal.numeral]
    · exact Decimal.length_numeral_le_of_lt positive (by omega)
  rw [stdToString]
  split_ifs with negative
  · exact Nat.succ_le_succ digits
  · exact digits.trans (by omega)

end Cypfr
