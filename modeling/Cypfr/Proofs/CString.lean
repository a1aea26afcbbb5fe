import Cypfr.Model.CString

/-! # C string comparisons

`strncmp` against a text without NUL is a test for its first bytes, and `strcmp` compares the texts up
to their first NUL.
-/

namespace Cypfr

theorem strncmpEq_of_starts {text s : Bytes} (starts : text <+: s) (rest : Bytes) :
    strncmpEq text.length s (text ++ rest) = true := by
  obtain ⟨tail, rfl⟩ := starts
  induction text with
  | nil => rfl
  | cons b text ih => simp [strncmpEq, ih]

theorem starts_of_strncmpEq {text s : Bytes} (rest : Bytes) (nonzero : 0 ∉ text) {n : ℕ} (long : text.length ≤ n)
    (equal : strncmpEq n s (text ++ rest) = true) : text <+: s := by
  induction text generalizing s n with
  | nil => exact List.nil_prefix
  | cons b text ih =>
    obtain ⟨n, rfl⟩ : ∃ k, n = k + 1 := ⟨n - 1, by simp at long; omega⟩
    simp only [List.mem_cons, not_or] at nonzero
    cases s with
    | nil =>
      simp [strncmpEq] at equal
      exact absurd equal nonzero.1
    | cons a s =>
      simp only [strncmpEq, List.cons_append, List.headD_cons, List.tail_cons, Bool.and_eq_true, beq_iff_eq,
        Bool.or_eq_true] at equal
      obtain ⟨rfl, zero | equal⟩ := equal
      · exact absurd zero.symm nonzero.1
      · rw [List.cons_prefix_cons]
        exact ⟨rfl, ih nonzero.2 (by simpa using long) equal⟩

theorem strncmpEq_comm (n : ℕ) (a b : Bytes) : strncmpEq n a b = strncmpEq n b a := by
  induction n generalizing a b with
  | zero => rfl
  | succ n ih =>
    rw [strncmpEq, strncmpEq, ih]
    by_cases same : a.headD 0 = b.headD 0
    · rw [same]
    · rw [beq_eq_false_iff_ne.mpr same, beq_eq_false_iff_ne.mpr (Ne.symm same)]
      rfl

/-- The text a buffer holds as a C string. -/
def cstr (s : Bytes) : Bytes := s.takeWhile (· != 0)

@[simp] theorem cstr_nil : cstr [] = [] := rfl

theorem cstr_cons (b : UInt8) (s : Bytes) : cstr (b :: s) = if b = 0 then [] else b :: cstr s := by
  by_cases zero : b = 0 <;> simp [cstr, zero]

theorem cstr_append {text : Bytes} (nonzero : 0 ∉ text) (s : Bytes) : cstr (text ++ s) = text ++ cstr s := by
  induction text with
  | nil => rfl
  | cons b text ih =>
    simp only [List.mem_cons, not_or] at nonzero
    rw [List.cons_append, cstr_cons, if_neg (Ne.symm nonzero.1), ih nonzero.2, List.cons_append]

theorem strncmpEq_iff_cstr {n : ℕ} {a b : Bytes} (left : a.length < n) (right : b.length < n) :
    strncmpEq n a b = true ↔ cstr a = cstr b := by
  induction n generalizing a b with
  | zero => exact absurd left (Nat.not_lt_zero _)
  | succ n ih =>
    cases a with
    | nil =>
      cases b with
      | nil => simp [strncmpEq]
      | cons y b =>
        by_cases zero : y = 0
        · simp [strncmpEq, cstr_cons, zero]
        · simp [strncmpEq, cstr_cons, zero, Ne.symm zero]
    | cons x a =>
      cases b with
      | nil =>
        by_cases zero : x = 0
        · simp [strncmpEq, cstr_cons, zero]
        · simp [strncmpEq, cstr_cons, zero]
      | cons y b =>
        have tail := ih (a := a) (b := b) (by simpa using left) (by simpa using right)
        by_cases same : x = y
        · subst same
          by_cases zero : x = 0
          · simp [strncmpEq, cstr_cons, zero]
          · simp [strncmpEq, cstr_cons, zero, tail]
        · by_cases zero : x = 0
          · subst zero
            simp [strncmpEq, cstr_cons, same, Ne.symm same]
          · by_cases zero' : y = 0 <;> simp [strncmpEq, cstr_cons, same, zero, zero']

theorem strcmpEq_iff (a b : Bytes) : strcmpEq a b = true ↔ cstr a = cstr b :=
  strncmpEq_iff_cstr (by omega) (by omega)

end Cypfr
