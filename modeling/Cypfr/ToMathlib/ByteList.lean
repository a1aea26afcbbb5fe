import Mathlib.Data.List.Basic
import Mathlib.Tactic.Ring

/-! # Reading and overwriting ranges of a list

A buffer or a whole device is a list; `read` cuts a range out of it and `write` replaces a range
in place. Neither changes the length: a read past the end is short and a write past the end loses
the part that does not fit. The laws below are those of disjoint and of nested ranges, and are all
derived from the value of one element. The last section packs naturals into little-endian bytes.
-/

namespace ByteList

variable {α : Type*}

/-- The `n` elements from offset `off`, fewer when the list ends before. -/
def read (l : List α) (off n : ℕ) : List α := (l.drop off).take n

/-- Replace the elements from offset `off` by those of `new`, keeping the length. -/
def write : List α → ℕ → List α → List α
  | [], _, _ => []
  | a :: l, 0, [] => a :: l
  | _ :: l, 0, b :: new => b :: write l 0 new
  | a :: l, off + 1, new => a :: write l off new

@[simp] theorem length_write (l : List α) (off : ℕ) (new : List α) :
    (write l off new).length = l.length := by
  fun_induction write with
  | case1 => rfl
  | case2 => rfl
  | case3 a l b new ih => simp [ih]
  | case4 a l off new ih => simp [ih]

theorem length_read (l : List α) (off n : ℕ) : (read l off n).length = min n (l.length - off) := by
  simp [read]

theorem length_read_of_le {l : List α} {off n : ℕ} (inside : off + n ≤ l.length) :
    (read l off n).length = n := by
  rw [length_read]; omega

theorem getElem?_read (l : List α) (off n i : ℕ) :
    (read l off n)[i]? = if i < n then l[off + i]? else none := by
  simp [read, List.getElem?_take]

/-- One element of an overwritten list, from which every law below follows. -/
theorem getElem?_write (l : List α) (off : ℕ) (new : List α) (i : ℕ) :
    (write l off new)[i]? =
      if off ≤ i ∧ i < off + new.length ∧ i < l.length then new[i - off]? else l[i]? := by
  fun_induction write generalizing i with
  | case1 => simp
  | case2 a l => simp
  | case3 a l b new ih =>
    cases i with
    | zero => simp
    | succ i => simp [ih]
  | case4 a l off new ih =>
    cases i with
    | zero => simp
    | succ i =>
      simp only [List.getElem?_cons_succ, ih, List.length_cons, Nat.succ_eq_add_one,
        Nat.add_sub_add_right]
      congr 1
      simp only [eq_iff_iff]
      omega

/-- A write that fits replaces one part of three. -/
theorem write_eq_append {l new : List α} {off : ℕ} (fits : off + new.length ≤ l.length) :
    write l off new = l.take off ++ new ++ l.drop (off + new.length) := by
  fun_induction write with
  | case1 off new =>
    obtain rfl : new = [] := List.length_eq_zero_iff.mp (by simp only [List.length_nil] at fits; omega)
    simp
  | case2 a l => simp
  | case3 a l b new ih =>
    simp only [List.length_cons] at fits
    rw [ih (by omega)]
    simp
  | case4 a l off new ih =>
    simp only [List.length_cons] at fits
    rw [ih (by omega), Nat.succ_add]
    simp

theorem write_singleton (l : List α) (off : ℕ) (a : α) : write l off [a] = l.set off a := by
  induction l generalizing off with
  | nil => rfl
  | cons b l ih =>
    cases off with
    | zero => cases l <;> rfl
    | succ off => rw [write, ih, List.set_cons_succ]

theorem read_write_same (l : List α) (off : ℕ) (new : List α) (inside : off + new.length ≤ l.length) :
    read (write l off new) off new.length = new := by
  apply List.ext_getElem?
  intro i
  rw [getElem?_read, getElem?_write]
  split_ifs with short here
  · rw [Nat.add_sub_cancel_left]
  · omega
  · exact (List.getElem?_eq_none (by omega)).symm

theorem read_write_disjoint {l new : List α} {off o n : ℕ}
    (apart : off + new.length ≤ o ∨ o + n ≤ off) : read (write l off new) o n = read l o n := by
  apply List.ext_getElem?
  intro i
  simp only [getElem?_read, getElem?_write]
  split_ifs with short here
  · omega
  · rfl
  · rfl

theorem read_read (l : List α) {base o n k : ℕ} (fits : o + k ≤ n) :
    read (read l base n) o k = read l (base + o) k := by
  apply List.ext_getElem?
  intro i
  simp only [getElem?_read]
  split_ifs with short here
  · rw [Nat.add_assoc]
  · omega
  · rfl

theorem write_write_same (l : List α) (off : ℕ) {old new : List α} (same : old.length = new.length) :
    write (write l off old) off new = write l off new := by
  apply List.ext_getElem?
  intro i
  simp only [getElem?_write, length_write]
  split_ifs with here there
  · rfl
  · omega
  · rfl

theorem write_comm (l : List α) {o p : ℕ} {a b : List α}
    (apart : o + a.length ≤ p ∨ p + b.length ≤ o) :
    write (write l o a) p b = write (write l p b) o a := by
  apply List.ext_getElem?
  intro i
  simp only [getElem?_write, length_write]
  split_ifs with here there
  · omega
  · rfl
  · rfl
  · rfl

theorem write_read (l : List α) (off n : ℕ) : write l off (read l off n) = l := by
  apply List.ext_getElem?
  intro i
  rw [getElem?_write, length_read]
  split_ifs with here
  · rw [getElem?_read, if_pos (by omega), show off + (i - off) = i by omega]
  · rfl

theorem write_eq_self {l new : List α} {off : ℕ} (same : read l off new.length = new) :
    write l off new = l := by
  have identity := write_read l off new.length
  rwa [same] at identity

/-! ## Little-endian naturals -/

/-- The natural a byte string denotes, lowest byte first. -/
def leNat : List UInt8 → ℕ
  | [] => 0
  | b :: bs => b.toNat + 256 * leNat bs

/-- The `n` lowest bytes of a natural, lowest first. -/
def leBytes : ℕ → ℕ → List UInt8
  | 0, _ => []
  | n + 1, x => UInt8.ofNat x :: leBytes n (x / 256)

@[simp] theorem length_leBytes (n x : ℕ) : (leBytes n x).length = n := by
  induction n generalizing x with
  | zero => rfl
  | succ n ih => simp [leBytes, ih]

theorem leNat_leBytes (n x : ℕ) : leNat (leBytes n x) = x % 256 ^ n := by
  induction n generalizing x with
  | zero => simp [leBytes, leNat, Nat.mod_one]
  | succ n ih =>
    have low : (UInt8.ofNat x).toNat = x % 256 := UInt8.toNat_ofNat'
    rw [leBytes, leNat, ih, low, pow_succ', Nat.mod_mul]

theorem leBytes_leNat (bs : List UInt8) : leBytes bs.length (leNat bs) = bs := by
  induction bs with
  | nil => rfl
  | cons b bs ih =>
    have low := b.toNat_lt
    simp only [List.length_cons, leBytes, leNat]
    rw [show (b.toNat + 256 * leNat bs) / 256 = leNat bs by omega, ih]
    congr 1
    apply UInt8.toNat_inj.mp
    simp only [UInt8.toNat_ofNat']
    omega

end ByteList
