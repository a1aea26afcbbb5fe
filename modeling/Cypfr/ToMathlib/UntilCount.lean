import Mathlib

/-! # A list up to a number of hits

The elements of a list up to the last of a number of hits, and those after it.
-/

namespace List

variable {α : Type*} {p : α → Bool} {n : ℕ} {l l' : List α}

/-- The elements up to the `n`th hit. -/
def untilCount (p : α → Bool) : ℕ → List α → List α
  | 0, _ => []
  | _ + 1, [] => []
  | n + 1, x :: rest => x :: if p x then untilCount p n rest else untilCount p (n + 1) rest

/-- The elements after the `n`th hit. -/
def afterCount (p : α → Bool) : ℕ → List α → List α
  | 0, l => l
  | _ + 1, [] => []
  | n + 1, x :: rest => if p x then afterCount p n rest else afterCount p (n + 1) rest

theorem untilCount_nil : untilCount p n [] = [] := by
  cases n <;> rfl

theorem afterCount_nil : afterCount p n [] = [] := by
  cases n <;> rfl

/-- Up to the `n`th hit there are the first `n` hits. -/
theorem filter_untilCount (p : α → Bool) (n : ℕ) (l : List α) : (l.untilCount p n).filter p = (l.filter p).take n := by
  induction l generalizing n with
  | nil => rw [untilCount_nil, filter_nil, take_nil]
  | cons x rest ih =>
    cases n with
    | zero => rfl
    | succ n =>
      rw [untilCount]
      cases hit : p x with
      | true => rw [if_pos rfl, filter_cons_of_pos hit, filter_cons_of_pos hit, take_succ_cons, ih]
      | false =>
        rw [if_neg Bool.false_ne_true, filter_cons_of_neg (by simp [hit]), filter_cons_of_neg (by simp [hit]), ih]

/-- When all elements are hits, those up to the `n`th are the first `n`. -/
theorem untilCount_of_all (all : ∀ x ∈ l, p x = true) : l.untilCount p n = l.take n := by
  induction l generalizing n with
  | nil => rw [untilCount_nil, take_nil]
  | cons x rest ih =>
    cases n with
    | zero => rfl
    | succ n =>
      rw [untilCount, if_pos (all x mem_cons_self), take_succ_cons, ih fun x member => all x (mem_cons_of_mem _ member)]

theorem afterCount_of_all (all : ∀ x ∈ l, p x = true) : l.afterCount p n = l.drop n := by
  induction l generalizing n with
  | nil => rw [afterCount_nil, drop_nil]
  | cons x rest ih =>
    cases n with
    | zero => rfl
    | succ n =>
      rw [afterCount, if_pos (all x mem_cons_self), drop_succ_cons, ih fun x member => all x (mem_cons_of_mem _ member)]

/-- When no element is a hit, all of them are up to the next. -/
theorem untilCount_of_none (none : ∀ x ∈ l, p x = false) : l.untilCount p (n + 1) = l := by
  induction l with
  | nil => rfl
  | cons x rest ih =>
    have miss := none x mem_cons_self
    rw [untilCount, miss, if_neg Bool.false_ne_true, ih fun x member => none x (mem_cons_of_mem _ member)]

/-- Elements that are no hits stand before the first one. -/
theorem untilCount_one {x : α} (none : ∀ x ∈ l, p x = false) (hit : p x = true) :
    (l ++ x :: l').untilCount p 1 = l ++ [x] := by
  induction l with
  | nil => rw [nil_append, untilCount, if_pos hit, untilCount, nil_append]
  | cons y rest ih =>
    have miss := none y mem_cons_self
    rw [cons_append, untilCount, miss, if_neg Bool.false_ne_true, ih fun x member => none x (mem_cons_of_mem _ member),
      cons_append]

theorem afterCount_one {x : α} (none : ∀ x ∈ l, p x = false) (hit : p x = true) :
    (l ++ x :: l').afterCount p 1 = l' := by
  induction l with
  | nil => rw [nil_append, afterCount, if_pos hit, afterCount]
  | cons y rest ih =>
    have miss := none y mem_cons_self
    rw [cons_append, afterCount, miss, if_neg Bool.false_ne_true, ih fun x member => none x (mem_cons_of_mem _ member)]

theorem countP_eq_sum (p : α → Bool) (l : List α) : l.countP p = (l.map fun x => if p x = true then 1 else 0).sum := by
  induction l with
  | nil => rfl
  | cons x rest ih => rw [countP_cons, map_cons, sum_cons, ih, Nat.add_comm]

/-- When each element is a hit for one of a list of tests, the hits of the tests are as many as the elements. -/
theorem length_eq_sum_countP {β : Type*} (r : β → α → Bool) (tests : List β) {l : List α}
    (each : ∀ x ∈ l, (tests.countP fun test => r test x) = 1) :
    l.length = (tests.map fun test => l.countP (r test)).sum := by
  induction l with
  | nil => simp
  | cons x rest ih =>
    have split : (tests.map fun test => (x :: rest).countP (r test)) =
        tests.map fun test => rest.countP (r test) + if r test x = true then 1 else 0 := by
      simp only [countP_cons]
    rw [split, sum_map_add, ← countP_eq_sum fun test => r test x, each x mem_cons_self, length_cons,
      ih fun x member => each x (mem_cons_of_mem _ member)]

end List
