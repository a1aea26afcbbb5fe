import Mathlib.Data.List.Induction
import Mathlib.Data.List.Nodup

/-! # Tables whose filled slots come first

A table of a fixed number of slots is filled from the front. What is taken out of it leaves no hole: the last filled
slot is moved there.
-/

namespace PackedTable

variable {α : Type*}

/-- What is in the slots up to the first that is free. -/
def filled : List (Option α) → List α
  | some a :: rest => a :: filled rest
  | _ => []

/-- A table with `n` free slots, all of them at the end. -/
def packed (l : List α) (n : ℕ) : List (Option α) := l.map some ++ List.replicate n none

/-- Empty a slot and move what is in the last of the filled slots behind it there; also, which slot that was. -/
def removeAt (table : List (Option α)) (i : ℕ) : List (Option α) × ℕ :=
  let emptied := table.set i none
  let last := i + (filled (emptied.drop (i + 1))).length
  ((emptied.set i emptied[last]?.join).set last none, last)

section Enter

variable [DecidableEq α]

/-- Put something in the first free slot, unless it comes before; whether it was put there. -/
def enter (a : α) : List (Option α) → List (Option α) × Bool
  | [] => ([], false)
  | none :: rest => (some a :: rest, true)
  | some b :: rest => if b = a then (some b :: rest, false) else (some b :: (enter a rest).1, (enter a rest).2)

/-- The slot of something that comes before the first free slot. -/
def find? (a : α) : List (Option α) → Option ℕ
  | some b :: rest => if b = a then some 0 else (find? a rest).map (· + 1)
  | _ => none

end Enter

variable {l : List α} {n : ℕ} {a : α}

@[simp] theorem filled_packed : filled (packed l n) = l := by
  induction l with
  | nil => cases n <;> rfl
  | cons b rest ih => exact congrArg (b :: ·) ih

theorem packed_cons {b : α} {rest : List α} : packed (b :: rest) n = some b :: packed rest n := rfl

/-- What takes the place of the first of some slots. -/
theorem removeAt_packed (front back : List α) (n : ℕ) :
    removeAt (packed (front ++ a :: back) n) front.length =
      (packed (front ++ (back.getLast?.toList ++ back.dropLast)) (n + 1), front.length + back.length) := by
  have emptied : (packed (front ++ a :: back) n).set front.length none =
      front.map some ++ none :: packed back n := by
    simp [packed]
  have behind : (front.map some ++ none :: packed back n).drop (front.length + 1) = packed back n := by
    simp [List.drop_append]
  rw [removeAt]
  simp only [emptied, behind, filled_packed]
  induction back using List.reverseRecOn with
  | nil => simp [packed, List.replicate_succ]
  | append_singleton back z ih => simp [packed, List.replicate_succ]

theorem perm_moved (front back : List α) :
    (a :: (front ++ (back.getLast?.toList ++ back.dropLast))).Perm (front ++ a :: back) := by
  refine List.perm_middle.symm.trans (List.Perm.append_left front (List.Perm.cons a ?_))
  induction back using List.reverseRecOn with
  | nil => simp
  | append_singleton back z ih =>
    have moved : ([z] ++ back).Perm (back ++ [z]) := List.perm_append_comm
    simpa using moved

variable [DecidableEq α]

theorem enter_packed : enter a (packed l n) =
    if a ∈ l then (packed l n, false) else
      match n with
      | 0 => (packed l 0, false)
      | n + 1 => (packed (l ++ [a]) n, true) := by
  induction l with
  | nil => cases n <;> rfl
  | cons b rest ih =>
    rw [packed_cons, enter]
    by_cases same : b = a
    · simp [same]
    · rw [ih]
      by_cases among : a ∈ rest
      · simp [same, among]
      · cases n <;> simp [same, Ne.symm same, among, packed]

theorem find?_packed_of_notMem (absent : a ∉ l) : find? a (packed l n) = none := by
  induction l with
  | nil => cases n <;> rfl
  | cons b rest ih =>
    obtain ⟨other, absent⟩ := not_or.mp (List.mem_cons.not.mp absent)
    rw [packed_cons, find?, if_neg (Ne.symm other), ih absent]
    rfl

theorem find?_packed (front back : List α) (first : a ∉ front) :
    find? a (packed (front ++ a :: back) n) = some front.length := by
  induction front with
  | nil => exact if_pos rfl
  | cons b rest ih =>
    obtain ⟨other, absent⟩ := not_or.mp (List.mem_cons.not.mp first)
    rw [List.cons_append, packed_cons, find?, if_neg (Ne.symm other), ih absent]
    rfl

end PackedTable
