import Mathlib.Data.List.Dedup
import Mathlib.Data.List.Nodup

/-! # Sets that are iterated over

A finite set as a container holds it: its elements without repetition, in some order of iteration.
Loops over the set are folds over that order; what they compute is stated by membership.
-/

/-- Elements without repetition, in the order of iteration. -/
structure UnorderedSet (α : Type*) where
  elems : List α
  nodup : elems.Nodup

namespace UnorderedSet

variable {α : Type*}

instance : Membership α (UnorderedSet α) := ⟨fun s a => a ∈ s.elems⟩

@[simp] theorem mem_elems {s : UnorderedSet α} {a : α} : a ∈ s.elems ↔ a ∈ s := Iff.rfl

def empty : UnorderedSet α := ⟨[], List.nodup_nil⟩

def singleton (a : α) : UnorderedSet α := ⟨[a], List.nodup_singleton a⟩

def isEmpty (s : UnorderedSet α) : Bool := s.elems.isEmpty

@[simp] theorem not_mem_empty (a : α) : a ∉ (empty : UnorderedSet α) := List.not_mem_nil

@[simp] theorem mem_singleton {a b : α} : a ∈ singleton b ↔ a = b := List.mem_singleton

theorem isEmpty_iff {s : UnorderedSet α} : s.isEmpty = true ↔ ∀ a, a ∉ s := by
  rw [isEmpty, List.isEmpty_iff, List.eq_nil_iff_forall_not_mem]
  rfl

theorem isEmpty_eq_false_iff {s : UnorderedSet α} : s.isEmpty = false ↔ ∃ a, a ∈ s := by
  rw [← Bool.not_eq_true, isEmpty_iff]
  push Not
  rfl

theorem exists_mem_iff {s : UnorderedSet α} : (∃ a, a ∈ s) ↔ s.elems.length ≠ 0 := by
  rw [← isEmpty_eq_false_iff, isEmpty, List.isEmpty_eq_false_iff, ne_eq, ne_eq, List.length_eq_zero_iff]

/-- A single element, by its membership. -/
theorem elems_eq_singleton_iff {s : UnorderedSet α} {a : α} : s.elems = [a] ↔ a ∈ s ∧ ∀ b ∈ s, b = a := by
  constructor
  · intro single
    have among (b : α) : b ∈ s ↔ b = a := by rw [← mem_elems, single, List.mem_singleton]
    exact ⟨(among a).mpr rfl, fun b => (among b).mp⟩
  · rintro ⟨present, only⟩
    have alone := s.nodup
    rw [← mem_elems] at present
    change ∀ b ∈ s.elems, b = a at only
    generalize s.elems = elems at alone present only
    match elems with
    | [] => exact absurd present List.not_mem_nil
    | [b] => rw [only b List.mem_cons_self]
    | b :: c :: rest =>
      have same : b = c := (only b List.mem_cons_self).trans (only c (List.mem_cons_of_mem _ List.mem_cons_self)).symm
      exact absurd (same ▸ List.mem_cons_self) (List.nodup_cons.mp alone).1

def filter (s : UnorderedSet α) (p : α → Bool) : UnorderedSet α := ⟨s.elems.filter p, s.nodup.filter p⟩

@[simp] theorem mem_filter {s : UnorderedSet α} {p : α → Bool} {a : α} : a ∈ s.filter p ↔ a ∈ s ∧ p a = true :=
  List.mem_filter

section Insert

variable [DecidableEq α]

instance (s : UnorderedSet α) (a : α) : Decidable (a ∈ s) := inferInstanceAs (Decidable (a ∈ s.elems))

def insert (s : UnorderedSet α) (a : α) : UnorderedSet α := ⟨s.elems.insert a, s.nodup.insert⟩

def erase (s : UnorderedSet α) (a : α) : UnorderedSet α := ⟨s.elems.erase a, s.nodup.erase a⟩

/-- Insert every element of a range. -/
def insertAll (s : UnorderedSet α) (l : List α) : UnorderedSet α := l.foldl insert s

/-- Erase every element of a range. -/
def eraseAll (s : UnorderedSet α) (l : List α) : UnorderedSet α := l.foldl erase s

/-- The set of the elements of a list. -/
def ofList (l : List α) : UnorderedSet α := empty.insertAll l

@[simp] theorem mem_insert {s : UnorderedSet α} {a b : α} : b ∈ s.insert a ↔ b = a ∨ b ∈ s := List.mem_insert_iff

@[simp] theorem mem_erase {s : UnorderedSet α} {a b : α} : b ∈ s.erase a ↔ b ≠ a ∧ b ∈ s := s.nodup.mem_erase_iff

@[simp] theorem mem_insertAll {s : UnorderedSet α} {l : List α} {a : α} : a ∈ s.insertAll l ↔ a ∈ l ∨ a ∈ s := by
  induction l generalizing s with
  | nil => simp [insertAll]
  | cons b rest ih =>
    have first : s.insertAll (b :: rest) = (s.insert b).insertAll rest := rfl
    rw [first, ih, mem_insert, List.mem_cons]
    tauto

@[simp] theorem mem_eraseAll {s : UnorderedSet α} {l : List α} {a : α} : a ∈ s.eraseAll l ↔ a ∉ l ∧ a ∈ s := by
  induction l generalizing s with
  | nil => simp [eraseAll]
  | cons b rest ih =>
    have first : s.eraseAll (b :: rest) = (s.erase b).eraseAll rest := rfl
    rw [first, ih, mem_erase, List.mem_cons]
    tauto

@[simp] theorem mem_ofList {l : List α} {a : α} : a ∈ ofList l ↔ a ∈ l := by simp [ofList]

end Insert

end UnorderedSet
