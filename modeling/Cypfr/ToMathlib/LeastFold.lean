import Mathlib.Order.Bounds.Basic

/-! # Loops that look for the smallest

A loop keeps a candidate, which an element replaces if the candidate is not set yet or the element is smaller.
Over some elements that all count as set it ends with one of them that is least.
-/

namespace LeastFold

variable {α β : Type*} [LinearOrder β] {unset : α → Prop} [DecidablePred unset] {f : α → β} {acc : α} {l : List α}

/-- A round of the loop. -/
def pick (unset : α → Prop) [DecidablePred unset] (f : α → β) (acc x : α) : α :=
  if unset acc ∨ f x < f acc then x else acc

/-- An element is the first of those that are least. -/
def First (f : α → β) (l : List α) (x : α) : Prop :=
  ∃ before rest, l = before ++ x :: rest ∧ (∀ y ∈ before, f x < f y) ∧ ∀ y ∈ rest, f x ≤ f y

theorem First.mem {x : α} (first : First f l x) : x ∈ l := by
  obtain ⟨before, rest, rfl, -, -⟩ := first
  exact List.mem_append_right _ List.mem_cons_self

theorem First.le {x y : α} (first : First f l x) (member : y ∈ l) : f x ≤ f y := by
  obtain ⟨before, rest, rfl, smaller, least⟩ := first
  rcases List.mem_append.mp member with earlier | later
  · exact (smaller y earlier).le
  · rcases List.mem_cons.mp later with rfl | later
    · exact le_rfl
    · exact least y later

theorem First.isLeast {x : α} (first : First f l x) : IsLeast (f '' {y | y ∈ l}) (f x) := by
  refine ⟨⟨x, first.mem, rfl⟩, ?_⟩
  rintro _ ⟨y, member, rfl⟩
  exact first.le member

theorem First.unique {x y : α} (first : First f l x) (second : First f l y) : x = y := by
  obtain ⟨before, rest, rfl, smaller, least⟩ := first
  obtain ⟨before', rest', same, smaller', least'⟩ := second
  rcases List.append_eq_append_iff.mp same with ⟨between, rfl, split⟩ | ⟨between, rfl, split⟩
  · cases between with
    | nil => exact (List.cons.inj split).1
    | cons z between =>
      obtain ⟨rfl, rfl⟩ := List.cons.inj split
      have low := smaller' x (List.mem_append_right _ List.mem_cons_self)
      exact absurd (least y (List.mem_append_right _ List.mem_cons_self)) (not_le.mpr low)
  · cases between with
    | nil => exact (List.cons.inj split).1.symm
    | cons z between =>
      obtain ⟨rfl, rfl⟩ := List.cons.inj split
      have low := smaller y (List.mem_append_right _ List.mem_cons_self)
      exact absurd (least' x (List.mem_append_right _ List.mem_cons_self)) (not_le.mpr low)

/-- From a candidate that is set, the loop ends with the first least of the candidate and the elements. -/
theorem first_foldl_of_set (set : ∀ x ∈ l, ¬ unset x) (chosen : ¬ unset acc) :
    First f (acc :: l) (l.foldl (pick unset f) acc) := by
  induction l generalizing acc with
  | nil => exact ⟨[], [], rfl, nofun, nofun⟩
  | cons y rest ih =>
    have setRest : ∀ x ∈ rest, ¬ unset x := fun x member => set x (List.mem_cons_of_mem _ member)
    rw [List.foldl_cons, pick]
    by_cases smaller : f y < f acc
    · rw [if_pos (.inr smaller)]
      have first := ih setRest (set y List.mem_cons_self)
      have below := (first.le List.mem_cons_self).trans_lt smaller
      obtain ⟨before, after, split, larger, least⟩ := first
      refine ⟨acc :: before, after, congrArg _ split, fun x among => ?_, least⟩
      rcases List.mem_cons.mp among with rfl | among
      · exact below
      · exact larger x among
    · rw [if_neg (not_or.mpr ⟨chosen, smaller⟩)]
      obtain ⟨before, after, split, larger, least⟩ := ih setRest chosen
      cases before with
      | nil =>
        obtain ⟨same, rfl⟩ := List.cons.inj split
        refine ⟨[], y :: rest, congrArg (· :: y :: rest) same, nofun, fun x among => ?_⟩
        rcases List.mem_cons.mp among with rfl | among
        · exact same ▸ not_lt.mp smaller
        · exact least x among
      | cons z before =>
        obtain ⟨rfl, rest⟩ := List.cons.inj split
        have below := larger acc List.mem_cons_self
        refine ⟨acc :: y :: before, after, congrArg (acc :: y :: ·) rest, fun x among => ?_, least⟩
        rcases List.mem_cons.mp among with rfl | among
        · exact below
        · rcases List.mem_cons.mp among with rfl | among
          · exact below.trans_le (not_lt.mp smaller)
          · exact larger x (List.mem_cons_of_mem _ among)

/-- From a candidate that is not set, the loop ends with the first least element. -/
theorem first_foldl (nonempty : l ≠ []) (set : ∀ x ∈ l, ¬ unset x) (start : unset acc) :
    First f l (l.foldl (pick unset f) acc) := by
  cases l with
  | nil => exact absurd rfl nonempty
  | cons y rest =>
    rw [List.foldl_cons, pick, if_pos (.inl start)]
    exact first_foldl_of_set (fun x member => set x (List.mem_cons_of_mem _ member)) (set y List.mem_cons_self)

/-- Some element has a value up to a bound exactly when the least value is. -/
theorem exists_le_iff {S : Set α} {least bound : β} (isLeast : IsLeast (f '' S) least) :
    (∃ x ∈ S, f x ≤ bound) ↔ least ≤ bound := by
  constructor
  · rintro ⟨x, member, below⟩
    exact (isLeast.2 ⟨x, member, rfl⟩).trans below
  · intro below
    obtain ⟨x, member, rfl⟩ := isLeast.1
    exact ⟨x, member, below⟩

end LeastFold
