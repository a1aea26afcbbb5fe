import Mathlib.Data.List.Basic

/-! # One list compacted beside another

A loop that looks its elements up and keeps what it finds leaves no gaps, while what belongs to the elements stays
where it is. What is found of an element then stands beside the element's own only when nothing moved it elsewhere.
-/

namespace List

/-- What holds at every place of a list holds at its head and at every place of its tail. -/
theorem forall_places_cons {α : Type*} {P : List α → α → Prop} {first : α} {rest : List α} :
    (∀ before element after, first :: rest = before ++ element :: after → P before element) ↔
      P [] first ∧ ∀ before element after, rest = before ++ element :: after → P (first :: before) element := by
  constructor
  · intro all
    exact ⟨all [] first rest rfl, fun before element after same =>
      all (first :: before) element after (by rw [same]; rfl)⟩
  · rintro ⟨head, tail⟩ before element after same
    cases before with
    | nil =>
      obtain ⟨rfl, -⟩ := List.cons.inj same
      exact head
    | cons other before =>
      obtain ⟨rfl, later⟩ := List.cons.inj same
      exact tail before element after later

variable {α β γ : Type*} (find : α → Option β)

/-- What is found of the elements, each with what belongs to its element. -/
def foundWithOwn (elements : List (α × γ)) : List (β × γ) :=
  elements.filterMap fun element => (find element.1).map fun found => (found, element.2)

/-- How many of the elements are found. -/
def foundCount (elements : List (α × γ)) : ℕ := elements.countP fun element => (find element.1).isSome

variable {find} {elements : List (α × γ)} {beside : List γ}

/-- What is found stands beside what belongs to its element exactly when each element that is found has its own at
the place of all that was found before it. -/
theorem zip_found_eq_iff : (elements.filterMap fun element => find element.1).zip beside = elements.foundWithOwn find ↔
    ∀ before element after, elements = before ++ element :: after → (find element.1).isSome →
      beside[foundCount find before]? = some element.2 := by
  induction elements generalizing beside with
  | nil =>
    apply iff_of_true rfl
    intro before element after split
    exact absurd split.symm (List.append_ne_nil_of_right_ne_nil _ (List.cons_ne_nil _ _))
  | cons first rest ih =>
    rw [forall_places_cons (P := fun before element => (find element.1).isSome →
      beside[foundCount find before]? = some element.2)]
    cases known : find first.1 with
    | none =>
      have same : (first :: rest).foundWithOwn find = rest.foundWithOwn find := by simp [foundWithOwn, known]
      rw [List.filterMap_cons, known, same, ih]
      simp [foundCount, known]
    | some found =>
      have same : (first :: rest).foundWithOwn find = (found, first.2) :: rest.foundWithOwn find := by
        simp [foundWithOwn, known]
      rw [List.filterMap_cons, known, same]
      cases beside with
      | nil => simp [foundCount]
      | cons own beside =>
        rw [List.zip_cons_cons, List.cons.injEq, ih]
        simp [foundCount, known]

end List
