import Cypfr.ToMathlib.ByteList
import Mathlib.Logic.Function.Basic

/-! # Disjoint regions of a list

A layout names ranges of a list that do not overlap. The list is then as good as the contents of
its regions together with what lies outside them: overwriting a region updates one value of the
view, and lists with equal views that agree outside are equal.
-/

namespace Regions

open ByteList

variable {ι α : Type*}

structure Layout (ι : Type*) where
  off : ι → ℕ
  len : ι → ℕ

namespace Layout

/-- The regions lie inside a list of the given length and do not overlap. -/
structure Fits (L : Layout ι) (size : ℕ) : Prop where
  inside : ∀ i, L.off i + L.len i ≤ size
  apart : ∀ i j, i ≠ j → L.off i + L.len i ≤ L.off j ∨ L.off j + L.len j ≤ L.off i

/-- The contents of the regions. -/
def view (L : Layout ι) (l : List α) (i : ι) : List α := read l (L.off i) (L.len i)

/-- The lists agree outside the regions. -/
structure SameOutside (L : Layout ι) (l l' : List α) : Prop where
  length : l.length = l'.length
  outside : ∀ p, (∀ i, ¬ (L.off i ≤ p ∧ p < L.off i + L.len i)) → l[p]? = l'[p]?

variable {L : Layout ι} {l l' l'' : List α}

theorem SameOutside.refl (L : Layout ι) (l : List α) : L.SameOutside l l := ⟨rfl, fun _ _ => rfl⟩

theorem SameOutside.symm (same : L.SameOutside l l') : L.SameOutside l' l :=
  ⟨same.length.symm, fun p away => (same.outside p away).symm⟩

theorem SameOutside.trans (first : L.SameOutside l l') (second : L.SameOutside l' l'') : L.SameOutside l l'' :=
  ⟨first.length.trans second.length, fun p away => (first.outside p away).trans (second.outside p away)⟩

theorem length_view (fits : L.Fits l.length) (i : ι) : (L.view l i).length = L.len i :=
  length_read_of_le (fits.inside i)

theorem view_write [DecidableEq ι] (fits : L.Fits l.length) {i : ι} {new : List α} (same : new.length = L.len i) :
    L.view (write l (L.off i) new) = Function.update (L.view l) i new := by
  funext j
  by_cases here : j = i
  · subst here
    rw [Function.update_self, view, ← same]
    exact read_write_same _ _ _ (same ▸ fits.inside j)
  · rw [Function.update_of_ne here, view, view]
    apply read_write_disjoint
    rw [same]
    rcases fits.apart i j (Ne.symm here) with before | after
    · exact .inl before
    · exact .inr after

theorem sameOutside_write (i : ι) {new : List α} (same : new.length = L.len i) :
    L.SameOutside l (write l (L.off i) new) := by
  refine ⟨(length_write ..).symm, fun p away => ?_⟩
  rw [getElem?_write, if_neg]
  rintro ⟨low, high, -⟩
  exact away i ⟨low, same ▸ high⟩

/-- Equal contents and equal surroundings make equal lists. -/
theorem SameOutside.eq_of_view (same : L.SameOutside l l') (views : L.view l = L.view l') : l = l' := by
  apply List.ext_getElem?
  intro p
  by_cases inside : ∃ i, L.off i ≤ p ∧ p < L.off i + L.len i
  · obtain ⟨i, low, high⟩ := inside
    have here := congrArg (fun r => r[p - L.off i]?) (congrFun views i)
    simp only [view, getElem?_read, show p - L.off i < L.len i by omega, if_true,
      show L.off i + (p - L.off i) = p by omega] at here
    exact here
  · exact same.outside p fun i range => inside ⟨i, range⟩

end Layout

end Regions
