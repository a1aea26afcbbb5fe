import Mathlib.Data.List.AList
import Mathlib.Data.List.Perm.Subperm

/-! # Loops over maps

What a map holds after many insertions or erasures, the keys that it maps to a value, and the last entry that a
loop over its entries finds.
-/

namespace AList

variable {α ν : Type*} [DecidableEq α] {m : AList fun _ : α => ν} {k : α} {v : ν}

theorem lookup_foldl_erase {keys : List α} :
    lookup k (keys.foldl (fun m k => m.erase k) m) = if k ∈ keys then none else lookup k m := by
  induction keys generalizing m with
  | nil => rfl
  | cons first rest ih =>
    rw [List.foldl_cons, ih]
    by_cases later : k ∈ rest
    · rw [if_pos later, if_pos (List.mem_cons_of_mem _ later)]
    · by_cases same : k = first
      · subst same
        rw [if_neg later, if_pos List.mem_cons_self, lookup_erase]
      · rw [if_neg later, if_neg (List.not_mem_cons_of_ne_of_not_mem same later), lookup_erase_ne same]

theorem lookup_foldl_insert {pairs : List (α × ν)} (distinct : (pairs.map Prod.fst).Nodup) :
    lookup k (pairs.foldl (fun m pair => m.insert pair.1 pair.2) m) = some v ↔
      (k, v) ∈ pairs ∨ k ∉ pairs.map Prod.fst ∧ lookup k m = some v := by
  induction pairs generalizing m with
  | nil => exact ⟨fun held => .inr ⟨List.not_mem_nil, held⟩, fun held =>
    held.elim (fun member => absurd member List.not_mem_nil) (·.2)⟩
  | cons first rest ih =>
    obtain ⟨fresh, distinct⟩ := List.nodup_cons.mp distinct
    rw [List.foldl_cons, ih distinct, List.mem_cons, List.map_cons, List.mem_cons, not_or]
    by_cases same : k = first.1
    · subst same
      have other (v : ν) : (first.1, v) ∉ rest := fun member => fresh (List.mem_map.mpr ⟨_, member, rfl⟩)
      rw [lookup_insert, Option.some_inj]
      constructor
      · rintro (member | ⟨-, rfl⟩)
        · exact absurd member (other v)
        · exact .inl (.inl rfl)
      · rintro ((here | member) | ⟨⟨different, -⟩, -⟩)
        · exact .inr ⟨fresh, (congrArg Prod.snd here).symm⟩
        · exact absurd member (other v)
        · exact absurd rfl different
    · rw [lookup_insert_ne same]
      constructor
      · rintro (member | ⟨absent, held⟩)
        · exact .inl (.inr member)
        · exact .inr ⟨⟨same, absent⟩, held⟩
      · rintro ((here | member) | ⟨⟨-, absent⟩, held⟩)
        · exact absurd (congrArg Prod.fst here) same
        · exact .inl member
        · exact .inr ⟨absent, held⟩

section KeysWith

variable [DecidableEq ν]

/-- The keys that a map maps to a value. -/
def keysWith (m : AList fun _ : α => ν) (v : ν) : List α := m.keys.filter fun k => m.lookup k = some v

@[simp] theorem mem_keysWith : k ∈ m.keysWith v ↔ m.lookup k = some v := by
  rw [keysWith, List.mem_filter, decide_eq_true_iff, and_iff_right_iff_imp]
  intro held
  exact mem_keys.mp (lookup_isSome.mp (Option.isSome_iff_exists.mpr ⟨v, held⟩))

theorem nodup_keysWith : (m.keysWith v).Nodup := m.keys_nodup.filter _

/-- The keys of a value are at most as many as there are in a list that has them. -/
theorem length_keysWith_le {l : List α} (within : ∀ k, m.lookup k = some v → k ∈ l) : (m.keysWith v).length ≤
    l.length :=
  (List.subperm_of_subset nodup_keysWith fun k member => within k (mem_keysWith.mp member)).length_le

end KeysWith

end AList

/-- What a loop for the last element with a property finds: one that has it, or what the loop began with. -/
theorem List.foldl_last {α β : Type*} (p : α → Prop) [DecidablePred p] (f : α → β) (start : β) (l : List α) :
    (∃ x ∈ l, p x ∧ l.foldl (fun found x => if p x then f x else found) start = f x) ∨
      (∀ x ∈ l, ¬ p x) ∧ l.foldl (fun found x => if p x then f x else found) start = start := by
  induction l generalizing start with
  | nil => exact .inr ⟨fun _ member => absurd member List.not_mem_nil, rfl⟩
  | cons first rest ih =>
    rw [List.foldl_cons]
    rcases ih (if p first then f first else start) with ⟨x, member, holds, found⟩ | ⟨none, found⟩
    · exact .inl ⟨x, List.mem_cons_of_mem _ member, holds, found⟩
    · by_cases holds : p first
      · exact .inl ⟨first, List.mem_cons_self, holds, by rw [found, if_pos holds]⟩
      · refine .inr ⟨fun x member => ?_, by rw [found, if_neg holds]⟩
        rcases List.mem_cons.mp member with rfl | later
        · exact holds
        · exact none x later
