import Cypfr.Model.LocUnorderedSetMap
import Mathlib.Tactic.Tauto

/-! # What the set maps hold

A set map is a relation between keys and values. Each helper is characterised by the pairs it adds to or
takes from that relation; entries stay non-empty, so the keys are those with a value.
-/

namespace Cypfr.LocUtil

section Sets

variable {α : Type*} [DecidableEq α]

theorem mem_foldl_trimVal (vals : List α) (sets : UnorderedSet α × UnorderedSet α) (a : α) :
    (a ∈ (vals.foldl trimVal sets).1 ↔ a ∈ sets.1 ∧ a ∉ vals) ∧
      (a ∈ (vals.foldl trimVal sets).2 ↔ a ∈ sets.2 ∨ a ∈ sets.1 ∧ a ∈ vals) := by
  induction vals generalizing sets with
  | nil => simp
  | cons val rest ih =>
    obtain ⟨left, gone⟩ := ih (trimVal sets val)
    rw [List.foldl_cons, left, gone, trimVal]
    split_ifs with present
    · rcases eq_or_ne a val with rfl | other
      · simp [present]
      · simp [other]
    · rcases eq_or_ne a val with rfl | other
      · simp [present]
      · simp [other]

theorem mem_trimSet (fromSet rVals goneVals : UnorderedSet α) (a : α) :
    (a ∈ (trimSet fromSet rVals goneVals).1 ↔ a ∈ fromSet ∧ a ∉ rVals) ∧
      (a ∈ (trimSet fromSet rVals goneVals).2 ↔ a ∈ goneVals ∨ a ∈ fromSet ∧ a ∈ rVals) :=
  mem_foldl_trimVal rVals.elems (fromSet, goneVals) a

theorem mem_foldl_takeCommon (vals : List α) (sets : UnorderedSet α × UnorderedSet α × UnorderedSet α) (a : α) :
    (a ∈ (vals.foldl takeCommon sets).1 ↔ a ∈ sets.1 ∨ a ∈ sets.2.1 ∧ a ∈ vals) ∧
      (a ∈ (vals.foldl takeCommon sets).2.2 ↔ a ∈ sets.2.2 ∧ ¬ (a ∈ sets.2.1 ∧ a ∈ vals)) := by
  induction vals generalizing sets with
  | nil => simp
  | cons val rest ih =>
    obtain ⟨common, left⟩ := ih (takeCommon sets val)
    rw [List.foldl_cons, common, left, takeCommon]
    split_ifs with present
    · rcases eq_or_ne a val with rfl | other
      · simp [present]
      · simp [other]
    · rcases eq_or_ne a val with rfl | other
      · simp [present]
      · simp [other]

theorem mem_removeAndReturnInterset (s1 s2 : UnorderedSet α) (a : α) :
    (a ∈ (removeAndReturnInterset s1 s2).1 ↔ a ∈ s1 ∧ a ∈ s2) ∧
      (a ∈ (removeAndReturnInterset s1 s2).2.2 ↔ a ∈ s2 ∧ a ∉ s1) := by
  obtain ⟨common, left⟩ := mem_foldl_takeCommon s2.elems (.empty, s1, s2) a
  rw [removeAndReturnInterset, common, left]
  simp only [UnorderedSet.not_mem_empty, false_or, UnorderedSet.mem_elems]
  tauto

end Sets

namespace LocUnorderedSetMap

variable {KEY VAL : Type*} [DecidableEq KEY] {m : LocUnorderedSetMap KEY VAL} {key other : KEY} {val : VAL}
  {vals : UnorderedSet VAL}

/-- The value is in the set of the key. -/
def Linked (m : LocUnorderedSetMap KEY VAL) (key : KEY) (val : VAL) : Prop := val ∈ m.getValSet key

/-- The map has an entry for the key. -/
def HasKey (m : LocUnorderedSetMap KEY VAL) (key : KEY) : Prop := ∃ vals, m.getValSetPtr key = some vals

/-- No entry is empty. -/
def NonEmpty (m : LocUnorderedSetMap KEY VAL) : Prop := ∀ key vals, m.getValSetPtr key = some vals → ∃ val, val ∈ vals

instance [DecidableEq VAL] : Decidable (m.Linked key val) := inferInstanceAs (Decidable (val ∈ m.getValSet key))

@[simp] theorem mem_getValSet : val ∈ m.getValSet key ↔ m.Linked key val := Iff.rfl

theorem linked_iff : m.Linked key val ↔ ∃ vals, m.getValSetPtr key = some vals ∧ val ∈ vals := by
  rw [Linked, getValSet]
  cases m.getValSetPtr key with
  | none => simp
  | some vals => simp

/-- The keys are those with a value. -/
theorem NonEmpty.hasKey_iff (full : m.NonEmpty) : m.HasKey key ↔ ∃ val, m.Linked key val := by
  constructor
  · rintro ⟨vals, found⟩
    obtain ⟨val, member⟩ := full key vals found
    exact ⟨val, linked_iff.mpr ⟨vals, found, member⟩⟩
  · rintro ⟨val, linked⟩
    obtain ⟨vals, found, -⟩ := linked_iff.mp linked
    exact ⟨vals, found⟩

section Entries

theorem getValSetPtr_put : (m.put key vals).getValSetPtr other = if other = key then
    some vals else m.getValSetPtr other := by
  rw [getValSetPtr, put]
  split_ifs with same
  · subst same; exact AList.lookup_insert _
  · exact AList.lookup_insert_ne same

theorem getValSetPtr_remove : (m.remove key).getValSetPtr other = if other = key then
    none else m.getValSetPtr other := by
  rw [getValSetPtr, remove]
  split_ifs with same
  · subst same; exact AList.lookup_erase _ _
  · exact AList.lookup_erase_ne same

@[simp] theorem getValSetPtr_empty : (empty : LocUnorderedSetMap KEY VAL).getValSetPtr key = none :=
    AList.lookup_empty key

theorem linked_put : (m.put key vals).Linked other val ↔ if other = key then val ∈ vals else m.Linked other val := by
  rw [linked_iff, linked_iff, getValSetPtr_put]
  split_ifs with same <;> simp

theorem linked_remove : (m.remove key).Linked other val ↔ other ≠ key ∧ m.Linked other val := by
  rw [linked_iff, linked_iff, getValSetPtr_remove]
  split_ifs with same <;> simp [same]

theorem hasKey_put : (m.put key vals).HasKey other ↔ other = key ∨ m.HasKey other := by
  rw [HasKey, HasKey, getValSetPtr_put]
  split_ifs with same <;> simp [same]

theorem hasKey_remove : (m.remove key).HasKey other ↔ other ≠ key ∧ m.HasKey other := by
  rw [HasKey, HasKey, getValSetPtr_remove]
  split_ifs with same <;> simp [same]

@[simp] theorem not_linked_empty : ¬ (empty : LocUnorderedSetMap KEY VAL).Linked key val := by simp [linked_iff]

theorem nonEmpty_empty : (empty : LocUnorderedSetMap KEY VAL).NonEmpty := by
  intro key vals found
  rw [getValSetPtr_empty] at found
  cases found

theorem NonEmpty.put (full : m.NonEmpty) (some : ∃ val, val ∈ vals) : (m.put key vals).NonEmpty := by
  intro other vals' found
  rw [getValSetPtr_put] at found
  split_ifs at found
  · exact Option.some.inj found ▸ some
  · exact full other vals' found

theorem NonEmpty.remove (full : m.NonEmpty) (key : KEY) : (m.remove key).NonEmpty := by
  intro other vals found
  rw [getValSetPtr_remove] at found
  split_ifs at found
  exact full other vals found

end Entries

variable [DecidableEq VAL] {rVals newVals : UnorderedSet VAL}

section Trim

/-- Trimming the entries of some keys: the pairs of a key with a value to be removed go, and so does a key
when nothing is left of its entry. -/
structure Trims (rVals : UnorderedSet VAL) (keys : List KEY) (t t' : Trimmed KEY VAL) : Prop where
  full : t'.map.NonEmpty
  linked : ∀ key val, t'.map.Linked key val ↔ t.map.Linked key val ∧ ¬ (key ∈ keys ∧ val ∈ rVals)
  goneKeys : ∀ key, key ∈ t'.goneKeys ↔ key ∈ t.goneKeys ∨ t.map.HasKey key ∧ ¬ t'.map.HasKey key
  goneVals : ∀ val, val ∈ t'.goneVals ↔ val ∈ t.goneVals ∨ ∃ key ∈ keys, t.map.Linked key val ∧ val ∈ rVals

omit [DecidableEq VAL] in
theorem Trims.hasKey {keys : List KEY} {t t' : Trimmed KEY VAL} (full : t.map.NonEmpty) (trims : Trims rVals keys t t')
    (key : KEY) (there : t'.map.HasKey key) : t.map.HasKey key := by
  obtain ⟨val, linked⟩ := trims.full.hasKey_iff.mp there
  exact full.hasKey_iff.mpr ⟨val, ((trims.linked key val).mp linked).1⟩

theorem trims_trimEntry {t : Trimmed KEY VAL} (full : t.map.NonEmpty) (key : KEY) :
    Trims rVals [key] t (trimEntry rVals t key) := by
  rw [trimEntry]
  cases found : t.map.getValSetPtr key with
  | none =>
    have unlinked (val : VAL) : ¬ t.map.Linked key val := by simp [linked_iff, found]
    refine ⟨full, fun other val => ?_, fun other => ?_, fun val => ?_⟩
    · rcases eq_or_ne other key with rfl | different
      · simp [unlinked]
      · simp [different]
    · simp
    · simp [unlinked]
  | some vals =>
    have here (val : VAL) : t.map.Linked key val ↔ val ∈ vals := by simp [linked_iff, found]
    have left (val : VAL) := (mem_trimSet vals rVals t.goneVals val).1
    have gone (val : VAL) := (mem_trimSet vals rVals t.goneVals val).2
    dsimp only
    split_ifs with none
    · rw [UnorderedSet.isEmpty_iff] at none
      have removed (val : VAL) (member : val ∈ vals) : val ∈ rVals := by
        by_contra kept
        exact none val ((left val).mpr ⟨member, kept⟩)
      refine ⟨full.remove key, fun other val => ?_, fun other => ?_, fun val => ?_⟩
      · rw [linked_remove, List.mem_singleton]
        rcases eq_or_ne other key with rfl | different
        · simpa [here] using removed val
        · simp [different]
      · have there : t.map.HasKey key := ⟨vals, found⟩
        rcases eq_or_ne other key with rfl | different
        · simp [hasKey_remove, there]
        · simp [hasKey_remove, different]
      · simp [gone, here]
    · have rest := UnorderedSet.isEmpty_eq_false_iff.mp (Bool.not_eq_true _ ▸ none)
      refine ⟨full.put rest, fun other val => ?_, fun other => ?_, fun val => ?_⟩
      · rw [linked_put, List.mem_singleton]
        split_ifs with same
        · subst same; simp [left, here]
        · simp [same]
      · rcases eq_or_ne other key with rfl | different
        · simp [hasKey_put]
        · simp [hasKey_put, different]
      · simp [gone, here]

theorem trims_foldl {t : Trimmed KEY VAL} (full : t.map.NonEmpty) (keys : List KEY) :
    Trims rVals keys t (keys.foldl (trimEntry rVals) t) := by
  induction keys generalizing t with
  | nil => exact ⟨full, by simp, by simp, by simp⟩
  | cons key rest ih =>
    have first : Trims rVals [key] t (trimEntry rVals t key) := trims_trimEntry full key
    have later := ih first.full
    rw [List.foldl_cons]
    refine ⟨later.full, fun other val => ?_, fun other => ?_, fun val => ?_⟩
    · rw [later.linked, first.linked, List.mem_singleton, List.mem_cons]
      tauto
    · rw [later.goneKeys, first.goneKeys]
      have back : (trimEntry rVals t key).map.HasKey other → t.map.HasKey other := first.hasKey full other
      have back' := fun there : (rest.foldl (trimEntry rVals) (trimEntry rVals t key)).map.HasKey other =>
        later.hasKey first.full other there
      tauto
    · rw [later.goneVals, first.goneVals]
      simp only [first.linked, List.mem_cons, List.not_mem_nil, or_false, exists_eq_left, exists_eq_or_imp]
      constructor
      · rintro ((gone | here) | ⟨other, member, ⟨linked, -⟩, removed⟩)
        · exact .inl gone
        · exact .inr (.inl here)
        · exact .inr (.inr ⟨other, member, linked, removed⟩)
      · rintro (gone | here | ⟨other, member, linked, removed⟩)
        · exact .inl (.inl gone)
        · exact .inl (.inr here)
        · rcases eq_or_ne other key with rfl | different
          · exact .inl (.inr ⟨linked, removed⟩)
          · exact .inr ⟨other, member, ⟨linked, fun same => different same.1⟩, removed⟩

theorem trims_trimOrRemove (full : m.NonEmpty) (keys : UnorderedSet KEY) (rVals : UnorderedSet VAL) :
    Trims rVals keys.elems ⟨m, .empty, .empty⟩ (m.trimOrRemove keys rVals) :=
  trims_foldl full keys.elems

end Trim

section Add

/-- Adding values to the entries of some keys. -/
structure Adds (newVals : UnorderedSet VAL) (keys : List KEY) (acc acc' : LocUnorderedSetMap KEY VAL × UnorderedSet KEY) :
    Prop where
  full : acc'.1.NonEmpty
  linked : ∀ key val, acc'.1.Linked key val ↔ acc.1.Linked key val ∨ key ∈ keys ∧ val ∈ newVals
  newKeys : ∀ key, key ∈ acc'.2 ↔ key ∈ acc.2 ∨ ¬ acc.1.HasKey key ∧ acc'.1.HasKey key

omit [DecidableEq VAL] in
/-- The keys are the old ones and those that were given. -/
theorem Adds.hasKey_iff {keys : List KEY} {acc acc' : LocUnorderedSetMap KEY VAL × UnorderedSet KEY}
    (full : acc.1.NonEmpty)
    (adds : Adds newVals keys acc acc') (some : ∃ val, val ∈ newVals) (key : KEY) :
    acc'.1.HasKey key ↔ acc.1.HasKey key ∨ key ∈ keys := by
  rw [adds.full.hasKey_iff, full.hasKey_iff]
  simp only [adds.linked, exists_or, exists_and_left]
  tauto

theorem adds_addKey {acc : LocUnorderedSetMap KEY VAL × UnorderedSet KEY} (full : acc.1.NonEmpty) (key : KEY) :
    Adds newVals [key] acc (addKey newVals acc key) := by
  rw [addKey, add]
  cases none : newVals.isEmpty with
  | true =>
    rw [UnorderedSet.isEmpty_iff] at none
    exact ⟨full, by simp [none], by simp⟩
  | false =>
    obtain ⟨fresh, member⟩ := UnorderedSet.isEmpty_eq_false_iff.mp none
    cases found : acc.1.getValSetPtr key with
    | none =>
      refine ⟨full.put ⟨fresh, member⟩, fun other val => ?_, fun other => ?_⟩
      · have unlinked (val : VAL) : ¬ acc.1.Linked key val := by simp [linked_iff, found]
        simp only [Bool.false_eq_true, if_false, linked_put, List.mem_singleton]
        split_ifs with same
        · subst same; simp [unlinked]
        · simp [same]
      · have absent : ¬ acc.1.HasKey key := by simp [HasKey, found]
        simp only [Bool.false_eq_true, if_false, if_true, UnorderedSet.mem_insert, hasKey_put]
        rcases eq_or_ne other key with rfl | different
        · simp [absent]
        · simp [different]
    | some vals =>
      have here (val : VAL) : acc.1.Linked key val ↔ val ∈ vals := by simp [linked_iff, found]
      refine ⟨full.put ⟨fresh, by simp [member]⟩, fun other val => ?_, fun other => ?_⟩
      · simp only [Bool.false_eq_true, if_false, linked_put, List.mem_singleton]
        split_ifs with same
        · subst same; simp [here, or_comm]
        · simp [same]
      · have there : acc.1.HasKey key := ⟨vals, found⟩
        simp only [Bool.false_eq_true, if_false, hasKey_put]
        rcases eq_or_ne other key with rfl | different
        · simp [there]
        · simp [different]

theorem adds_foldl {acc : LocUnorderedSetMap KEY VAL × UnorderedSet KEY} (full : acc.1.NonEmpty) (keys : List KEY) :
    Adds newVals keys acc (keys.foldl (addKey newVals) acc) := by
  induction keys generalizing acc with
  | nil => exact ⟨full, by simp, by simp⟩
  | cons key rest ih =>
    have first : Adds newVals [key] acc (addKey newVals acc key) := adds_addKey full key
    have later := ih first.full
    rw [List.foldl_cons]
    refine ⟨later.full, fun other val => ?_, fun other => ?_⟩
    · rw [later.linked, first.linked, List.mem_singleton, List.mem_cons]
      tauto
    · have forth (there : acc.1.HasKey other) : (addKey newVals acc key).1.HasKey other := by
        obtain ⟨val, linked⟩ := full.hasKey_iff.mp there
        exact first.full.hasKey_iff.mpr ⟨val, (first.linked other val).mpr (.inl linked)⟩
      have forth' (there : (addKey newVals acc key).1.HasKey other) :
          (rest.foldl (addKey newVals) (addKey newVals acc key)).1.HasKey other := by
        obtain ⟨val, linked⟩ := first.full.hasKey_iff.mp there
        exact later.full.hasKey_iff.mpr ⟨val, (later.linked other val).mpr (.inl linked)⟩
      rw [later.newKeys, first.newKeys]
      tauto

theorem adds_addAll (full : m.NonEmpty) (keys : UnorderedSet KEY) (newVals : UnorderedSet VAL) :
    Adds newVals keys.elems (m, .empty) (m.addAll keys newVals) :=
  adds_foldl full keys.elems

theorem adds_add (full : m.NonEmpty) (key : KEY) (newVals : UnorderedSet VAL) :
    Adds newVals [key] (m, .empty) (addKey newVals (m, .empty) key) := by
  have fullEntries : (m, (UnorderedSet.empty : UnorderedSet KEY)).1.NonEmpty := full
  exact adds_addKey fullEntries key

end Add

end LocUnorderedSetMap

end Cypfr.LocUtil
