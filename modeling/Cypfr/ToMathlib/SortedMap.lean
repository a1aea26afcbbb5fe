import Mathlib.Order.Lattice
import Mathlib.Data.List.Nodup

/-! # Maps that are iterated in the order of their keys

A finite map as a sorted container holds it: its entries in the order of their keys, each key once. Loops
over the map are folds over the entries; what the operations do is stated by membership.
-/

/-- Keys of 32 bits are ordered as numbers. -/
instance UInt32.instLinearOrder : LinearOrder UInt32 where
  le_refl a := Nat.le_refl a.toNat
  le_trans a b c := Nat.le_trans (n := a.toNat) (m := b.toNat) (k := c.toNat)
  le_antisymm a b below above := UInt32.toNat_inj.mp (Nat.le_antisymm below above)
  le_total a b := Nat.le_total a.toNat b.toNat
  lt_iff_le_not_ge a b := Nat.lt_iff_le_and_not_ge (m := a.toNat) (n := b.toNat)
  toDecidableLE := fun a b => inferInstanceAs (Decidable (a ≤ b))
  toDecidableLT := fun a b => inferInstanceAs (Decidable (a < b))
  toDecidableEq := instDecidableEqUInt32

/-- Entries with increasing keys. -/
structure SortedMap (κ ν : Type*) [LinearOrder κ] where
  entries : List (κ × ν)
  sorted : entries.Pairwise fun a b => a.1 < b.1

namespace SortedMap

variable {κ ν : Type*} [LinearOrder κ] {m : SortedMap κ ν} {k k' : κ} {v v' : ν}

instance : Membership κ (SortedMap κ ν) := ⟨fun m k => ∃ v, (k, v) ∈ m.entries⟩

theorem mem_iff : k ∈ m ↔ ∃ v, (k, v) ∈ m.entries := Iff.rfl

def empty : SortedMap κ ν := ⟨[], List.Pairwise.nil⟩

def find? (m : SortedMap κ ν) (k : κ) : Option ν := (m.entries.find? fun entry => entry.1 = k).map Prod.snd

def contains (m : SortedMap κ ν) (k : κ) : Bool := (m.find? k).isSome

def size (m : SortedMap κ ν) : ℕ := m.entries.length

def isEmpty (m : SortedMap κ ν) : Bool := m.entries.isEmpty

/-- Make a value the one of a key. -/
def insert (m : SortedMap κ ν) (k : κ) (v : ν) : SortedMap κ ν where
  entries := m.entries.filter (fun entry => entry.1 < k) ++ (k, v) :: m.entries.filter fun entry => k < entry.1
  sorted := by
    refine List.pairwise_append.mpr ⟨m.sorted.filter _, List.pairwise_cons.mpr ⟨?_, m.sorted.filter _⟩, ?_⟩
    · intro entry member
      exact of_decide_eq_true (List.mem_filter.mp member).2
    · intro first low second rest
      have below : first.1 < k := of_decide_eq_true (List.mem_filter.mp low).2
      rcases List.mem_cons.mp rest with rfl | high
      · exact below
      · exact below.trans (of_decide_eq_true (List.mem_filter.mp high).2)

def erase (m : SortedMap κ ν) (k : κ) : SortedMap κ ν :=
  ⟨m.entries.filter fun entry => entry.1 ≠ k, m.sorted.filter _⟩

/-- Change all values. -/
def mapValues (m : SortedMap κ ν) (f : ν → ν) : SortedMap κ ν :=
  ⟨m.entries.map fun entry => (entry.1, f entry.2), List.pairwise_map.mpr m.sorted⟩

@[simp] theorem mem_entries_insert {entry : κ × ν} :
    entry ∈ (m.insert k v).entries ↔ entry = (k, v) ∨ entry.1 ≠ k ∧ entry ∈ m.entries := by
  simp only [insert, List.mem_append, List.mem_filter, List.mem_cons, decide_eq_true_eq]
  constructor
  · rintro (⟨member, below⟩ | rfl | ⟨member, above⟩)
    · exact .inr ⟨below.ne, member⟩
    · exact .inl rfl
    · exact .inr ⟨above.ne', member⟩
  · rintro (rfl | ⟨other, member⟩)
    · exact .inr (.inl rfl)
    · rcases lt_or_gt_of_ne other with below | above
      · exact .inl ⟨member, below⟩
      · exact .inr (.inr ⟨member, above⟩)

@[simp] theorem mem_entries_erase {entry : κ × ν} :
    entry ∈ (m.erase k).entries ↔ entry.1 ≠ k ∧ entry ∈ m.entries := by
  simp [erase, and_comm]

@[simp] theorem mem_insert : k' ∈ m.insert k v ↔ k' = k ∨ k' ∈ m := by
  simp only [mem_iff, mem_entries_insert, Prod.mk.injEq]
  rcases eq_or_ne k' k with rfl | other
  · simp
  · simp [other]

@[simp] theorem mem_erase : k' ∈ m.erase k ↔ k' ≠ k ∧ k' ∈ m := by
  simp [mem_iff]

theorem notMem_erase_self : k ∉ m.erase k := fun member => (mem_erase.mp member).1 rfl

@[simp] theorem not_mem_empty : k ∉ (empty : SortedMap κ ν) := by
  simp [mem_iff, empty]

theorem erase_of_notMem (notMem : k ∉ m) : m.erase k = m := by
  have all : m.entries.filter (fun entry => entry.1 ≠ k) = m.entries := by
    refine List.filter_eq_self.mpr fun entry member => decide_eq_true ?_
    rintro rfl
    exact notMem ⟨entry.2, member⟩
  rw [erase]
  congr

theorem nodup_keys : (m.entries.map Prod.fst).Nodup :=
  List.pairwise_map.mpr (m.sorted.imp ne_of_lt)

/-- A key has one value. -/
theorem eq_of_mem (first : (k, v) ∈ m.entries) (second : (k, v') ∈ m.entries) : v = v' :=
  congrArg Prod.snd (List.inj_on_of_nodup_map nodup_keys first second rfl)

theorem find?_eq_some_iff : m.find? k = some v ↔ (k, v) ∈ m.entries := by
  rw [find?, Option.map_eq_some_iff]
  constructor
  · rintro ⟨⟨k', v'⟩, found, rfl⟩
    have same : k' = k := by simpa using List.find?_some found
    exact same ▸ List.mem_of_find?_eq_some found
  · intro member
    obtain ⟨entry, found⟩ := Option.isSome_iff_exists.mp
      (List.find?_isSome.mpr ⟨(k, v), member, decide_eq_true rfl⟩ :
        (m.entries.find? fun entry => decide (entry.1 = k)).isSome = true)
    refine ⟨entry, found, ?_⟩
    have same : entry.1 = k := by simpa using List.find?_some found
    exact eq_of_mem (same ▸ List.mem_of_find?_eq_some found) member

theorem contains_iff : m.contains k = true ↔ k ∈ m := by
  rw [contains, Option.isSome_iff_exists]
  exact exists_congr fun _ => find?_eq_some_iff

theorem contains_eq_false_iff : m.contains k = false ↔ k ∉ m := by
  rw [← contains_iff, Bool.not_eq_true]

theorem find?_eq_none_iff : m.find? k = none ↔ k ∉ m := by
  rw [← contains_iff, contains, Option.isSome_iff_ne_none, not_not]

theorem mem_iff_find? : k ∈ m ↔ ∃ v, m.find? k = some v := exists_congr fun _ => find?_eq_some_iff.symm

@[simp] theorem find?_empty : (empty : SortedMap κ ν).find? k = none := rfl

theorem find?_insert : (m.insert k v).find? k' = if k' = k then some v else m.find? k' := by
  refine Option.ext fun value => ?_
  rw [find?_eq_some_iff, mem_entries_insert]
  split_ifs with same
  · simp [same, eq_comm]
  · simp [same, find?_eq_some_iff]

theorem find?_erase : (m.erase k).find? k' = if k' = k then none else m.find? k' := by
  refine Option.ext fun value => ?_
  rw [find?_eq_some_iff, mem_entries_erase]
  split_ifs with same
  · simp [same]
  · simp [same, find?_eq_some_iff]

theorem find?_insert_self : (m.insert k v).find? k = some v := find?_insert.trans (if_pos rfl)

theorem find?_insert_of_ne (other : k' ≠ k) : (m.insert k v).find? k' = m.find? k' :=
  find?_insert.trans (if_neg other)

theorem find?_erase_of_ne (other : k' ≠ k) : (m.erase k).find? k' = m.find? k' := find?_erase.trans (if_neg other)

/-- To change the value of a key only if it has one. -/
theorem find?_insert_of_contains : (if m.contains k then m.insert k v else m).find? k' =
    if k' = k then (m.find? k).map fun _ => v else m.find? k' := by
  cases found : m.find? k with
  | none =>
    rw [contains, found, if_neg (by rintro ⟨⟩)]
    split_ifs with same
    · exact same ▸ found
    · rfl
  | some value =>
    rw [contains, found, if_pos Option.isSome_some, find?_insert]
    rfl

theorem find?_foldl_erase_of_notMem {keys : List κ} (notAmong : k ∉ keys) :
    (keys.foldl erase m).find? k = m.find? k := by
  induction keys generalizing m with
  | nil => rfl
  | cons first rest ih =>
    rw [List.mem_cons, not_or] at notAmong
    obtain ⟨other, notAmong⟩ := notAmong
    rw [List.foldl_cons, ih notAmong, find?_erase, if_neg other]

theorem find?_foldl_erase_of_mem {keys : List κ} (among : k ∈ keys) : (keys.foldl erase m).find? k = none := by
  induction keys generalizing m with
  | nil => cases among
  | cons first rest ih =>
    rw [List.foldl_cons]
    by_cases later : k ∈ rest
    · exact ih later
    · rw [find?_foldl_erase_of_notMem later, find?_erase, if_pos ((List.mem_cons.mp among).resolve_right later)]

theorem find?_mapValues {f : ν → ν} : (m.mapValues f).find? k = (m.find? k).map f := by
  refine Option.ext fun value => ?_
  rw [find?_eq_some_iff, Option.map_eq_some_iff, mapValues, List.mem_map]
  simp only [find?_eq_some_iff, Prod.mk.injEq]
  constructor
  · rintro ⟨⟨key, before⟩, member, rfl, rfl⟩
    exact ⟨before, member, rfl⟩
  · rintro ⟨before, member, rfl⟩
    exact ⟨(k, before), member, rfl, rfl⟩

@[simp] theorem mem_mapValues {f : ν → ν} : k ∈ m.mapValues f ↔ k ∈ m := by
  simp only [mem_iff_find?, find?_mapValues, Option.map_eq_some_iff]
  exact ⟨fun ⟨_, v, found, _⟩ => ⟨v, found⟩, fun ⟨v, found⟩ => ⟨f v, v, found, rfl⟩⟩

/-- A map is what its keys lead to. -/
theorem ext_find? {m' : SortedMap κ ν} (same : ∀ k, m.find? k = m'.find? k) : m = m' := by
  have members (entry : κ × ν) : entry ∈ m.entries ↔ entry ∈ m'.entries := by
    rw [← find?_eq_some_iff, ← find?_eq_some_iff, same]
  have perm : m.entries.Perm m'.entries :=
    (List.perm_ext_iff_of_nodup (List.Nodup.of_map _ nodup_keys) (List.Nodup.of_map _ nodup_keys)).mpr members
  have entries := perm.eq_of_pairwise (fun _ _ _ _ below above => absurd (below.trans above) (lt_irrefl _)) m.sorted
    m'.sorted
  cases m
  cases m'
  congr

/-- An entry that is taken out and put back is the one that was there. -/
theorem insert_erase_eq_iff : (m.erase k).insert k v = m ↔ m.find? k = some v := by
  constructor
  · intro same
    rw [← same]
    exact find?_insert_self
  · intro found
    apply ext_find?
    intro other
    rw [find?_insert, find?_erase]
    split_ifs with isKey
    · rw [isKey, found]
    · rfl

theorem erase_eq_iff : m.erase k = m ↔ k ∉ m :=
  ⟨fun same => same ▸ notMem_erase_self, erase_of_notMem⟩

theorem find?_foldl_insert_of_notMem {f : ν → ν} {entries : List (κ × ν)} (notAmong : k ∉ entries.map Prod.fst) :
    (entries.foldl (fun m entry => m.insert entry.1 (f entry.2)) m).find? k = m.find? k := by
  induction entries generalizing m with
  | nil => rfl
  | cons first rest ih =>
    rw [List.map_cons, List.mem_cons, not_or] at notAmong
    obtain ⟨other, notAmong⟩ := notAmong
    rw [List.foldl_cons, ih notAmong, find?_insert, if_neg other]

theorem find?_foldl_insert_of_mem {f : ν → ν} {entries : List (κ × ν)} (nodup : (entries.map Prod.fst).Nodup)
    (member : (k, v) ∈ entries) :
    (entries.foldl (fun m entry => m.insert entry.1 (f entry.2)) m).find? k = some (f v) := by
  induction entries generalizing m with
  | nil => cases member
  | cons first rest ih =>
    obtain ⟨notRest, nodup⟩ := List.nodup_cons.mp nodup
    rw [List.foldl_cons]
    rcases List.mem_cons.mp member with rfl | later
    · rw [find?_foldl_insert_of_notMem notRest, find?_insert, if_pos rfl]
    · exact ih nodup later

/-- To set each value in turn is to change all. -/
theorem foldl_insert_entries {f : ν → ν} :
    m.entries.foldl (fun m entry => m.insert entry.1 (f entry.2)) m = m.mapValues f := by
  refine ext_find? fun k => ?_
  rw [find?_mapValues]
  cases found : m.find? k with
  | none =>
    refine (find?_foldl_insert_of_notMem fun among => ?_).trans found
    obtain ⟨⟨_, v⟩, member, rfl⟩ := List.mem_map.mp among
    exact find?_eq_none_iff.mp found ⟨v, member⟩
  | some v => exact find?_foldl_insert_of_mem nodup_keys (find?_eq_some_iff.mp found)

theorem isEmpty_iff : m.isEmpty = true ↔ ∀ k, k ∉ m := by
  rw [isEmpty, List.isEmpty_iff, List.eq_nil_iff_forall_not_mem]
  constructor
  · rintro none k ⟨v, member⟩
    exact none (k, v) member
  · rintro none ⟨k, v⟩ member
    exact none k ⟨v, member⟩

theorem size_eq_zero_iff : m.size = 0 ↔ ∀ k, k ∉ m := by
  rw [← isEmpty_iff, isEmpty, List.isEmpty_iff, size, List.length_eq_zero_iff]

/-- A map of one entry has one key. -/
theorem eq_of_size_one (one : m.size = 1) (first : k ∈ m) (second : k' ∈ m) : k = k' := by
  obtain ⟨entry, entries⟩ := List.length_eq_one_iff.mp one
  obtain ⟨v, first⟩ := first
  obtain ⟨v', second⟩ := second
  rw [entries, List.mem_singleton] at first second
  exact congrArg Prod.fst (first.trans second.symm)

/-- Nothing is left without the key of a map of one entry. -/
theorem isEmpty_erase_iff (member : k ∈ m) : (m.erase k).isEmpty = true ↔ m.size = 1 := by
  constructor
  · intro none
    have only : ∀ key ∈ m.entries.map Prod.fst, key = k := by
      intro key among
      obtain ⟨⟨key, value⟩, entry, rfl⟩ := List.mem_map.mp among
      by_contra other
      exact isEmpty_iff.mp none key (mem_erase.mpr ⟨other, value, entry⟩)
    have distinct := nodup_keys (m := m)
    rw [List.eq_replicate_of_mem only, List.nodup_replicate, List.length_map] at distinct
    obtain ⟨value, entry⟩ := member
    exact Nat.le_antisymm distinct (List.length_pos_of_mem entry)
  · intro one
    refine isEmpty_iff.mpr fun key among => ?_
    obtain ⟨other, among⟩ := mem_erase.mp among
    exact other (eq_of_size_one one among member)

theorem size_insert_of_notMem (absent : k ∉ m) : (m.insert k v).size = m.size + 1 := by
  have apart (entry : κ × ν) (member : entry ∈ m.entries) : ¬ entry.1 < k ↔ k < entry.1 := by
    refine ⟨fun above => lt_of_le_of_ne (not_lt.mp above) fun same => ?_, fun above => above.le.not_gt⟩
    exact absent ⟨entry.2, same ▸ member⟩
  have above : m.entries.filter (fun entry => k < entry.1) = m.entries.filter fun entry => ¬ entry.1 < k :=
    List.filter_congr fun entry member => decide_eq_decide.mpr (apart entry member).symm
  have split := List.length_eq_length_filter_add (l := m.entries) fun entry => decide (entry.1 < k)
  rw [size, size, insert, List.length_append, List.length_cons, above, split]
  simp only [decide_not, Nat.add_assoc]

theorem size_erase_of_mem (member : k ∈ m) : (m.erase k).size + 1 = m.size := by
  obtain ⟨v, found⟩ := mem_iff_find?.mp member
  have back : (m.erase k).insert k v = m := insert_erase_eq_iff.mpr found
  rw [← size_insert_of_notMem notMem_erase_self, back]

theorem size_insert_of_mem (member : k ∈ m) : (m.insert k v).size = m.size := by
  have same : m.insert k v = (m.erase k).insert k v := by
    refine ext_find? fun k' => ?_
    rw [find?_insert, find?_insert, find?_erase]
    split <;> rfl
  rw [same, size_insert_of_notMem notMem_erase_self, size_erase_of_mem member]

end SortedMap
