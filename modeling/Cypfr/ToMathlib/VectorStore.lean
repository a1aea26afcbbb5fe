import Mathlib.Data.Nat.Notation

/-! # Arrays of which only the front is in use

An array has room for a fixed number of elements and a count says how many are in use. What is written from the
front on leaves the elements behind it.
-/

namespace Vector

variable {α : Type*} {n : ℕ}

/-- The first `count` elements. -/
def front (elements : Vector α n) (count : ℕ) : List α := elements.toList.take count

/-- The elements after `items` have been written from the front on. -/
def store (elements : Vector α n) (items : List α) : Vector α n :=
  Vector.ofFn fun i => items[i.val]?.getD elements[i]

theorem length_front (elements : Vector α n) {count : ℕ} (room : count ≤ n) :
    (elements.front count).length = count := by
  rw [front, List.length_take, Vector.length_toList, Nat.min_eq_left room]

theorem getElem?_front {elements : Vector α n} {count i : ℕ} (inside : i < count) :
    (elements.front count)[i]? = elements[i]? := by
  rw [front, List.getElem?_take_of_lt inside, Vector.getElem?_toList]

/-- What has been written is in front, and what was behind it still is. -/
theorem front_store_append (elements : Vector α n) {items : List α} {count : ℕ} (written : items.length ≤ count)
    (room : count ≤ n) :
    (elements.store items).front count = items ++ (elements.front count).drop items.length := by
  apply List.ext_getElem?
  intro i
  by_cases inside : i < count
  · have bound : i < n := by omega
    rw [getElem?_front inside, Vector.getElem?_eq_getElem bound, store, Vector.getElem_ofFn]
    by_cases new : i < items.length
    · rw [List.getElem?_append_left new, List.getElem?_eq_getElem new, Option.getD_some]
    · have back : items.length + (i - items.length) = i := by omega
      have missing : items[i]? = none := List.getElem?_eq_none (by omega)
      rw [List.getElem?_append_right (by omega), List.getElem?_drop, back, getElem?_front inside,
        Vector.getElem?_eq_getElem bound, missing]
      rfl
  · rw [List.getElem?_eq_none (by rw [length_front _ room]; omega), List.getElem?_eq_none]
    rw [List.length_append, List.length_drop, length_front _ room]
    omega

/-- What has been written is in front. -/
theorem front_store (elements : Vector α n) {items : List α} (room : items.length ≤ n) :
    (elements.store items).front items.length = items := by
  rw [front_store_append elements (Nat.le_refl _) room, List.drop_eq_nil_of_le, List.append_nil]
  exact Nat.le_of_eq (length_front elements room)

/-- The elements in use are got back from where they were copied. -/
theorem front_store_front (elements others : Vector α n) {count : ℕ} (room : count ≤ n) :
    (elements.store (others.front count)).front count = others.front count := by
  have all := length_front others room
  have written := front_store elements (Nat.le_trans (Nat.le_of_eq all) room)
  rwa [all] at written

theorem front_self (elements : Vector α n) : elements.front n = elements.toList :=
  List.take_of_length_le (by simp)

/-- An array that is copied whole is got back whole. -/
theorem store_front_self (elements others : Vector α n) : elements.store (others.front n) = others := by
  refine Vector.toList_inj.mp ?_
  rw [← front_self, ← front_self, front_store_front _ _ (Nat.le_refl n)]

section Copy

variable {β : Type*} {f : β → α} {source : List β}

/-- A loop that copies elements from `i` on; none if it reads past the end of the source or writes past that of the
array. -/
def copyLoop (f : β → α) (source : List β) : ℕ → ℕ → Vector α n → Option (Vector α n)
  | 0, _, elements => some elements
  | rounds + 1, i, elements =>
    (source[i]?).bind fun item =>
      if inside : i < n then copyLoop f source rounds (i + 1) (elements.set i (f item) inside) else none

/-- Copy the first elements of a source. -/
def copy (f : β → α) (source : List β) (count : ℕ) (elements : Vector α n) : Option (Vector α n) :=
  copyLoop f source count 0 elements

theorem isSome_copyLoop {rounds i : ℕ} (elements : Vector α n) : (copyLoop f source rounds i elements).isSome = true ↔
    rounds = 0 ∨ i + rounds ≤ source.length ∧ i + rounds ≤ n := by
  induction rounds generalizing i elements with
  | zero => exact iff_of_true rfl (Or.inl rfl)
  | succ rounds ih =>
    rw [copyLoop]
    cases item : source[i]? with
    | none =>
      have short := List.getElem?_eq_none_iff.mp item
      exact iff_of_false Bool.false_ne_true (by omega)
    | some x =>
      obtain ⟨long, -⟩ := List.getElem?_eq_some_iff.mp item
      rw [Option.bind_some]
      by_cases inside : i < n
      · rw [dif_pos inside, ih]
        omega
      · rw [dif_neg inside]
        exact iff_of_false Bool.false_ne_true (by omega)

/-- A copy stays inside exactly when the source has as many elements, and the array room for them. -/
theorem isSome_copy {count : ℕ} (elements : Vector α n) :
    (copy f source count elements).isSome = true ↔ count ≤ source.length ∧ count ≤ n := by
  rw [copy, isSome_copyLoop]
  omega

theorem store_nil (elements : Vector α n) : elements.store [] = elements := by
  apply Vector.ext
  intro i inside
  rw [store, Vector.getElem_ofFn]
  rfl

/-- What is written behind what has been written. -/
theorem set_store {items : List α} {i : ℕ} (elements : Vector α n) (x : α) (inside : i < n)
    (written : items.length = i) :
    (elements.store items).set i x inside = elements.store (items ++ [x]) := by
  subst written
  apply Vector.ext
  intro j bound
  rw [Vector.getElem_set, store, store, Vector.getElem_ofFn, Vector.getElem_ofFn]
  by_cases same : items.length = j
  · subst same
    rw [if_pos rfl, List.getElem?_concat_length, Option.getD_some]
  · rw [if_neg same, List.getElem?_append]
    by_cases old : j < items.length
    · rw [if_pos old]
    · have behind : ([x] : List α)[j - items.length]? = none := List.getElem?_eq_none (by simp; omega)
      have after : items[j]? = none := List.getElem?_eq_none (by omega)
      change (items[j]?).getD elements[j] = _
      rw [if_neg old, behind, after]
      rfl

theorem copyLoop_store {rounds i : ℕ} (elements : Vector α n) (long : i + rounds ≤ source.length)
    (room : i + rounds ≤ n) :
    copyLoop f source rounds i (elements.store ((source.take i).map f)) =
      some (elements.store ((source.take (i + rounds)).map f)) := by
  induction rounds generalizing i with
  | zero => rfl
  | succ rounds ih =>
    have here : i < source.length := by omega
    have inside : i < n := by omega
    have written : ((source.take i).map f).length = i := by
      rw [List.length_map, List.length_take, Nat.min_eq_left (by omega)]
    have next : (source.take i).map f ++ [f source[i]] = (source.take (i + 1)).map f := by
      rw [List.take_succ_eq_append_getElem here, List.map_append, List.map_singleton]
    rw [copyLoop, List.getElem?_eq_getElem here, Option.bind_some, dif_pos inside,
      set_store elements (f source[i]) inside written, next, ih (by omega) (by omega), Nat.add_right_comm,
        Nat.add_assoc]

/-- A copy that stays inside writes the first elements of the source. -/
theorem copy_eq {count : ℕ} (elements : Vector α n) (long : count ≤ source.length) (room : count ≤ n) :
    copy f source count elements = some (elements.store ((source.take count).map f)) := by
  have whole : copyLoop f source count 0 (elements.store ((source.take 0).map f)) =
      some (elements.store ((source.take (0 + count)).map f)) := copyLoop_store elements (by omega) (by omega)
  rw [List.take_zero, List.map_nil, store_nil, Nat.zero_add] at whole
  exact whole

end Copy

end Vector
