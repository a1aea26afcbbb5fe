import Mathlib.Data.List.Basic
import Mathlib.Data.List.Nodup

/-! # Doubly linked cells

Cells at addresses that are linked in both directions in the order of a list. A cell is put in front, or taken out
anywhere, by changing the links of its neighbours.
-/

/-- How the links and the data of a cell are read. -/
structure CellView (C α : Type*) where
  next : C → Option ℕ
  prev : C → Option ℕ
  data : C → α

namespace CellView

variable {C α : Type*} {v : CellView C α}

/-- The address of the first of some cells. -/
def firstOf (chain : List (ℕ × α)) : Option ℕ := chain.head?.map Prod.fst

/-- The address of the last of some cells. -/
def lastOf (chain : List (ℕ × α)) : Option ℕ := chain.getLast?.map Prod.fst

variable {chain front back : List (ℕ × α)} {address : ℕ} {data : α}

@[simp] theorem firstOf_cons : firstOf ((address, data) :: chain) = some address := rfl

@[simp] theorem lastOf_concat : lastOf (chain ++ [(address, data)]) = some address := by
  rw [lastOf, List.getLast?_concat, Option.map_some]

theorem firstOf_append_cons : firstOf (front ++ (address, data) :: back) = (firstOf front).or (some address) := by
  cases front <;> rfl

theorem lastOf_append_cons : lastOf (front ++ (address, data) :: back) = (lastOf back).or (some address) := by
  rw [lastOf, List.getLast?_append, List.getLast?_cons, lastOf]
  cases back.getLast? <;> rfl

theorem firstOf_append : firstOf (front ++ back) = (firstOf front).or (firstOf back) := by
  cases front <;> rfl

theorem lastOf_append : lastOf (front ++ back) = (lastOf back).or (lastOf front) := by
  rw [lastOf, List.getLast?_append, lastOf, lastOf]
  cases back.getLast? <;> rfl

theorem mem_of_firstOf (first : firstOf chain = some address) : address ∈ chain.map Prod.fst := by
  obtain ⟨cell, there, rfl⟩ := Option.map_eq_some_iff.mp first
  exact List.mem_map_of_mem (List.mem_of_head? there)

theorem mem_of_lastOf (last : lastOf chain = some address) : address ∈ chain.map Prod.fst := by
  obtain ⟨cell, there, rfl⟩ := Option.map_eq_some_iff.mp last
  exact List.mem_map_of_mem (List.mem_of_getLast? there)

theorem firstOf_eq_none : firstOf chain = none ↔ chain = [] := by
  rw [firstOf, Option.map_eq_none_iff, List.head?_eq_none_iff]

theorem lastOf_eq_none : lastOf chain = none ↔ chain = [] := by
  rw [lastOf, Option.map_eq_none_iff, List.getLast?_eq_none_iff]

/-- Cells that have a last one have a first one. -/
theorem exists_firstOf (last : lastOf chain = some address) : ∃ first, firstOf chain = some first := by
  refine Option.ne_none_iff_exists'.mp fun none => ?_
  rw [firstOf_eq_none.mp none] at last
  cases last

theorem exists_lastOf (first : firstOf chain = some address) : ∃ last, lastOf chain = some last := by
  refine Option.ne_none_iff_exists'.mp fun none => ?_
  rw [lastOf_eq_none.mp none] at first
  cases first

variable (v)

/-- The cells are those of a list, in its order, and lead to each other in both directions. -/
structure Linked (read : ℕ → Option C) (head tail : Option ℕ) (chain : List (ℕ × α)) : Prop where
  apart : (chain.map Prod.fst).Nodup
  first : head = firstOf chain
  last : tail = lastOf chain
  cell : ∀ before address data after, chain = before ++ (address, data) :: after →
    ∃ c, read address = some c ∧ v.data c = data ∧ v.next c = firstOf after ∧ v.prev c = lastOf before
  only : ∀ address c, read address = some c → address ∈ chain.map Prod.fst

/-- The cells from one on lead forward in the order of a list. -/
def Forward (read : ℕ → Option C) : List (ℕ × α) → Prop
  | [] => True
  | (address, data) :: rest =>
    (∃ c, read address = some c ∧ v.data c = data ∧ v.next c = firstOf rest) ∧ Forward read rest

variable {v} {read read' : ℕ → Option C} {head tail head' tail' : Option ℕ}

theorem linked_nil : v.Linked (fun _ => none) none none [] where
  apart := List.nodup_nil
  first := rfl
  last := rfl
  cell := by
    intro before address data after whole
    exact absurd whole.symm (List.append_ne_nil_of_right_ne_nil _ (List.cons_ne_nil _ _))
  only := nofun

theorem Forward.congr (forward : v.Forward read chain)
    (same : ∀ address ∈ chain.map Prod.fst, read' address = read address) : v.Forward read' chain := by
  induction chain with
  | nil => trivial
  | cons cell rest ih =>
    obtain ⟨⟨c, there, held⟩, later⟩ := forward
    refine ⟨⟨c, ?_, held⟩, ih later fun address member => same address (List.mem_cons_of_mem _ member)⟩
    rw [same _ List.mem_cons_self, there]

namespace Linked

theorem forward (linked : v.Linked read head tail chain) : v.Forward read chain := by
  have each : ∀ before after, chain = before ++ after → v.Forward read after := by
    intro before after whole
    induction after generalizing before with
    | nil => trivial
    | cons cell rest ih =>
      obtain ⟨c, there, held, next, -⟩ := linked.cell before cell.1 cell.2 rest whole
      exact ⟨⟨c, there, held, next⟩, ih (before ++ [cell]) (by rw [whole, List.append_assoc, List.singleton_append])⟩
  exact each [] chain rfl

/-- A cell stands somewhere in the list. -/
theorem exists_split (linked : v.Linked read head tail chain) {c : C} (there : read address = some c) :
    ∃ before after, chain = before ++ (address, v.data c) :: after ∧ v.next c = firstOf after ∧
      v.prev c = lastOf before := by
  obtain ⟨cell, member, rfl⟩ := List.mem_map.mp (linked.only address c there)
  obtain ⟨before, after, whole⟩ := List.append_of_mem member
  obtain ⟨c', there', held, next, prev⟩ := linked.cell before cell.1 cell.2 after whole
  have same : c = c' := Option.some_inj.mp (there.symm.trans there')
  rw [same]
  exact ⟨before, after, by rw [held, whole], next, prev⟩

theorem head_eq_none_iff (linked : v.Linked read head tail chain) : head = none ↔ chain = [] := by
  rw [linked.first, firstOf_eq_none]

theorem tail_eq_none_iff (linked : v.Linked read head tail chain) : tail = none ↔ chain = [] := by
  rw [linked.last, lastOf_eq_none]

/-- The first cell leads to none before it. -/
theorem prev_head (linked : v.Linked read (some address) tail chain) :
    ∃ c, read address = some c ∧ v.prev c = none := by
  have first := linked.first
  cases chain with
  | nil => cases first
  | cons cell rest =>
    obtain ⟨c, there, -, -, prev⟩ := linked.cell [] cell.1 cell.2 rest rfl
    exact ⟨c, by rw [Option.some_inj.mp first, ← there], prev⟩

/-- The last cell leads to none after it. -/
theorem next_tail (linked : v.Linked read head (some address) chain) :
    ∃ c, read address = some c ∧ v.next c = none := by
  obtain ⟨cell, there, rfl⟩ := Option.map_eq_some_iff.mp linked.last.symm
  obtain ⟨before, whole⟩ := List.getLast?_eq_some_iff.mp there
  obtain ⟨c, there, -, next, -⟩ := linked.cell before cell.1 cell.2 [] whole
  exact ⟨c, there, next⟩

/-- The cell after one leads back to it. -/
theorem prev_of_next (linked : v.Linked read head tail chain) {c : C} {other : ℕ} (there : read address = some c)
    (next : v.next c = some other) : ∃ c', read other = some c' ∧ v.prev c' = some address := by
  obtain ⟨before, after, whole, next', -⟩ := linked.exists_split there
  rw [next] at next'
  cases after with
  | nil => cases next'
  | cons cell rest =>
    have split : chain = (before ++ [(address, v.data c)]) ++ cell :: rest := by
      rw [whole, List.append_assoc, List.singleton_append]
    obtain ⟨c', there', -, -, prev⟩ := linked.cell _ cell.1 cell.2 rest split
    exact ⟨c', by rw [Option.some_inj.mp next', ← there'], by rw [prev, lastOf_concat]⟩

/-- The cell before one leads on to it. -/
theorem next_of_prev (linked : v.Linked read head tail chain) {c : C} {other : ℕ} (there : read address = some c)
    (prev : v.prev c = some other) : ∃ c', read other = some c' ∧ v.next c' = some address := by
  obtain ⟨before, after, whole, -, prev'⟩ := linked.exists_split there
  rw [prev] at prev'
  obtain ⟨cell, last, rfl⟩ := Option.map_eq_some_iff.mp prev'.symm
  obtain ⟨before', split⟩ := List.getLast?_eq_some_iff.mp last
  have split' : chain = before' ++ cell :: (address, v.data c) :: after := by
    rw [whole, split, List.append_assoc, List.singleton_append]
  obtain ⟨c', there', -, next, -⟩ := linked.cell before' cell.1 cell.2 _ split'
  exact ⟨c', there', next⟩

/-- Only the cell before one leads on to it. -/
theorem next_eq_iff (linked : v.Linked read head tail (front ++ (address, data) :: back)) {c : C} {other : ℕ}
    (there : read other = some c) : v.next c = some address ↔ lastOf front = some other := by
  obtain ⟨own, present, -, -, prev⟩ := linked.cell front address data back rfl
  constructor
  · intro next
    obtain ⟨own', present', prev'⟩ := linked.prev_of_next there next
    obtain rfl := Option.some_inj.mp (present.symm.trans present')
    rw [← prev, prev']
  · intro last
    obtain ⟨c', there', next⟩ := linked.next_of_prev present (prev.trans last)
    obtain rfl := Option.some_inj.mp (there.symm.trans there')
    exact next

/-- Only the cell after one leads back to it. -/
theorem prev_eq_iff (linked : v.Linked read head tail (front ++ (address, data) :: back)) {c : C} {other : ℕ}
    (there : read other = some c) : v.prev c = some address ↔ firstOf back = some other := by
  obtain ⟨own, present, -, next, -⟩ := linked.cell front address data back rfl
  constructor
  · intro prev
    obtain ⟨own', present', next'⟩ := linked.next_of_prev there prev
    obtain rfl := Option.some_inj.mp (present.symm.trans present')
    rw [← next, next']
  · intro first
    obtain ⟨c', there', prev⟩ := linked.prev_of_next present (next.trans first)
    obtain rfl := Option.some_inj.mp (there.symm.trans there')
    exact prev

/-- A new cell is put in front. -/
theorem cons (linked : v.Linked read head tail chain) (read' : ℕ → Option C) (new : C) (fresh : read address = none)
    (made : read' address = some new) (held : v.data new = data) (next : v.next new = head) (prev : v.prev new = none)
    (kept : ∀ other c, other ≠ address → read other = some c → ∃ c', read' other = some c' ∧ v.data c' = v.data c ∧
      v.next c' = v.next c ∧ v.prev c' = if head = some other then some address else v.prev c)
    (others : ∀ other, other ≠ address → read other = none → read' other = none) :
    v.Linked read' (some address) (if head = none then some address else tail) ((address, data) :: chain) where
  apart := by
    refine List.nodup_cons.mpr ⟨fun member => ?_, linked.apart⟩
    obtain ⟨cell, there, same⟩ := List.mem_map.mp member
    obtain ⟨before, after, whole⟩ := List.append_of_mem there
    obtain ⟨c, present, -⟩ := linked.cell before cell.1 cell.2 after whole
    rw [same, fresh] at present
    cases present
  first := rfl
  last := by
    have whole : lastOf ([] ++ (address, data) :: chain) = (lastOf chain).or (some address) := lastOf_append_cons
    refine Eq.trans ?_ whole.symm
    rw [← linked.last]
    split_ifs with none
    · rw [linked.tail_eq_none_iff.mpr (linked.head_eq_none_iff.mp none), Option.none_or]
    · obtain ⟨last, there⟩ := Option.ne_none_iff_exists'.mp
        (fun empty => none (linked.head_eq_none_iff.mpr (linked.tail_eq_none_iff.mp empty)))
      rw [there, Option.some_or]
  cell := by
    intro before other datum after whole
    cases before with
    | nil =>
      obtain ⟨same, rfl⟩ := List.cons.inj whole
      obtain ⟨rfl, rfl⟩ := Prod.mk.inj same
      exact ⟨new, made, held, next.trans linked.first, prev⟩
    | cons cell before =>
      rw [List.cons_append] at whole
      obtain ⟨rfl, split⟩ := List.cons.inj whole
      obtain ⟨c, there, held, next, prev⟩ := linked.cell before other datum after split
      have different : other ≠ address := by
        rintro rfl
        rw [fresh] at there
        cases there
      obtain ⟨c', there', held', next', prev'⟩ := kept other c different there
      refine ⟨c', there', held'.trans held, next'.trans next, ?_⟩
      rw [prev', prev, linked.first, split]
      cases before with
      | nil => exact if_pos rfl
      | cons cell before =>
        have apart := linked.apart
        rw [split, List.cons_append, List.map_cons, List.nodup_cons] at apart
        have elsewhere : cell.1 ≠ other := fun same =>
          apart.1 (List.mem_map.mpr ⟨(other, datum), List.mem_append_right _ List.mem_cons_self, same.symm⟩)
        rw [List.cons_append, firstOf, List.head?_cons, Option.map_some, if_neg (by simpa using elsewhere), lastOf,
          lastOf, List.getLast?_cons_cons]
  only := by
    intro other c there
    by_cases same : other = address
    · rw [same]
      exact List.mem_cons_self
    · cases old : read other with
      | none =>
        rw [others other same old] at there
        cases there
      | some c => exact List.mem_cons_of_mem _ (linked.only other c old)

/-- A cell is taken out. -/
theorem remove (linked : v.Linked read head tail (front ++ (address, data) :: back)) (gone : read' address = none)
    (kept : ∀ other c, other ≠ address → read other = some c → ∃ c', read' other = some c' ∧ v.data c' = v.data c ∧
      v.next c' = (if lastOf front = some other then firstOf back else v.next c) ∧
      v.prev c' = if firstOf back = some other then lastOf front else v.prev c)
    (others : ∀ other, read other = none → read' other = none) :
    v.Linked read' (firstOf (front ++ back)) (lastOf (front ++ back)) (front ++ back) where
  apart := linked.apart.sublist ((List.sublist_append_right [_] back).append_left front |>.map _)
  first := rfl
  last := rfl
  cell := by
    have apart := linked.apart
    rw [List.map_append, List.map_cons, List.nodup_append, List.nodup_cons] at apart
    obtain ⟨-, ⟨notBack, -⟩, disjoint⟩ := apart
    have notFront : address ∉ front.map Prod.fst := fun member => disjoint _ member _ List.mem_cons_self rfl
    intro before other datum after whole
    have inBack : ∀ middle, before = front ++ middle → back = middle ++ (other, datum) :: after →
        ∃ c, read' other = some c ∧ v.data c = datum ∧ v.next c = firstOf after ∧ v.prev c = lastOf before := by
      rintro middle rfl rfl
      obtain ⟨c, there, held, next, prev⟩ := linked.cell (front ++ (address, data) :: middle) other datum after
        (by rw [List.append_assoc, List.cons_append])
      have onward := linked.next_eq_iff there
      have back := linked.prev_eq_iff there
      rw [List.map_append, List.mem_append, List.map_cons, List.mem_cons, not_or, not_or] at notBack
      obtain ⟨notMiddle, different, notAfter⟩ := notBack
      obtain ⟨c', there', held', next', prev'⟩ := kept other c (Ne.symm different) there
      refine ⟨c', there', held'.trans held, ?_, ?_⟩
      · rw [next', if_congr onward.symm rfl rfl, next, if_neg fun first => notAfter (mem_of_firstOf first)]
      · rw [prev', if_congr back.symm rfl rfl, prev, lastOf_append_cons, lastOf_append]
        cases last : lastOf middle with
        | none => exact if_pos rfl
        | some link =>
          refine if_neg fun same => notMiddle (mem_of_lastOf ?_)
          rw [last, ← same, Option.some_or]
    obtain ⟨middle, front', back'⟩ | ⟨middle, rfl, back'⟩ := List.append_eq_append_iff.mp whole
    · exact inBack middle front' back'
    · cases middle with
      | nil => exact inBack [] (by rw [List.append_nil, List.append_nil]) back'.symm
      | cons cell middle =>
        obtain ⟨rfl, rfl⟩ := List.cons.inj back'
        obtain ⟨c, there, held, next, prev⟩ := linked.cell before other datum (middle ++ (address, data) :: back)
          (by rw [List.append_assoc, List.cons_append])
        have onward := linked.next_eq_iff there
        have back := linked.prev_eq_iff there
        rw [List.map_append, List.mem_append, List.map_cons, List.mem_cons, not_or, not_or] at notFront
        obtain ⟨notBefore, different, notMiddle⟩ := notFront
        obtain ⟨c', there', held', next', prev'⟩ := kept other c (Ne.symm different) there
        refine ⟨c', there', held'.trans held, ?_, ?_⟩
        · rw [next', if_congr onward.symm rfl rfl, next, firstOf_append_cons, List.append_eq, firstOf_append]
          cases first : firstOf middle with
          | none => exact if_pos rfl
          | some link =>
            refine if_neg fun same => notMiddle (mem_of_firstOf ?_)
            rw [first, ← same, Option.some_or]
        · rw [prev', if_congr back.symm rfl rfl, prev, if_neg fun last => notBefore (mem_of_lastOf last)]
  only := by
    intro other c there
    cases old : read other with
    | none =>
      rw [others other old] at there
      cases there
    | some c' =>
      have member := linked.only other c' old
      rw [List.map_append, List.map_cons, List.mem_append, List.mem_cons] at member
      rw [List.map_append, List.mem_append]
      obtain inFront | same | inBack := member
      · exact Or.inl inFront
      · rw [same, gone] at there
        cases there
      · exact Or.inr inBack

end Linked

end CellView
