import Cypfr.Model.LocHeap
import Mathlib.Data.Multiset.Basic
import Mathlib.Data.Finset.Basic
import Mathlib.Tactic.Abel

/-! # What each heap operation does to the objects, the sizes and the order

The first half needs no assumption on `ranks`: it says where the objects go, which object is on
top, and that the size fields stay exact. The second half adds the total preorder and shows that
no object outranks an object above it, which is what the pruned search of `remove` relies on.
-/

namespace Cypfr.LocHeap

variable {α : Type*} {ranks : α → α → ℤ}

namespace Tree

/-- Every size field counts the nodes of its subtree. -/
def Sized : Tree α → Prop
  | null => True
  | node s l r _ => s = l.elems.card + r.elems.card + 1 ∧ Sized l ∧ Sized r

/-- No object outranks an object above it. -/
def Ordered (ranks : α → α → ℤ) : Tree α → Prop
  | null => True
  | node _ l r d => (∀ y ∈ l.elems + r.elems, outRanks ranks y d = false) ∧ Ordered ranks l ∧ Ordered ranks r

@[simp] theorem elems_leaf (x : α) : (leaf x).elems = {x} := rfl
@[simp] theorem elems_null : (null : Tree α).elems = 0 := rfl
@[simp] theorem elems_node (s : ℤ) (l r : Tree α) (d : α) :
    (node s l r d).elems = d ::ₘ (l.elems + r.elems) := rfl

theorem peek_eq_none_iff {t : Tree α} : t.peek = none ↔ t = null := by
  cases t <;> simp [peek]

theorem peek_mem {t : Tree α} {d : α} (top : t.peek = some d) : d ∈ t.elems := by
  cases t with
  | null => cases top
  | node s l r e => cases top; simp

theorem elems_eq_zero_iff {t : Tree α} : t.elems = 0 ↔ t = null := by
  cases t <;> simp

theorem card_elems (t : Tree α) : t.elems.card = t.nodes := by
  induction t with
  | null => rfl
  | node s l r d ihl ihr => simp [nodes, ihl, ihr]

theorem Sized.size {t : Tree α} (sized : t.Sized) : t.size = t.elems.card := by
  cases t with
  | null => rfl
  | node s l r d => simpa [Tree.size] using sized.1

theorem sized_leaf (x : α) : (leaf x).Sized := by simp [leaf, Sized]

theorem ordered_leaf (x : α) : (leaf x).Ordered ranks := by simp [leaf, Ordered]

end Tree

open LocHeap.Tree

theorem settle_elems (x d : α) (rest : Multiset α) :
    (settle ranks x d).1 ::ₘ (settle ranks x d).2 ::ₘ rest = x ::ₘ d ::ₘ rest := by
  unfold settle
  split
  · rfl
  · exact Multiset.cons_swap d x rest

/-- Pushing adds one occurrence of the object. -/
theorem elems_push (t : Tree α) (x : α) : (push ranks t x).elems = x ::ₘ t.elems := by
  fun_induction push with
  | case1 x => rfl
  | case2 s r d x => simp [settle_elems]
  | case3 s l d x present =>
    simp only [elems_node, elems_leaf, elems_null]
    rw [Multiset.add_comm, Multiset.singleton_add, settle_elems, Multiset.add_zero]
  | case4 s l r d x _ _ smaller ih =>
    simp only [elems_node, ih, Multiset.cons_add, settle_elems]
  | case5 s l r d x _ _ smaller ih =>
    simp only [elems_node, ih, Multiset.add_cons, settle_elems]

theorem sized_push {t : Tree α} (sized : t.Sized) (x : α) : (push ranks t x).Sized := by
  fun_induction push with
  | case1 x => exact sized_leaf x
  | case2 s r d x =>
    obtain ⟨count, left, right⟩ := sized
    refine ⟨?_, sized_leaf _, right⟩
    simp only [elems_null, elems_leaf, Multiset.card_zero, Multiset.card_singleton] at count ⊢
    omega
  | case3 s l d x present =>
    obtain ⟨count, left, right⟩ := sized
    refine ⟨?_, left, sized_leaf _⟩
    simp only [elems_null, elems_leaf, Multiset.card_zero, Multiset.card_singleton] at count ⊢
    omega
  | case4 s l r d x _ _ smaller ih =>
    obtain ⟨count, left, right⟩ := sized
    refine ⟨?_, ih left, right⟩
    rw [elems_push, Multiset.card_cons]
    omega
  | case5 s l r d x _ _ smaller ih =>
    obtain ⟨count, left, right⟩ := sized
    refine ⟨?_, left, ih right⟩
    rw [elems_push, Multiset.card_cons]
    omega

variable (ranks) in
/-- The new top is the pushed object exactly when it outranks the old one. -/
theorem peek_push (t : Tree α) (x : α) :
    (push ranks t x).peek = some (match t.peek with
      | none => x
      | some d => if outRanks ranks x d then x else d) := by
  fun_cases push with
  | case1 x => rfl
  | case2 s r d x => simp only [peek, settle]; split <;> rfl
  | case3 s l d x present => simp only [peek, settle]; split <;> rfl
  | case4 s l r d x _ _ smaller => simp only [peek, settle]; split <;> rfl
  | case5 s l r d x _ _ smaller => simp only [peek, settle]; split <;> rfl

variable (ranks) in
/-- The object that was swapped in at the top is the one that leaves; the old top object stays. -/
theorem popSwapped_elems (x : α) (t : Tree α) {d : α} (top : t.peek = some d) :
    (popSwapped ranks x t).1 = x ∧ t.elems = d ::ₘ (popSwapped ranks x t).2.elems := by
  induction t generalizing d with
  | null => cases top
  | node s l r e ihl ihr =>
    cases top
    rw [popSwapped]
    split
    · next left right =>
      rw [peek_eq_none_iff.mp left, peek_eq_none_iff.mp right]
      exact ⟨rfl, rfl⟩
    · next dr left right =>
      obtain ⟨out, rest⟩ := ihr right
      refine ⟨out, ?_⟩
      simp only [elems_node, rest, Multiset.add_cons]
    · next dl left right =>
      obtain ⟨out, rest⟩ := ihl left
      refine ⟨out, ?_⟩
      simp only [elems_node, rest, Multiset.cons_add]
    · next dl dr left right =>
      split_ifs with higher
      · obtain ⟨out, rest⟩ := ihl left
        refine ⟨out, ?_⟩
        simp only [elems_node, rest, Multiset.cons_add]
      · obtain ⟨out, rest⟩ := ihr right
        refine ⟨out, ?_⟩
        simp only [elems_node, rest, Multiset.add_cons]

theorem sized_popSwapped (x : α) {t : Tree α} (sized : t.Sized) : (popSwapped ranks x t).2.Sized := by
  have fewer {c : Tree α} {d : α} (top : c.peek = some d) :
      c.elems.card = (popSwapped ranks x c).2.elems.card + 1 := by
    rw [(popSwapped_elems ranks x c top).2, Multiset.card_cons]
  induction t with
  | null => exact sized
  | node s l r e ihl ihr =>
    obtain ⟨count, left, right⟩ := sized
    rw [popSwapped]
    split
    · exact trivial
    · next _ top =>
      refine ⟨?_, left, ihr right⟩
      have := fewer top
      omega
    · next top _ =>
      refine ⟨?_, ihl left, right⟩
      have := fewer top
      omega
    · next topLeft topRight =>
      split_ifs
      · refine ⟨?_, ihl left, right⟩
        have := fewer topLeft
        omega
      · refine ⟨?_, left, ihr right⟩
        have := fewer topRight
        omega

variable (ranks) in
/-- `pop` returns the object on top, so `NULL` exactly when there is none. -/
theorem pop_fst (t : Tree α) : (pop ranks t).1 = t.peek := by
  cases t with
  | null => rfl
  | node s l r d =>
    simp only [pop, peek]
    rw [(popSwapped_elems ranks d (.node s l r d) rfl).1]

variable (ranks) in
theorem elems_pop {t : Tree α} {d : α} (top : t.peek = some d) :
    t.elems = d ::ₘ (pop ranks t).2.elems := by
  cases t with
  | null => cases top
  | node s l r e => exact (popSwapped_elems ranks _ _ top).2

theorem sized_pop {t : Tree α} (sized : t.Sized) : (pop ranks t).2.Sized := by
  cases t with
  | null => exact sized
  | node s l r d => exact sized_popSwapped d sized

section Remove

variable [DecidableEq α]

variable (ranks) in
/-- Removal returns the object it was asked for and takes out one occurrence of it, or returns
`NULL` and leaves the tree alone. -/
theorem remove_cases (x : α) (t : Tree α) :
    ((remove ranks x t).1 = some x ∧ t.elems = x ::ₘ (remove ranks x t).2.elems) ∨
      remove ranks x t = (none, t) := by
  induction t with
  | null => right; rfl
  | node s l r d ihl ihr =>
    rw [remove]
    split_ifs with here pruned
    · subst x
      left
      obtain ⟨out, rest⟩ := popSwapped_elems ranks d (.node s l r d) rfl
      exact ⟨congrArg some out, rest⟩
    · right; rfl
    · rcases ihl with ⟨found, rest⟩ | missing
      · left
        split
        · next y l' left =>
          rw [left] at found rest
          refine ⟨found, ?_⟩
          simp only [elems_node, rest, Multiset.cons_add]
          exact Multiset.cons_swap _ _ _
        · next l' left => rw [left] at found; cases found
      · rw [missing]
        rcases ihr with ⟨found, rest⟩ | absent
        · left
          simp only
          split
          · next y r' right =>
            rw [right] at found rest
            refine ⟨found, ?_⟩
            simp only [elems_node, rest, Multiset.add_cons]
            exact Multiset.cons_swap _ _ _
          · next r' right => rw [right] at found; cases found
        · right
          rw [absent]

theorem remove_eq_none {x : α} {t : Tree α} (missing : (remove ranks x t).1 = none) :
    remove ranks x t = (none, t) := by
  rcases remove_cases ranks x t with ⟨found, -⟩ | same
  · rw [missing] at found; cases found
  · exact same

theorem remove_eq_some {x : α} {t : Tree α} (found : (remove ranks x t).1 ≠ none) :
    (remove ranks x t).1 = some x ∧ t.elems = x ::ₘ (remove ranks x t).2.elems := by
  rcases remove_cases ranks x t with result | same
  · exact result
  · rw [same] at found; exact absurd rfl found

/-- The four places at which the search of a node ends. -/
theorem remove_node (x : α) (s : ℤ) (l r : Tree α) (d : α) :
    remove ranks x (.node s l r d) =
      if x = d then (some d, (popSwapped ranks d (.node s l r d)).2)
      else if outRanks ranks x d then (none, .node s l r d)
      else if (remove ranks x l).1 ≠ none then (some x, .node (s - 1) (remove ranks x l).2 r d)
      else if (remove ranks x r).1 ≠ none then (some x, .node (s - 1) l (remove ranks x r).2 d)
      else (none, .node s l r d) := by
  rw [remove]
  split_ifs with here pruned left right
  · simp only [(popSwapped_elems ranks d (.node s l r d) rfl).1]
  · rfl
  · split
    · next y l' found => rw [found, ← (remove_eq_some left).1, found]
    · next l' found => rw [found] at left; exact absurd rfl left
  · rw [remove_eq_none (not_not.mp left)]
    simp only
    split
    · next y r' found => rw [found, ← (remove_eq_some right).1, found]
    · next r' found => rw [found] at right; exact absurd rfl right
  · rw [remove_eq_none (not_not.mp left), remove_eq_none (not_not.mp right)]

theorem sized_remove (x : α) {t : Tree α} (sized : t.Sized) : (remove ranks x t).2.Sized := by
  induction t with
  | null => exact sized
  | node s l r d ihl ihr =>
    obtain ⟨count, left, right⟩ := sized
    rw [remove_node]
    split_ifs with here pruned foundLeft foundRight
    · exact sized_popSwapped d ⟨count, left, right⟩
    · exact ⟨count, left, right⟩
    · refine ⟨?_, ihl left, right⟩
      rw [(remove_eq_some foundLeft).2, Multiset.card_cons] at count
      omega
    · refine ⟨?_, left, ihr right⟩
      rw [(remove_eq_some foundRight).2, Multiset.card_cons] at count
      omega
    · exact ⟨count, left, right⟩

/-- Removing an object other than the top one leaves the top where it is. -/
theorem peek_remove_of_ne {x d : α} {t : Tree α} (top : t.peek = some d) (other : x ≠ d) :
    (remove ranks x t).2.peek = some d := by
  cases t with
  | null => cases top
  | node s l r e =>
    cases top
    rw [remove_node, if_neg other]
    split_ifs <;> rfl

end Remove

/-! ## Under a total preorder -/

/-- What `LocRankable::ranks` promises: swapping the arguments swaps the sign, and ranking at least
as high is transitive. Totality and reflexivity follow from the first law. -/
structure TotalPreorder (ranks : α → α → ℤ) : Prop where
  sign : ∀ a b, 0 < ranks a b ↔ ranks b a < 0
  trans : ∀ a b c, 0 ≤ ranks a b → 0 ≤ ranks b c → 0 ≤ ranks a c

namespace TotalPreorder

variable (order : TotalPreorder ranks)
include order

theorem outRanks_eq_false {a b : α} : outRanks ranks a b = false ↔ 0 ≤ ranks b a := by
  have := order.sign a b
  simp only [outRanks, decide_eq_false_iff_not]
  omega

theorem outRanks_self (a : α) : outRanks ranks a a = false := by
  have := order.sign a a
  rw [order.outRanks_eq_false]
  omega

theorem outRanks_trans {a b c : α} (low : outRanks ranks a b = false) (high : outRanks ranks b c = false) :
    outRanks ranks a c = false := by
  rw [order.outRanks_eq_false] at low high ⊢
  exact order.trans c b a high low

theorem outRanks_asymm {a b : α} (higher : outRanks ranks a b = true) : outRanks ranks b a = false := by
  rw [order.outRanks_eq_false]
  simp only [outRanks, decide_eq_true_eq] at higher
  omega

/-- Nothing in an ordered tree outranks its top. -/
theorem top_highest {t : Tree α} (ordered : t.Ordered ranks) {d : α} (top : t.peek = some d) :
    ∀ y ∈ t.elems, outRanks ranks y d = false := by
  cases t with
  | null => cases top
  | node s l r e =>
    cases top
    intro y member
    rcases Multiset.mem_cons.mp member with rfl | below
    · exact order.outRanks_self _
    · exact ordered.1 y below

theorem settle_spec (x d : α) :
    outRanks ranks (settle ranks x d).2 (settle ranks x d).1 = false ∧
      outRanks ranks d (settle ranks x d).1 = false := by
  unfold settle
  split
  · next higher => exact ⟨order.outRanks_asymm higher, order.outRanks_asymm higher⟩
  · next higher => exact ⟨Bool.eq_false_iff.mpr higher, order.outRanks_self d⟩

theorem ordered_push {t : Tree α} (ordered : t.Ordered ranks) (x : α) : (push ranks t x).Ordered ranks := by
  have settled {d : α} {rest : Multiset α} (x : α) (below : ∀ y ∈ rest, outRanks ranks y d = false) :
      ∀ y ∈ (settle ranks x d).2 ::ₘ rest, outRanks ranks y (settle ranks x d).1 = false := by
    obtain ⟨down, old⟩ := order.settle_spec x d
    intro y member
    rcases Multiset.mem_cons.mp member with rfl | member
    · exact down
    · exact order.outRanks_trans (below y member) old
  fun_induction push with
  | case1 x => exact ordered_leaf x
  | case2 s r d x =>
    obtain ⟨below, left, right⟩ := ordered
    refine ⟨?_, ordered_leaf _, right⟩
    simpa using settled x below
  | case3 s l d x present =>
    obtain ⟨below, left, right⟩ := ordered
    refine ⟨?_, left, ordered_leaf _⟩
    rw [elems_leaf, Multiset.add_comm, Multiset.singleton_add]
    exact settled x (by simpa using below)
  | case4 s l r d x _ _ smaller ih =>
    obtain ⟨below, left, right⟩ := ordered
    refine ⟨?_, ih left, right⟩
    rw [elems_push, Multiset.cons_add]
    exact settled x below
  | case5 s l r d x _ _ smaller ih =>
    obtain ⟨below, left, right⟩ := ordered
    refine ⟨?_, left, ih right⟩
    rw [elems_push, Multiset.add_cons]
    exact settled x below

/-- The child that moves up keeps both subtrees below itself. -/
private theorem promoted {x c : α} {chosen other : Tree α} (top : chosen.peek = some c)
    (ordered : chosen.Ordered ranks) (beside : ∀ y ∈ other.elems, outRanks ranks y c = false) :
    ∀ y ∈ (popSwapped ranks x chosen).2.elems + other.elems, outRanks ranks y c = false := by
  intro y member
  rcases Multiset.mem_add.mp member with inside | outside
  · apply order.top_highest ordered top
    rw [(popSwapped_elems ranks x chosen top).2]
    exact Multiset.mem_cons_of_mem inside
  · exact beside y outside

theorem ordered_popSwapped (x : α) {t : Tree α} (ordered : t.Ordered ranks) :
    (popSwapped ranks x t).2.Ordered ranks := by
  induction t with
  | null => exact ordered
  | node s l r e ihl ihr =>
    obtain ⟨-, left, right⟩ := ordered
    rw [popSwapped]
    split
    · exact trivial
    · next dr topLeft topRight =>
      refine ⟨?_, left, ihr right⟩
      rw [Multiset.add_comm]
      apply order.promoted topRight right
      rw [peek_eq_none_iff.mp topLeft]
      simp
    · next dl topLeft topRight =>
      refine ⟨?_, ihl left, right⟩
      apply order.promoted topLeft left
      rw [peek_eq_none_iff.mp topRight]
      simp
    · next dl dr topLeft topRight =>
      split_ifs with higher
      · refine ⟨?_, ihl left, right⟩
        apply order.promoted topLeft left
        intro y member
        exact order.outRanks_trans (order.top_highest right topRight y member) (order.outRanks_asymm higher)
      · refine ⟨?_, left, ihr right⟩
        rw [Multiset.add_comm]
        apply order.promoted topRight right
        intro y member
        exact order.outRanks_trans (order.top_highest left topLeft y member) (Bool.eq_false_iff.mpr higher)

theorem ordered_pop {t : Tree α} (ordered : t.Ordered ranks) : (pop ranks t).2.Ordered ranks := by
  cases t with
  | null => exact ordered
  | node s l r d => exact order.ordered_popSwapped d ordered

variable [DecidableEq α]

theorem ordered_remove (x : α) {t : Tree α} (ordered : t.Ordered ranks) :
    (remove ranks x t).2.Ordered ranks := by
  induction t with
  | null => exact ordered
  | node s l r d ihl ihr =>
    obtain ⟨below, left, right⟩ := ordered
    rw [remove_node]
    split_ifs with here pruned foundLeft foundRight
    · exact order.ordered_popSwapped d ⟨below, left, right⟩
    · exact ⟨below, left, right⟩
    · refine ⟨?_, ihl left, right⟩
      intro y member
      apply below
      rw [(remove_eq_some foundLeft).2, Multiset.cons_add]
      exact Multiset.mem_cons_of_mem member
    · refine ⟨?_, left, ihr right⟩
      intro y member
      apply below
      rw [(remove_eq_some foundRight).2, Multiset.add_cons]
      exact Multiset.mem_cons_of_mem member
    · exact ⟨below, left, right⟩

end TotalPreorder

/-- The pruned search finds every object that is in the tree: what is below a node does not
outrank it, so no branch that holds the object is cut. -/
theorem remove_mem [DecidableEq α] {x : α} {t : Tree α} (ordered : t.Ordered ranks) (member : x ∈ t.elems) :
    (remove ranks x t).1 ≠ none := by
  induction t with
  | null => simp at member
  | node s l r d ihl ihr =>
    obtain ⟨below, left, right⟩ := ordered
    rw [remove_node]
    split_ifs with here pruned foundLeft foundRight
    · simp
    · rcases Multiset.mem_cons.mp member with same | inside
      · exact absurd same here
      · rw [below x inside] at pruned
        cases pruned
    · simp
    · simp
    · rcases Multiset.mem_cons.mp member with same | inside
      · exact absurd same here
      · rcases Multiset.mem_add.mp inside with inLeft | inRight
        · exact absurd (ihl left inLeft) foundLeft
        · exact absurd (ihr right inRight) foundRight

/-- The heap's own consistency check accepts an ordered tree with exact sizes. -/
theorem checkNodes_of {t : Tree α} (sized : t.Sized) (ordered : t.Ordered ranks) :
    checkNodes ranks t = true := by
  have child {c : Tree α} {d : α} (checked : checkNodes ranks c = true)
      (below : ∀ y ∈ c.elems, outRanks ranks y d = false) :
      childOk ranks (checkNodes ranks c) d c = true := by
    unfold childOk
    split
    · rfl
    · next top => rw [below _ (peek_mem top), checked]; rfl
  induction t with
  | null => rfl
  | node s l r d ihl ihr =>
    obtain ⟨count, sizedLeft, sizedRight⟩ := sized
    obtain ⟨below, left, right⟩ := ordered
    rw [checkNodes, child (ihl sizedLeft left) (fun y member => below y (Multiset.mem_add.mpr (.inl member))),
      child (ihr sizedRight right) (fun y member => below y (Multiset.mem_add.mpr (.inr member)))]
    simp only [Bool.true_and, decide_eq_true_eq, sizedLeft.size, sizedRight.size]
    omega

end Cypfr.LocHeap
