import Cypfr.Machine.Reachable
import Cypfr.Proofs.LocHeap

/-! # Every history of a `LocHeap`

The heap is driven by any sequence of calls in which an object is pushed only while it is not in
the heap. Beside the tree runs the set of objects pushed and not yet popped or removed, kept from
the calls and their answers alone. One invariant ties the two together and yields the answers of
the next call.
-/

namespace Cypfr.LocHeap

variable {α : Type*} [DecidableEq α]

/-- A call on the heap. -/
inductive Call (α : Type*) where
  | push (x : α)
  | pop
  | remove (x : α)

/-- The tree, and the objects its history has put in and not taken out. -/
structure History (α : Type*) where
  mTree : Tree α
  held : Finset α

/-- One call. The set follows the calls: a push adds its object, a pop drops the object it
returned, a removal drops the object it was asked for. -/
def call (ranks : α → α → ℤ) (h : History α) : Call α → History α
  | .push x => ⟨push ranks h.mTree x, insert x h.held⟩
  | .pop => ⟨(pop ranks h.mTree).2, match (pop ranks h.mTree).1 with
      | none => h.held
      | some x => h.held.erase x⟩
  | .remove x => ⟨(remove ranks x h.mTree).2, h.held.erase x⟩

/-- An object is in the heap at most once at a time. -/
def Call.Fresh (h : History α) : Call α → Prop
  | .push x => x ∉ h.held
  | _ => True

/-- The empty heap. -/
def History.empty : History α := ⟨.null, ∅⟩

/-- The tree is consistent and holds exactly the set, each object once. -/
structure History.Consistent (ranks : α → α → ℤ) (h : History α) : Prop where
  sized : h.mTree.Sized
  ordered : h.mTree.Ordered ranks
  elems : h.mTree.elems = h.held.val

omit [DecidableEq α] in
theorem History.Consistent.mem {ranks : α → α → ℤ} {h : History α} (valid : h.Consistent ranks) {x : α} :
    x ∈ h.mTree.elems ↔ x ∈ h.held := by
  rw [valid.elems, Finset.mem_val]

theorem History.Consistent.remove_eq {ranks : α → α → ℤ} {h : History α} (valid : h.Consistent ranks) (x : α) :
    (x ∈ h.held → (LocHeap.remove ranks x h.mTree).1 = some x ∧
      (LocHeap.remove ranks x h.mTree).2.elems = (h.held.erase x).val) ∧
    (x ∉ h.held → LocHeap.remove ranks x h.mTree = (none, h.mTree)) := by
  constructor
  · intro member
    obtain ⟨found, rest⟩ := remove_eq_some (remove_mem valid.ordered (valid.mem.mpr member))
    refine ⟨found, ?_⟩
    rw [valid.elems] at rest
    rw [Finset.erase_val, rest, Multiset.erase_cons_head]
  · intro absent
    apply remove_eq_none
    by_contra found
    have rest := (remove_eq_some found).2
    exact absent (valid.mem.mp (rest ▸ Multiset.mem_cons_self ..))

/-- Each call keeps the invariant. -/
theorem History.Consistent.call {ranks : α → α → ℤ} (order : TotalPreorder ranks) {h : History α}
    (valid : h.Consistent ranks) {c : Call α} (fresh : c.Fresh h) : (call ranks h c).Consistent ranks := by
  cases c with
  | push x =>
    refine ⟨sized_push valid.sized x, order.ordered_push valid.ordered x, ?_⟩
    change (LocHeap.push ranks h.mTree x).elems = (insert x h.held).val
    rw [elems_push, valid.elems, Finset.insert_val_of_notMem fresh]
  | pop =>
    refine ⟨sized_pop valid.sized, order.ordered_pop valid.ordered, ?_⟩
    simp only [LocHeap.call, pop_fst]
    cases top : h.mTree.peek with
    | none =>
      have empty := Tree.peek_eq_none_iff.mp top
      have elems := valid.elems
      rw [empty] at elems ⊢
      exact elems
    | some d =>
      have rest := elems_pop ranks top
      rw [valid.elems] at rest
      simp only [Finset.erase_val, rest, Multiset.erase_cons_head]
  | remove x =>
    refine ⟨sized_remove x valid.sized, order.ordered_remove x valid.ordered, ?_⟩
    change (LocHeap.remove ranks x h.mTree).2.elems = (h.held.erase x).val
    by_cases member : x ∈ h.held
    · exact ((valid.remove_eq x).1 member).2
    · rw [(valid.remove_eq x).2 member, Finset.erase_eq_of_notMem member, valid.elems]

theorem History.consistent_of_reachable {ranks : α → α → ℤ} (order : TotalPreorder ranks) {h : History α}
    (reach : Machine.Reachable (LocHeap.call ranks) (fun h c => c.Fresh h) History.empty h) :
    h.Consistent ranks :=
  reach.invariant (History.Consistent ranks)
    (show (History.empty : History α).Consistent ranks from ⟨trivial, trivial, rfl⟩)
    (fun _ _ valid fresh => valid.call order fresh)

/-- After every history the consistency check passes and the tree holds exactly the objects pushed
and not yet taken out; the next pop returns an object that none in the heap outranks, `NULL` only
on the empty heap; and the next removal takes out exactly its object, or nothing when it is absent. -/
theorem history_sound {ranks : α → α → ℤ} (order : TotalPreorder ranks) {h : History α}
    (reach : Machine.Reachable (LocHeap.call ranks) (fun h c => c.Fresh h) History.empty h) :
    checkNodes ranks h.mTree = true ∧ h.mTree.Sized ∧ h.mTree.elems = h.held.val ∧
    ((LocHeap.pop ranks h.mTree).1 = none ↔ h.held = ∅) ∧
    (∀ x, (LocHeap.pop ranks h.mTree).1 = some x → x ∈ h.held ∧
      (∀ y ∈ h.held, outRanks ranks y x = false) ∧
      (LocHeap.pop ranks h.mTree).2.elems = (h.held.erase x).val) ∧
    (∀ x ∈ h.held, (LocHeap.remove ranks x h.mTree).1 = some x ∧
      (LocHeap.remove ranks x h.mTree).2.elems = (h.held.erase x).val) ∧
    (∀ x ∉ h.held, LocHeap.remove ranks x h.mTree = (none, h.mTree)) := by
  have valid := History.consistent_of_reachable order reach
  refine ⟨checkNodes_of valid.sized valid.ordered, valid.sized, valid.elems, ?_, ?_,
    fun x member => (valid.remove_eq x).1 member, fun x absent => (valid.remove_eq x).2 absent⟩
  · rw [pop_fst, Tree.peek_eq_none_iff, ← Tree.elems_eq_zero_iff, valid.elems, Finset.val_eq_zero]
  · intro x popped
    rw [pop_fst] at popped
    refine ⟨valid.mem.mp (Tree.peek_mem popped), ?_, ?_⟩
    · intro y member
      exact order.top_highest valid.ordered popped y (valid.mem.mpr member)
    · have rest := elems_pop ranks popped
      rw [valid.elems] at rest
      rw [Finset.erase_val, rest, Multiset.erase_cons_head]

/-- Two objects of equal rank below a higher one: the tie is resolved and the history goes on. -/
theorem history_sound_ties :
    checkNodes (fun a b : ℤ × ℕ => a.1 - b.1)
      ([.push (1, 0), .push (1, 1), .push (2, 2), .remove (1, 0)].foldl
        (LocHeap.call (fun a b : ℤ × ℕ => a.1 - b.1)) History.empty).mTree = true := by
  have order : TotalPreorder (fun a b : ℤ × ℕ => a.1 - b.1) :=
    ⟨fun a b => by omega, fun a b c => by omega⟩
  refine (history_sound order (Machine.Reachable.run .start _ ?_)).1
  intro n c present
  match n with
  | 0 | 1 | 2 | 3 => cases present; simp [Call.Fresh, LocHeap.call, History.empty]
  | n + 4 => simp at present

end Cypfr.LocHeap
