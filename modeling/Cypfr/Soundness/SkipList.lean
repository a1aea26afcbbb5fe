import Cypfr.Proofs.LogBuffer

/-! # The entries of a skip list

The list is that of its entries, each with its level: it dumps them all or those of a level, its heads and tails are the
first and the last of their levels, and each iterator that it stores is that of a node.
-/

namespace Cypfr.Log

namespace SkipList

variable {T : Type} {levels : ℕ} {l : SkipList T levels} {level : Fin levels} {data : T}

/-- Among elements with keys of their own, the first hit is the one of its key. -/
theorem filter_ne_eq_eraseP {α : Type*} {key : α → ℕ} {p : α → Bool} {nodes rest : List α} {a : α}
    (apart : (nodes.map key).Nodup) (first : nodes.filter p = a :: rest) :
    nodes.filter (fun x => key x != key a) = nodes.eraseP p := by
  induction nodes with
  | nil => cases first
  | cons x later ih =>
    obtain ⟨fresh, apart⟩ := List.nodup_cons.mp apart
    cases hit : p x with
    | true =>
      rw [List.filter_cons, if_pos hit] at first
      obtain ⟨rfl, -⟩ := List.cons.inj first
      have others : later.filter (fun y => key y != key x) = later := by
        apply List.filter_eq_self.mpr
        intro y member
        exact bne_iff_ne.mpr fun same => fresh (List.mem_map.mpr ⟨y, member, same⟩)
      rw [List.filter_cons, if_neg (by simp), List.eraseP_cons_of_pos hit, others]
    | false =>
      rw [List.filter_cons, if_neg (Bool.eq_false_iff.mp hit)] at first
      have there : a ∈ later := List.mem_of_mem_filter (first ▸ List.mem_cons_self : a ∈ later.filter p)
      have other : (key x != key a) = true :=
        bne_iff_ne.mpr fun same => fresh (List.mem_map.mpr ⟨a, there, same.symm⟩)
      rw [List.filter_cons, if_pos other, List.eraseP_cons_of_neg (Bool.eq_false_iff.mp hit), ih apart first]

namespace Linked

/-- A level is dumped from any of its nodes on. -/
theorem dumpFrom_eq (linked : l.Linked) {nodes : List (SkipNode T levels)} {rounds : ℕ} (chained : Chained nodes)
    (there : ∀ node ∈ nodes, node ∈ l.mMainList) (enough : nodes.length ≤ rounds) :
    l.dumpFrom rounds (nodes.head?.map (·.address)) = some (nodes.map fun node => (node.mData, node.mLevel)) := by
  induction nodes generalizing rounds with
  | nil => cases rounds <;> rfl
  | cons node rest ih =>
    obtain ⟨rounds, rfl⟩ := Nat.exists_eq_succ_of_ne_zero (Nat.ne_of_gt (Nat.lt_of_lt_of_le Nat.succ_pos' enough))
    have later := ih chained.2 (fun other member => there other (List.mem_cons_of_mem _ member))
      (Nat.le_of_succ_le_succ enough)
    change (l.node? node.address).bind _ = _
    rw [linked.node_of_mem (there node List.mem_cons_self), Option.bind_some, chained.1, later]
    rfl

theorem dumpLevel_eq (linked : l.Linked) : l.dumpLevel level = some (l.dump.filter (·.2 == level)) := by
  have whole : l.own level = l.own level ++ [] := (List.append_nil _).symm
  have own := linked.dumpFrom_eq (linked.chained level) (mem_of_own whole) (List.length_filter_le _ l.mMainList)
  rw [dumpLevel, linked.head, own, dump, List.filter_map]
  rfl

theorem dump_append (linked : l.Linked) : (l.append data level).dump = l.dump ++ [(data, level)] := by
  have kept : ((fun node : SkipNode T levels => (node.mData, node.mLevel)) ∘ leads (l.mTailVec level) l.made) =
      fun node => (node.mData, node.mLevel) := by
    funext node
    rw [Function.comp_apply, mData_leads, mLevel_leads]
  rw [dump, linked.mMainList_append, List.map_append, List.map_map, kept]
  rfl

theorem dump_pop (linked : l.Linked) : (l.pop level).dump = l.dump.eraseP (·.2 == level) := by
  cases whole : l.own level with
  | nil =>
    have none : ∀ entry ∈ l.dump, ¬ ((entry.2 == level) = true) := by
      intro entry member
      obtain ⟨node, there, rfl⟩ := List.mem_map.mp member
      exact List.filter_eq_nil_iff.mp whole node there
    rw [SkipList.pop, linked.head_eq_none_iff.mpr whole, List.eraseP_of_forall_not none]
  | cons node rest =>
    have entries : (l.dump.eraseP (·.2 == level)) =
        (l.mMainList.eraseP fun node => node.mLevel == level).map fun node => (node.mData, node.mLevel) :=
      List.eraseP_map
    rw [entries, ← filter_ne_eq_eraseP linked.apart whole, linked.pop_eq whole]
    rfl

/-- Taking the first entry of a level out keeps the links. -/
theorem pop_any (linked : l.Linked) : (l.pop level).Linked := by
  cases whole : l.own level with
  | nil =>
    rw [SkipList.pop, linked.head_eq_none_iff.mpr whole]
    exact linked
  | cons node rest => exact linked.pop whole

/-- The node after one of its level is in the list. -/
theorem next_mem (linked : l.Linked) {node : SkipNode T levels} {address : ℕ} (there : node ∈ l.mMainList)
    (next : node.mNextInLevel = some address) : ∃ other ∈ l.mMainList, other.address = address := by
  have each : ∀ nodes : List (SkipNode T levels), Chained nodes → node ∈ nodes →
      ∃ other ∈ nodes, other.address = address := by
    intro nodes chained member
    induction nodes with
    | nil => cases member
    | cons first rest ih =>
      obtain rfl | later := List.mem_cons.mp member
      · rw [chained.1] at next
        obtain ⟨other, found, own⟩ := Option.map_eq_some_iff.mp next
        exact ⟨other, List.mem_cons_of_mem _ (List.mem_of_head? found), own⟩
      · obtain ⟨other, found, own⟩ := ih chained.2 later
        exact ⟨other, List.mem_cons_of_mem _ found, own⟩
  obtain ⟨other, found, own⟩ := each _ (linked.chained node.mLevel)
    (List.mem_filter.mpr ⟨there, beq_self_eq_true node.mLevel⟩)
  exact ⟨other, (List.mem_filter.mp found).1, own⟩

end Linked

/-- The addresses of the iterators that are stored. -/
inductive Stores (l : SkipList T levels) (address : ℕ) : Prop
  | head (level : Fin levels) (stored : l.mHeadVec level = some address)
  | tail (level : Fin levels) (stored : l.mTailVec level = some address)
  | next (node : SkipNode T levels) (there : node ∈ l.mMainList) (stored : node.mNextInLevel = some address)

/-- A list is that of its entries. -/
structure Represents (l : SkipList T levels) (entries : List (T × Fin levels)) : Prop where
  dump : l.dump = entries
  dumpLevel : ∀ level, l.dumpLevel level = some (entries.filter (·.2 == level))
  head : ∀ level, l.mHeadVec level = (l.own level).head?.map (·.address)
  tail : ∀ level, l.mTailVec level = (l.own level).getLast?.map (·.address)
  present : ∀ address, l.Stores address → ∃ node ∈ l.mMainList, node.address = address

theorem Linked.represents (linked : l.Linked) : l.Represents l.dump where
  dump := rfl
  dumpLevel _ := linked.dumpLevel_eq
  head := linked.head
  tail := linked.tail
  present := by
    have own (level : Fin levels) : ∀ node ∈ l.own level, node ∈ l.mMainList := by
      have whole : l.own level = l.own level ++ [] := (List.append_nil _).symm
      exact mem_of_own whole
    intro address stores
    cases stores with
    | head level stored =>
      rw [linked.head] at stored
      obtain ⟨node, first, same⟩ := Option.map_eq_some_iff.mp stored
      exact ⟨node, own level node (List.mem_of_head? first), same⟩
    | tail level stored =>
      rw [linked.tail] at stored
      obtain ⟨node, last, same⟩ := Option.map_eq_some_iff.mp stored
      exact ⟨node, own level node (List.mem_of_getLast? last), same⟩
    | next node there stored => exact linked.next_mem there stored

/-- A call of a skip list. -/
inductive SkipCall (T : Type) (levels : ℕ)
  | append (data : T) (level : Int32)
  | pop (level : Fin levels)
  | popFront
  | flush

/-- The list after a call, if it may be made. -/
def SkipCall.after (l : SkipList T levels) : SkipCall T levels → Option (SkipList T levels)
  | append data level => some (l.appendAt data level)
  | pop level => some (l.pop level)
  | popFront => l.popFront
  | flush => some l.flush

/-- What a call is to do to the entries. -/
def SkipCall.entries (entries : List (T × Fin levels)) : SkipCall T levels → Option (List (T × Fin levels))
  | append data level => some (entries ++
      if 0 ≤ level.toInt then if small : level.toInt.toNat < levels then [(data, ⟨level.toInt.toNat, small⟩)] else []
      else [])
  | pop level => some (entries.eraseP (·.2 == level))
  | popFront => entries.tail?
  | flush => some []

/-- A call does to the list what it is to do to the entries, and may be made exactly when they allow it. -/
theorem Linked.after (linked : l.Linked) (call : SkipCall T levels) :
    Option.Rel (fun l' entries => l'.Linked ∧ l'.dump = entries) (call.after l) (call.entries l.dump) := by
  cases call with
  | append data level =>
    refine .some ?_
    rw [appendAt]
    by_cases positive : 0 ≤ level.toInt
    · rw [if_pos positive]
      by_cases small : level.toInt.toNat < levels
      · rw [dif_pos ⟨positive, small⟩, dif_pos small]
        exact ⟨linked.append, linked.dump_append⟩
      · rw [dif_neg fun inRange => small inRange.2, dif_neg small]
        exact ⟨linked, (List.append_nil _).symm⟩
    · rw [if_neg positive, dif_neg fun inRange => positive inRange.1]
      exact ⟨linked, (List.append_nil _).symm⟩
  | pop level => exact .some ⟨linked.pop_any, linked.dump_pop⟩
  | popFront =>
    rw [SkipCall.after, SkipCall.entries, popFront, dump]
    cases nodes : l.mMainList with
    | nil => exact .none
    | cons node rest =>
      refine .some ⟨linked.pop_any, ?_⟩
      rw [linked.dump_pop, dump, nodes, List.map_cons]
      exact List.eraseP_cons_of_pos (beq_self_eq_true node.mLevel)
  | flush => exact .some ⟨Linked.flush, rfl⟩

def SkipCall.run (calls : List (SkipCall T levels)) : Option (SkipList T levels) :=
  calls.foldl (fun l call => l.bind call.after) (some .empty)

def SkipCall.runEntries (calls : List (SkipCall T levels)) : Option (List (T × Fin levels)) :=
  calls.foldl (fun entries call => entries.bind call.entries) (some [])

/-- A list is that of the entries that its calls are to leave. -/
theorem SkipCall.represents_run (calls : List (SkipCall T levels)) :
    Option.Rel Represents (SkipCall.run calls) (SkipCall.runEntries calls) := by
  have each : ∀ (l : Option (SkipList T levels)) entries,
      Option.Rel (fun l entries => l.Linked ∧ l.dump = entries) l entries →
        Option.Rel (fun l entries => l.Linked ∧ l.dump = entries) (calls.foldl (fun l call => l.bind call.after) l)
          (calls.foldl (fun entries call => entries.bind call.entries) entries) := by
    induction calls with
    | nil => exact fun l entries related => related
    | cons call rest ih =>
      intro l entries related
      apply ih
      cases related with
      | none => exact .none
      | some both =>
        obtain ⟨linked, rfl⟩ := both
        exact linked.after call
  have represented : ∀ (l : Option (SkipList T levels)) entries,
      Option.Rel (fun l entries => l.Linked ∧ l.dump = entries) l entries → Option.Rel Represents l entries := by
    intro l entries related
    cases related with
    | none => exact .none
    | some both =>
      obtain ⟨linked, rfl⟩ := both
      exact .some linked.represents
  exact represented _ _ (each _ _ (.some ⟨Linked.empty, rfl⟩))

end SkipList

end Cypfr.Log
