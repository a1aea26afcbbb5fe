import Cypfr.Model.LogBuffer
import Cypfr.ToMathlib.Recent
import Mathlib.Algebra.Group.Nat.Defs
import Mathlib.Data.List.Nodup

/-! # The levels of the log

The heads, the tails and the links of the list are those of its levels; an append to a level and taking its first entry
out do so for the level and leave the others as they are. The trimming loop leaves the entries that are recent.
-/

namespace Cypfr.Log

namespace SkipList

variable {T : Type} {levels : ℕ} {l : SkipList T levels} {level level' : Fin levels} {data : T}

/-- The nodes of a level. -/
def own (l : SkipList T levels) (level : Fin levels) : List (SkipNode T levels) :=
  l.mMainList.filter fun node => node.mLevel == level

/-- Each node leads to the one after it. -/
def Chained : List (SkipNode T levels) → Prop
  | [] => True
  | node :: rest => node.mNextInLevel = rest.head?.map (·.address) ∧ Chained rest

/-- The heads, the tails and the links are those of the levels. -/
structure Linked (l : SkipList T levels) : Prop where
  apart : (l.mMainList.map (·.address)).Nodup
  before : ∀ node ∈ l.mMainList, node.address < l.made
  head : ∀ level, l.mHeadVec level = (l.own level).head?.map (·.address)
  tail : ∀ level, l.mTailVec level = (l.own level).getLast?.map (·.address)
  chained : ∀ level, Chained (l.own level)

/-- The node of a tail is made to lead to a new one. -/
def leads (tail : Option ℕ) (next : ℕ) (node : SkipNode T levels) : SkipNode T levels :=
  if some node.address = tail then { node with mNextInLevel := some next } else node

section Leads

variable {tail : Option ℕ} {next : ℕ} {node : SkipNode T levels}

@[simp] theorem address_leads : (leads tail next node).address = node.address := by
  rw [leads]
  split_ifs <;> rfl

@[simp] theorem mLevel_leads : (leads tail next node).mLevel = node.mLevel := by
  rw [leads]
  split_ifs <;> rfl

@[simp] theorem mData_leads : (leads tail next node).mData = node.mData := by
  rw [leads]
  split_ifs <;> rfl

theorem leads_of_ne (other : some node.address ≠ tail) : leads tail next node = node := if_neg other

end Leads

theorem chained_append {nodes : List (SkipNode T levels)} {new : SkipNode T levels} (chained : Chained nodes)
    (apart : (nodes.map (·.address)).Nodup) (last : new.mNextInLevel = none) :
    Chained (nodes.map (leads (nodes.getLast?.map (·.address)) new.address) ++ [new]) := by
  induction nodes with
  | nil => exact ⟨last, trivial⟩
  | cons node rest ih =>
    obtain ⟨link, later⟩ := chained
    obtain ⟨first, apart⟩ := List.nodup_cons.mp apart
    cases rest with
    | nil =>
      have own : leads (some node.address) new.address node = { node with mNextInLevel := some new.address } :=
        if_pos rfl
      exact ⟨by rw [List.getLast?_singleton, Option.map_some, own]; rfl, last, trivial⟩
    | cons second later' =>
      have other : some node.address ≠ ((second :: later').getLast?).map (·.address) := by
        intro same
        obtain ⟨end', there, equal⟩ := Option.map_eq_some_iff.mp same.symm
        exact first (List.mem_map.mpr ⟨end', List.mem_of_getLast? there, equal⟩)
      rw [List.getLast?_cons_cons, List.map_cons, leads_of_ne other]
      refine ⟨?_, ih later apart⟩
      change node.mNextInLevel = some (leads _ new.address second).address
      rw [link, address_leads]
      rfl

namespace Linked

theorem empty : Linked (SkipList.empty : SkipList T levels) where
  apart := List.nodup_nil
  before _ member := absurd member List.not_mem_nil
  head _ := rfl
  tail _ := rfl
  chained _ := trivial

theorem flush : Linked l.flush where
  apart := List.nodup_nil
  before _ member := absurd member List.not_mem_nil
  head _ := rfl
  tail _ := rfl
  chained _ := trivial

/-- A node is the only one of its address. -/
theorem eq_of_address (linked : l.Linked) {node other : SkipNode T levels} (there : node ∈ l.mMainList)
    (there' : other ∈ l.mMainList) (same : node.address = other.address) : node = other :=
  List.inj_on_of_nodup_map linked.apart there there' same

theorem apart_own (linked : l.Linked) : ((l.own level).map (·.address)).Nodup :=
  linked.apart.sublist (List.filter_sublist.map _)

theorem head_eq_none_iff (linked : l.Linked) : l.mHeadVec level = none ↔ l.own level = [] := by
  rw [linked.head, Option.map_eq_none_iff, List.head?_eq_none_iff]

theorem mMainList_append (linked : l.Linked) : (l.append data level).mMainList =
    l.mMainList.map (leads (l.mTailVec level) l.made) ++ [⟨l.made, level, data, none⟩] := by
  rw [append]
  cases top : l.mHeadVec level with
  | some head => rfl
  | none =>
    have last : l.mTailVec level = none := by
      rw [linked.tail, linked.head_eq_none_iff.mp top]
      rfl
    have unchanged : l.mMainList.map (leads none l.made) = l.mMainList :=
      List.map_id'' (fun node => leads_of_ne (Option.some_ne_none node.address)) _
    rw [last, unchanged]

/-- A node of one level is not the last of another. -/
theorem leads_other (linked : l.Linked) (other : level' ≠ level) :
    (l.own level').map (leads (l.mTailVec level) l.made) = l.own level' := by
  have each : ∀ node ∈ l.own level', leads (l.mTailVec level) l.made node = id node := by
    intro node member
    obtain ⟨there, own⟩ := List.mem_filter.mp member
    apply leads_of_ne
    rw [linked.tail]
    intro same
    obtain ⟨last, found, equal⟩ := Option.map_eq_some_iff.mp same.symm
    obtain ⟨there', own'⟩ := List.mem_filter.mp (List.mem_of_getLast? found)
    rw [linked.eq_of_address there' there equal] at own'
    exact other ((beq_iff_eq.mp own).symm.trans (beq_iff_eq.mp own'))
  rw [List.map_congr_left each, List.map_id]

theorem own_append_eq (linked : l.Linked) : (l.append data level).own level' =
    (l.own level').map (leads (l.mTailVec level) l.made) ++
      if level = level' then [⟨l.made, level, data, none⟩] else [] := by
  have kept : ((fun node : SkipNode T levels => node.mLevel == level') ∘ leads (l.mTailVec level) l.made) =
      fun node => node.mLevel == level' := by
    funext node
    exact congrArg (· == level') mLevel_leads
  rw [own, own, linked.mMainList_append, List.filter_append, List.filter_map, kept]
  congr 1
  by_cases same : level = level' <;> simp [same]

theorem own_append (linked : l.Linked) : (l.append data level).own level =
    (l.own level).map (leads (l.mTailVec level) l.made) ++ [⟨l.made, level, data, none⟩] := by
  rw [linked.own_append_eq, if_pos rfl]

theorem own_append_other (linked : l.Linked) (other : level' ≠ level) :
    (l.append data level).own level' = l.own level' := by
  rw [linked.own_append_eq, if_neg other.symm, linked.leads_other other, List.append_nil]

theorem append (linked : l.Linked) : (l.append data level).Linked where
  apart := by
    have fresh : l.made ∉ l.mMainList.map (·.address) := by
      intro member
      obtain ⟨node, there, same⟩ := List.mem_map.mp member
      have below := linked.before node there
      omega
    have addresses : (l.append data level).mMainList.map (·.address) = l.mMainList.map (·.address) ++ [l.made] := by
      rw [linked.mMainList_append, List.map_append, List.map_map]
      congr 1
      exact List.map_congr_left fun node _ => address_leads
    rw [addresses]
    exact List.nodup_append_comm.mp (List.nodup_cons.mpr ⟨fresh, linked.apart⟩)
  before node member := by
    rw [linked.mMainList_append, List.mem_append, List.mem_singleton] at member
    rcases member with old | rfl
    · obtain ⟨node, there, rfl⟩ := List.mem_map.mp old
      rw [address_leads]
      exact Nat.lt_succ_of_lt (linked.before node there)
    · exact Nat.lt_succ_self _
  head other := by
    by_cases same : other = level
    · subst same
      rw [linked.own_append]
      cases top : l.mHeadVec other with
      | none =>
        have head : (l.append data other).mHeadVec other = some l.made := by simp [SkipList.append, top]
        rw [head, linked.head_eq_none_iff.mp top]
        rfl
      | some address =>
        have head : (l.append data other).mHeadVec other = some address := by simp [SkipList.append, top]
        have first := linked.head other
        rw [top] at first
        obtain ⟨node, there, equal⟩ := Option.map_eq_some_iff.mp first.symm
        obtain ⟨rest, whole⟩ := List.head?_eq_some_iff.mp there
        rw [head, whole, ← equal]
        exact congrArg some address_leads.symm
    · have head : (l.append data level).mHeadVec other = l.mHeadVec other := by
        rw [SkipList.append]
        split_ifs
        · exact Function.update_of_ne same _ _
        · rfl
      rw [head, linked.own_append_other same, linked.head]
  tail other := by
    by_cases same : other = level
    · subst same
      rw [linked.own_append, List.getLast?_concat]
      exact Function.update_self _ _ _
    · rw [linked.own_append_other same, ← linked.tail]
      exact Function.update_of_ne same _ _
  chained other := by
    by_cases same : other = level
    · subst same
      have last : (⟨l.made, other, data, none⟩ : SkipNode T levels).mNextInLevel = none := rfl
      rw [linked.own_append, linked.tail]
      exact chained_append (linked.chained other) linked.apart_own last
    · rw [linked.own_append_other same]
      exact linked.chained other

/-- A node is found at its address. -/
theorem node_of_mem (linked : l.Linked) {node : SkipNode T levels} (there : node ∈ l.mMainList) :
    l.node? node.address = some node := by
  rw [node?]
  cases found : l.mMainList.find? fun other => other.address == node.address with
  | none => exact absurd (beq_self_eq_true node.address) (List.find?_eq_none.mp found node there)
  | some other =>
    have same : other.address = node.address := by simpa using List.find?_some found
    rw [linked.eq_of_address (List.mem_of_find?_eq_some found) there same]

theorem mem_of_own {nodes rest : List (SkipNode T levels)} (whole : l.own level = nodes ++ rest) :
    ∀ node ∈ nodes, node ∈ l.mMainList := by
  intro node member
  have there : node ∈ l.own level := whole ▸ List.mem_append_left rest member
  exact (List.mem_filter.mp there).1

/-- The node of the head is the first of its level. -/
theorem node_head (linked : l.Linked) {node : SkipNode T levels} {rest : List (SkipNode T levels)}
    (whole : l.own level = node :: rest) : l.node? node.address = some node :=
  linked.node_of_mem (mem_of_own (show l.own level = [node] ++ rest from whole) node List.mem_cons_self)

theorem front_eq (linked : l.Linked) : l.front level = (l.own level).head?.map (·.mData) := by
  rw [front, linked.head]
  cases whole : l.own level with
  | nil => rfl
  | cons node rest => exact congrArg (Option.map _) (linked.node_head whole)

section Pop

variable {node : SkipNode T levels} {rest : List (SkipNode T levels)}

theorem pop_eq (linked : l.Linked) (whole : l.own level = node :: rest) : l.pop level =
    { l with
      mMainList := l.mMainList.filter fun other => other.address != node.address
      mHeadVec := Function.update l.mHeadVec level (rest.head?.map (·.address))
      mTailVec := if rest = [] then Function.update l.mTailVec level none else l.mTailVec } := by
  have top : l.mHeadVec level = some node.address := by
    rw [linked.head, whole]
    rfl
  have next : node.mNextInLevel = rest.head?.map (·.address) := by
    have chained := linked.chained level
    rw [whole] at chained
    exact chained.1
  have last : rest.head?.map (·.address) = none ↔ rest = [] := by
    rw [Option.map_eq_none_iff, List.head?_eq_none_iff]
  simp only [pop, top, linked.node_head whole, Option.bind_some, next, last]

theorem own_pop (linked : l.Linked) (whole : l.own level = node :: rest) : (l.pop level).own level = rest := by
  have apart : ((l.own level).map (·.address)).Nodup := linked.apart_own
  rw [whole, List.map_cons, List.nodup_cons] at apart
  have later : ∀ other ∈ rest, (other.address != node.address) = true := by
    intro other member
    apply bne_iff_ne.mpr
    intro same
    exact apart.1 (List.mem_map.mpr ⟨other, member, same⟩)
  have first : ¬ ((node.address != node.address) = true) := by simp
  rw [linked.pop_eq whole, own, List.filter_comm]
  change (l.own level).filter (fun other => other.address != node.address) = rest
  rw [whole, List.filter_cons, if_neg first, List.filter_eq_self.mpr later]

theorem own_pop_other (linked : l.Linked) (whole : l.own level = node :: rest) (other : level' ≠ level) :
    (l.pop level).own level' = l.own level' := by
  rw [linked.pop_eq whole, own, List.filter_comm]
  apply List.filter_eq_self.mpr
  intro found member
  apply bne_iff_ne.mpr
  intro same
  obtain ⟨there, own'⟩ := List.mem_filter.mp member
  have first : node ∈ l.own level := whole ▸ List.mem_cons_self
  obtain ⟨there', own⟩ := List.mem_filter.mp first
  rw [linked.eq_of_address there there' same] at own'
  exact other ((beq_iff_eq.mp own').symm.trans (beq_iff_eq.mp own))

theorem pop (linked : l.Linked) (whole : l.own level = node :: rest) : (l.pop level).Linked where
  apart := by
    rw [linked.pop_eq whole]
    exact linked.apart.sublist (List.filter_sublist.map _)
  before found member := by
    rw [linked.pop_eq whole] at member ⊢
    exact linked.before found (List.mem_filter.mp member).1
  head other := by
    by_cases same : other = level
    · subst same
      rw [linked.own_pop whole, linked.pop_eq whole]
      exact Function.update_self _ _ _
    · rw [linked.own_pop_other whole same, linked.pop_eq whole, ← linked.head]
      exact Function.update_of_ne same _ _
  tail other := by
    by_cases same : other = level
    · subst same
      rw [linked.own_pop whole, linked.pop_eq whole]
      cases rest with
      | nil => exact Function.update_self _ _ _
      | cons second later =>
        have last := linked.tail other
        rw [whole, List.getLast?_cons_cons] at last
        exact last
    · rw [linked.own_pop_other whole same, linked.pop_eq whole, ← linked.tail]
      cases rest with
      | nil => exact Function.update_of_ne same _ _
      | cons second later => rfl
  chained other := by
    by_cases same : other = level
    · subst same
      rw [linked.own_pop whole]
      have chained := linked.chained other
      rw [whole] at chained
      exact chained.2
    · rw [linked.own_pop_other whole same]
      exact linked.chained other

end Pop

end Linked

end SkipList

namespace LogBuffer

variable {levels : ℕ} {b : LogBuffer levels} {level : Fin levels} {timestamp : UInt64}

/-- What is not older than the time depth of its level. -/
def young (b : LogBuffer levels) (level : Fin levels) (timestamp : UInt64) (item : Item) : Bool :=
  decide (timestamp - item.1 ≤ (b.mConfigVec level).mTimeDepthThres.toUInt64)

theorem mConfigVec_setCurrentSize {size : Int32} : (b.setCurrentSize level size).mConfigVec level =
    { b.mConfigVec level with mCurrentSize := size } := Function.update_self _ _ _

theorem entries_eq : b.entries level = (b.mLogList.own level).map (·.mData) := rfl

theorem young_eq {item : Item} (past : item.1 ≤ timestamp) : b.young level timestamp item =
    decide (timestamp.toNat - item.1.toNat ≤ (b.mConfigVec level).mTimeDepthThres.toNat) := by
  apply decide_eq_decide.mpr
  rw [UInt64.le_iff_toNat_le, UInt64.toNat_sub_of_le _ _ past, UInt32.toNat_toUInt64]

/-- The count of a level that has `n` entries. -/
def CountIs (b : LogBuffer levels) (level : Fin levels) (n : ℕ) : Prop :=
  (b.mConfigVec level).mCurrentSize = Int32.ofNat n

theorem exceeds_iff {n : ℕ} {oldest : Item} (count : b.CountIs level n) (small : n < 2 ^ 32) :
    b.exceeds level timestamp oldest.1 =
      (!b.young level timestamp oldest || decide ((b.mConfigVec level).mMaxNumThres.toNat < n)) := by
  have size : (b.mConfigVec level).mCurrentSize.toUInt32.toNat = n := by
    rw [count, Int32.toUInt32_ofNat']
    exact UInt32.toNat_ofNat_of_lt' small
  simp only [exceeds, young, UInt32.lt_iff_toNat_lt, size, ← decide_not, UInt64.not_le]

/-- Two buffers that differ in one level alone. -/
structure OthersAs (b after : LogBuffer levels) (level : Fin levels) : Prop where
  entries : ∀ other, other ≠ level → after.entries other = b.entries other
  configs : ∀ other, other ≠ level → after.mConfigVec other = b.mConfigVec other
  depth : (after.mConfigVec level).mTimeDepthThres = (b.mConfigVec level).mTimeDepthThres
  capacity : (after.mConfigVec level).mMaxNumThres = (b.mConfigVec level).mMaxNumThres

theorem OthersAs.refl : OthersAs b b level := ⟨fun _ _ => rfl, fun _ _ => rfl, rfl, rfl⟩

theorem OthersAs.trans {middle after : LogBuffer levels} (first : OthersAs b middle level)
    (second : OthersAs middle after level) : OthersAs b after level where
  entries other different := (second.entries other different).trans (first.entries other different)
  configs other different := (second.configs other different).trans (first.configs other different)
  depth := second.depth.trans first.depth
  capacity := second.capacity.trans first.capacity

/-- A buffer whose list is linked and in which a level has these entries and their number. -/
structure Holds (b : LogBuffer levels) (level : Fin levels) (items : List Item) : Prop where
  linked : b.mLogList.Linked
  entries : b.entries level = items
  count : b.CountIs level items.length

theorem Holds.front {items : List Item} (holds : b.Holds level items) : b.mLogList.front level = items.head? := by
  rw [holds.linked.front_eq, ← holds.entries, entries_eq, List.head?_map]

theorem Holds.pop {item : Item} {items : List Item} (holds : b.Holds level (item :: items)) :
    ({ b with mLogList := b.mLogList.pop level }.setCurrentSize level
      ((b.mConfigVec level).mCurrentSize - 1)).Holds level items ∧
    OthersAs b ({ b with mLogList := b.mLogList.pop level }.setCurrentSize level
      ((b.mConfigVec level).mCurrentSize - 1)) level := by
  obtain ⟨node, rest, whole, rfl, rfl⟩ := List.map_eq_cons_iff.mp (entries_eq.symm.trans holds.entries)
  have less : (b.mConfigVec level).mCurrentSize - 1 = Int32.ofNat (rest.map (·.mData)).length := by
    rw [holds.count, List.length_cons, Int32.ofNat_add]
    exact Int32.add_sub_cancel _ _
  refine ⟨⟨holds.linked.pop whole, ?_, ?_⟩, ⟨fun other different => ?_, fun other different => ?_, ?_, ?_⟩⟩
  · exact congrArg (List.map _) (holds.linked.own_pop whole)
  · rw [CountIs, ← less, mConfigVec_setCurrentSize]
  · exact congrArg (List.map _) (holds.linked.own_pop_other whole different)
  · exact Function.update_of_ne different _ _
  · rw [mConfigVec_setCurrentSize]
  · rw [mConfigVec_setCurrentSize]

/-- The loop leaves the entries of its level that are recent, if there are some. -/
theorem trim_eq (rounds : ℕ) {items : List Item} (holds : b.Holds level items) (enough : items.length < rounds)
    (small : items.length < 2 ^ 32)
    (some' : items.trimmed (b.mConfigVec level).mMaxNumThres.toNat (b.young level timestamp) ≠ []) :
    ∃ after, trim level timestamp rounds b = some after ∧ OthersAs b after level ∧
      after.Holds level (items.trimmed (b.mConfigVec level).mMaxNumThres.toNat (b.young level timestamp)) := by
  induction items generalizing b rounds with
  | nil => exact absurd rfl some'
  | cons item items ih =>
    cases rounds with
    | zero => exact absurd enough (Nat.not_lt_zero _)
    | succ rounds =>
      rw [List.trimmed] at some' ⊢
      rw [trim, holds.front, List.head?_cons]
      simp only [exceeds_iff holds.count small, List.length_cons] at some' ⊢
      cases more : (!b.young level timestamp item ||
          decide ((b.mConfigVec level).mMaxNumThres.toNat < items.length + 1)) with
      | false =>
        rw [more, if_neg Bool.false_ne_true] at some'
        rw [if_neg Bool.false_ne_true, if_neg Bool.false_ne_true]
        exact ⟨b, rfl, .refl, holds⟩
      | true =>
        simp only [more, if_true] at some' ⊢
        obtain ⟨fewer, others⟩ := holds.pop
        have young' : ({ b with mLogList := b.mLogList.pop level }.setCurrentSize level
            ((b.mConfigVec level).mCurrentSize - 1)).young level timestamp = b.young level timestamp := by
          funext item
          rw [young, others.depth, young]
        have below : items.length + 1 < rounds + 1 := enough
        rw [← others.capacity, ← young'] at some' ⊢
        obtain ⟨after, result, same, kept⟩ := ih rounds fewer (by omega) (by rw [List.length_cons] at small; omega)
          some'
        exact ⟨after, result, others.trans same, kept⟩

/-- An append before the level is trimmed. -/
theorem Holds.append {items : List Item} (holds : b.Holds level items) (timestamp : UInt64) (data : String) :
    ({ b with mLogList := b.mLogList.append (timestamp, data) level }.setCurrentSize level
      ((b.mConfigVec level).mCurrentSize + 1)).Holds level (items ++ [(timestamp, data)]) ∧
    OthersAs b ({ b with mLogList := b.mLogList.append (timestamp, data) level }.setCurrentSize level
      ((b.mConfigVec level).mCurrentSize + 1)) level := by
  have same (node : SkipNode Item levels) : (SkipList.leads (b.mLogList.mTailVec level) b.mLogList.made node).mData =
      node.mData := SkipList.mData_leads
  refine ⟨⟨holds.linked.append, ?_, ?_⟩, ⟨fun other different => ?_, fun other different => ?_, ?_, ?_⟩⟩
  · rw [← holds.entries, entries_eq, entries_eq]
    refine (congrArg (List.map _) holds.linked.own_append).trans ?_
    rw [List.map_append, List.map_map]
    congr 1
    exact List.map_congr_left fun node _ => same node
  · rw [CountIs, mConfigVec_setCurrentSize, holds.count, List.length_append, List.length_singleton, Int32.ofNat_add]
    rfl
  · exact congrArg (List.map _) (holds.linked.own_append_other different)
  · exact Function.update_of_ne different _ _
  · rw [mConfigVec_setCurrentSize]
  · rw [mConfigVec_setCurrentSize]

theorem append_eq {items : List Item} {data : String} (holds : b.Holds level items)
    (small : items.length + 1 < 2 ^ 32) (room : 1 ≤ (b.mConfigVec level).mMaxNumThres)
    (lasting : (items ++ [(timestamp, data)]).Lasting (b.young level timestamp)) :
    ∃ after, b.append data level timestamp = some after ∧ OthersAs b after level ∧ after.Holds level
      ((items ++ [(timestamp, data)]).recent (b.mConfigVec level).mMaxNumThres.toNat (b.young level timestamp)) := by
  obtain ⟨longer, others⟩ := holds.append timestamp data
  have young' : ({ b with mLogList := b.mLogList.append (timestamp, data) level }.setCurrentSize level
      ((b.mConfigVec level).mCurrentSize + 1)).young level timestamp = b.young level timestamp := by
    funext item
    rw [young, others.depth, young]
  have length : (items ++ [(timestamp, data)]).length = items.length + 1 := by simp
  have few : items.length ≤ b.mLogList.mMainList.length := by
    rw [← holds.entries, entries_eq, List.length_map]
    exact List.length_filter_le _ _
  have last : b.young level timestamp (timestamp, data) = true := by simp [young]
  have capacity : 1 ≤ (b.mConfigVec level).mMaxNumThres.toNat := UInt32.le_iff_toNat_le.mp room
  have some' : (items ++ [(timestamp, data)]).recent (b.mConfigVec level).mMaxNumThres.toNat
      (b.young level timestamp) ≠ [] := List.recent_append_ne_nil capacity last
  rw [← List.trimmed_eq_recent lasting, ← others.capacity, ← young'] at some' ⊢
  obtain ⟨after, result, same, kept⟩ :=
    trim_eq (b.mLogList.mMainList.length + 2) longer (by omega) (by omega) some'
  exact ⟨after, result, others.trans same, kept⟩

end LogBuffer

end Cypfr.Log
