import Cypfr.Machine.Run
import Cypfr.Proofs.LogBuffer
import Mathlib.Algebra.Group.Nat.Defs

/-! # What the log keeps

As long as nothing is flushed the count of a level is that of its entries and these are the recent ones. A flush empties
the list and leaves the counts.
-/

namespace Cypfr.Log

open Machine

namespace LogRun

variable {levels : ℕ} {limits : Fin levels → UInt32 × UInt32} {r : LogRun levels} {call : LogCall levels}

/-- What is not older than a time depth at the time of the last one. -/
def within (depth : UInt32) (items : List Item) (item : Item) : Bool :=
  items.getLast?.all fun last => decide (last.1.toNat - item.1.toNat ≤ depth.toNat)

/-- The entries of a level that satisfy its capacity and, as of the last append, its time depth. -/
def kept (limits : UInt32 × UInt32) (items : List Item) : List Item :=
  items.recent limits.2.toNat (within limits.1 items)

/-- Each level has the entries it should keep and their number, and each front was there. -/
structure Right (limits : Fin levels → UInt32 × UInt32) (r : LogRun levels) : Prop where
  count : ∀ level, (r.buffer.mConfigVec level).mCurrentSize.toInt = (r.buffer.entries level).length
  capacity : ∀ level, (r.buffer.entries level).length ≤ (limits level).2.toNat
  entries : ∀ level, r.buffer.entries level = kept (limits level) (r.since level)
  front : r.frontOfEmpty = false

/-- Times do not go back. -/
def InOrder (r : LogRun levels) : LogCall levels → Prop
  | .append _ _ timestamp => r.clock ≤ timestamp
  | .flush => True

/-- A flush finds no entries, and what a level keeps can be counted. -/
def MayCall (limits : Fin levels → UInt32 × UInt32) (r : LogRun levels) : LogCall levels → Prop
  | .append data level timestamp =>
    (kept (limits level) (r.since level ++ [(timestamp, data)])).length < 2 ^ 31
  | .flush => ∀ level, r.since level = []

/-- The list is linked, the limits stay, and what was appended is in order. -/
structure Formed (limits : Fin levels → UInt32 × UInt32) (r : LogRun levels) : Prop where
  linked : r.buffer.mLogList.Linked
  depth : ∀ level, (r.buffer.mConfigVec level).mTimeDepthThres = (limits level).1
  most : ∀ level, (r.buffer.mConfigVec level).mMaxNumThres = (limits level).2
  sorted : ∀ level, (r.since level).Pairwise fun x y => x.1 ≤ y.1
  past : ∀ level, ∀ item ∈ r.since level, item.1 ≤ r.clock

theorem Formed.start : Formed limits (start limits) where
  linked := .empty
  depth _ := rfl
  most _ := rfl
  sorted _ := .nil
  past _ _ member := absurd member List.not_mem_nil

theorem kept_nil {limit : UInt32 × UInt32} : kept limit [] = [] := List.drop_nil

theorem Right.start : Right limits (start limits) where
  count _ := rfl
  capacity _ := Nat.zero_le _
  entries _ := kept_nil.symm
  front := rfl

theorem within_append {depth : UInt32} {items : List Item} {timestamp : UInt64} {data : String} {item : Item} :
    within depth (items ++ [(timestamp, data)]) item = decide (timestamp.toNat - item.1.toNat ≤ depth.toNat) := by
  rw [within, List.getLast?_concat]
  rfl

section Append

variable {level : Fin levels} {timestamp : UInt64} {data : String}

theorem kept_append_ne_nil {items : List Item} {limit : UInt32 × UInt32} (room : 1 ≤ limit.2) :
    kept limit (items ++ [(timestamp, data)]) ≠ [] := by
  apply List.recent_append_ne_nil (UInt32.le_iff_toNat_le.mp room)
  rw [within_append]
  simp

theorem kept_eq_nil_iff {items : List Item} {limit : UInt32 × UInt32} (room : 1 ≤ limit.2) :
    kept limit items = [] ↔ items = [] := by
  constructor
  · intro none
    rcases List.eq_nil_or_concat' items with empty | ⟨init, last, rfl⟩
    · exact empty
    · exact absurd none (kept_append_ne_nil room)
  · rintro rfl
    exact kept_nil

/-- The times of a level are in order with that of an append. -/
theorem Formed.sorted_append (formed : Formed limits r) (order : r.clock ≤ timestamp) :
    (r.since level ++ [(timestamp, data)]).Pairwise fun x y => x.1 ≤ y.1 := by
  apply List.pairwise_append.mpr
  refine ⟨formed.sorted level, List.pairwise_singleton _ _, fun item member last own => ?_⟩
  rw [List.mem_singleton.mp own]
  exact UInt64.le_trans (formed.past level item member) order

theorem Formed.past_append (formed : Formed limits r) (order : r.clock ≤ timestamp) :
    ∀ item ∈ r.since level ++ [(timestamp, data)], item.1 ≤ timestamp := by
  intro item member
  rcases List.mem_append.mp member with old | new
  · exact UInt64.le_trans (formed.past level item old) order
  · rw [List.mem_singleton.mp new]
    exact UInt64.le_refl _

/-- What is young is followed by what is young. -/
theorem lasting_young {b : LogBuffer levels} {items : List Item} (sorted : items.Pairwise fun x y => x.1 ≤ y.1)
    (past : ∀ item ∈ items, item.1 ≤ timestamp) : items.Lasting (b.young level timestamp) := by
  apply sorted.imp_of_mem
  intro x y there there' order young
  rw [LogBuffer.young_eq (past x there), decide_eq_true_eq] at young
  rw [LogBuffer.young_eq (past y there'), decide_eq_true_eq]
  have between := UInt64.le_iff_toNat_le.mp order
  omega

/-- The count of a level is its entries'. -/
theorem Right.holds (right : Right limits r) (formed : Formed limits r) :
    r.buffer.Holds level (r.buffer.entries level) where
  linked := formed.linked
  entries := rfl
  count := by
    have count := right.count level
    have below := (r.buffer.mConfigVec level).mCurrentSize.toInt_lt
    apply Int32.toInt_inj.mp
    rw [Int32.toInt_ofNat_of_lt (by omega), count]

/-- An append leaves the entries its level should keep. -/
theorem step_append (data : String) (right : Right limits r) (formed : Formed limits r) (order : r.clock ≤ timestamp)
    (room : 1 ≤ (limits level).2) :
    ∃ after, r.step (.append data level timestamp) =
        ⟨after, Function.update r.since level (r.since level ++ [(timestamp, data)]), timestamp, false⟩ ∧
      r.buffer.OthersAs after level ∧
        after.Holds level (kept (limits level) (r.since level ++ [(timestamp, data)])) := by
  have sorted : (r.since level ++ [(timestamp, data)]).Pairwise fun x y => x.1 ≤ y.1 := formed.sorted_append order
  have past : ∀ item ∈ r.since level ++ [(timestamp, data)], item.1 ≤ timestamp := formed.past_append order
  have few : (r.buffer.entries level).length + 1 < 2 ^ 32 := by
    have count := right.count level
    have below := (r.buffer.mConfigVec level).mCurrentSize.toInt_lt
    omega
  have part : (r.buffer.entries level ++ [(timestamp, data)]).Sublist (r.since level ++ [(timestamp, data)]) := by
    rw [right.entries]
    exact List.recent_sublist.append_right _
  have lasting : (r.buffer.entries level ++ [(timestamp, data)]).Lasting (r.buffer.young level timestamp) :=
    lasting_young (sorted.sublist part) fun item member => past item (part.subset member)
  have room' : 1 ≤ (r.buffer.mConfigVec level).mMaxNumThres := by
    rw [formed.most]
    exact room
  obtain ⟨after, result, others, holds⟩ := LogBuffer.append_eq (right.holds formed) few room' lasting
  refine ⟨after, by rw [step, result, right.front]; rfl, others, ?_⟩
  have longer : ∀ item ∈ r.since level, r.buffer.young level timestamp item →
      within (limits level).1 (r.since level) item := by
    intro item member young
    rw [LogBuffer.young_eq (UInt64.le_trans (formed.past level item member) order), formed.depth,
      decide_eq_true_eq] at young
    apply (Option.all_eq_true _ _).mpr
    intro last there
    have before := UInt64.le_trans (formed.past level last (List.mem_of_getLast? there)) order
    have later := UInt64.le_iff_toNat_le.mp before
    apply decide_eq_true
    omega
  rw [right.entries, kept, formed.most, List.recent_recent_append longer (lasting_young sorted past)] at holds
  have same : (r.since level ++ [(timestamp, data)]).recent (limits level).2.toNat (r.buffer.young level timestamp) =
      kept (limits level) (r.since level ++ [(timestamp, data)]) := by
    apply List.recent_congr
    intro item member
    rw [LogBuffer.young_eq (past item member), within_append, formed.depth]
  rw [same] at holds
  exact holds

/-- After an append all is right exactly when what its level keeps can be counted. -/
theorem right_append_iff (right : Right limits r) (formed : Formed limits r) (order : r.clock ≤ timestamp)
    (room : 1 ≤ (limits level).2) : Right limits (r.step (.append data level timestamp)) ↔
      (kept (limits level) (r.since level ++ [(timestamp, data)])).length < 2 ^ 31 := by
  obtain ⟨after, next, others, holds⟩ := step_append data right formed order room
  rw [next]
  constructor
  · intro after'
    have count : (after.mConfigVec level).mCurrentSize.toInt = (after.entries level).length := after'.count level
    have below := (after.mConfigVec level).mCurrentSize.toInt_lt
    rw [holds.entries] at count
    omega
  · intro small
    have each (other : Fin levels) : (after.mConfigVec other).mCurrentSize.toInt = (after.entries other).length ∧
        (after.entries other).length ≤ (limits other).2.toNat ∧ after.entries other = kept (limits other)
          (Function.update r.since level (r.since level ++ [(timestamp, data)]) other) := by
      by_cases same : other = level
      · subst same
        rw [Function.update_self, holds.entries, holds.count, Int32.toInt_ofNat_of_lt small]
        exact ⟨rfl, List.length_recent_le, rfl⟩
      · rw [Function.update_of_ne same, others.entries other same, others.configs other same]
        exact ⟨right.count other, right.capacity other, right.entries other⟩
    exact ⟨fun other => (each other).1, fun other => (each other).2.1, fun other => (each other).2.2, rfl⟩

/-- An append keeps the list linked. -/
theorem Formed.append (right : Right limits r) (formed : Formed limits r) (order : r.clock ≤ timestamp)
    (room : 1 ≤ (limits level).2) : Formed limits (r.step (.append data level timestamp)) := by
  obtain ⟨after, next, others, holds⟩ := step_append data right formed order room
  rw [next]
  have each (other : Fin levels) : (after.mConfigVec other).mTimeDepthThres = (limits other).1 ∧
      (after.mConfigVec other).mMaxNumThres = (limits other).2 ∧
      (Function.update r.since level (r.since level ++ [(timestamp, data)]) other).Pairwise (fun x y => x.1 ≤ y.1) ∧
      ∀ item ∈ Function.update r.since level (r.since level ++ [(timestamp, data)]) other, item.1 ≤ timestamp := by
    by_cases same : other = level
    · subst same
      rw [Function.update_self, others.depth, others.capacity]
      exact ⟨formed.depth other, formed.most other, formed.sorted_append order, formed.past_append order⟩
    · rw [Function.update_of_ne same, others.configs other same]
      exact ⟨formed.depth other, formed.most other, formed.sorted other,
        fun item member => UInt64.le_trans (formed.past other item member) order⟩
  exact ⟨holds.linked, fun other => (each other).1, fun other => (each other).2.1, fun other => (each other).2.2.1,
    fun other => (each other).2.2.2⟩

end Append

/-- After a flush all is right exactly when there was nothing to flush. -/
theorem right_flush_iff (right : Right limits r) (room : ∀ level, 1 ≤ (limits level).2) :
    Right limits (r.step .flush) ↔ ∀ level, r.since level = [] := by
  have count : (∀ level, (r.buffer.mConfigVec level).mCurrentSize.toInt = 0) ↔ ∀ level, r.since level = [] := by
    apply forall_congr'
    intro level
    rw [right.count, Int.natCast_eq_zero, List.length_eq_zero_iff, right.entries, kept_eq_nil_iff (room level)]
  rw [← count]
  constructor
  · exact fun after level => after.count level
  · exact fun none => ⟨none, fun _ => Nat.zero_le _, fun _ => kept_nil.symm, right.front⟩

theorem Formed.flush (formed : Formed limits r) : Formed limits (r.step .flush) where
  linked := .flush
  depth := formed.depth
  most := formed.most
  sorted _ := .nil
  past _ _ member := absurd member List.not_mem_nil

/-- In every run each level keeps its recent entries and counts them exactly when each flush finds nothing that was
appended and what a level keeps can be counted. -/
theorem right_iff_mayCall (limits : Fin levels → UInt32 × UInt32) (calls : List (LogCall levels))
    (room : ∀ level, 1 ≤ (limits level).2) (order : EachStep step InOrder (start limits) calls) :
    Throughout step (Right limits) (start limits) calls ↔ EachStep step (MayCall limits) (start limits) calls := by
  apply throughout_iff_eachStep_while order .start _ .start _ (I := Formed limits)
  · intro r call formed right order
    cases call with
    | append data level timestamp => exact Formed.append right formed order (room level)
    | flush => exact formed.flush
  · intro r call formed order right
    cases call with
    | append data level timestamp => exact right_append_iff right formed order (room level)
    | flush => exact right_flush_iff right room

/-- Three entries at two levels, of which one is too old when the last is appended. -/
theorem right_iff_mayCall_three : Throughout step (Right fun _ : Fin 5 => (10, 2)) (start fun _ => (10, 2))
    [.flush, .append "a" 0 5, .append "b" 1 6, .append "c" 0 20] := by
  have order : EachStep step InOrder (start fun _ : Fin 5 => (10, 2))
      [.flush, .append "a" 0 5, .append "b" 1 6, .append "c" 0 20] :=
    eachStep_cons trivial (eachStep_cons (by decide : (0 : UInt64) ≤ 5) (eachStep_cons (by decide : (5 : UInt64) ≤ 6)
      (eachStep_cons (by decide : (6 : UInt64) ≤ 20) eachStep_nil)))
  apply (right_iff_mayCall (fun _ => (10, 2)) _ (fun _ => by decide) order).mpr
  have counted (items : List Item) : (kept (10, 2) items).length < 2 ^ 31 := by
    have fits : (kept (10, 2) items).length ≤ 2 := List.length_recent_le
    omega
  exact eachStep_cons (fun _ => rfl)
    (eachStep_cons (counted _) (eachStep_cons (counted _) (eachStep_cons (counted _) eachStep_nil)))

/-- An entry, a flush and an entry at a level for one: the second is taken out as well. -/
theorem flush_leaves_count : ¬ ∀ (limits : Fin 5 → UInt32 × UInt32) (calls : List (LogCall 5)),
    (∀ level, 1 ≤ (limits level).2) → EachStep step InOrder (start limits) calls →
      Throughout step (Right limits) (start limits) calls := by
  intro all
  have order : EachStep step InOrder (start fun _ : Fin 5 => (10, 1)) [.append "a" 0 5, .flush, .append "b" 0 6] :=
    eachStep_cons (by decide : (0 : UInt64) ≤ 5) (eachStep_cons trivial
      (eachStep_cons (by decide : (5 : UInt64) ≤ 6) eachStep_nil))
  have right := all (fun _ => (10, 1)) [.append "a" 0 5, .flush, .append "b" 0 6] (fun _ => by decide) order
  exact absurd (right _ List.prefix_rfl).front (by decide)

end LogRun

end Cypfr.Log
