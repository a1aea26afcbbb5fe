import Mathlib.Data.List.DropRight
import Mathlib.Data.List.Induction

/-! # The last elements that are kept

Of a list in which what is kept is followed by nothing that is not, the last ones that are kept, up to a number. They
are what is left when the first is taken out as long as it is not kept or there are too many; and a list that grows at
its end may be trimmed as it does.
-/

namespace List

variable {α : Type*} {keep keep' : α → Bool} {cap : ℕ} {l : List α}

/-- The last elements that are kept, at most `cap`. -/
def recent (cap : ℕ) (keep : α → Bool) (l : List α) : List α := (l.filter keep).rtake cap

/-- What is kept is followed by nothing that is not. -/
def Lasting (keep : α → Bool) (l : List α) : Prop := l.Pairwise fun x y => keep x → keep y

/-- Take the first out as long as it is not kept or there are more than `cap`. -/
def trimmed (cap : ℕ) (keep : α → Bool) : List α → List α
  | [] => []
  | x :: rest => if !keep x || decide (cap < rest.length + 1) then trimmed cap keep rest else x :: rest

theorem length_rtake_eq (n : ℕ) : (l.rtake n).length = min n l.length := by
  rw [rtake, length_drop]
  omega

theorem rtake_rtake_eq (n m : ℕ) : (l.rtake m).rtake n = l.rtake (min n m) := by
  rw [rtake, length_rtake_eq, rtake, rtake, drop_drop]
  congr 1
  omega

theorem filter_eq_nil_of_last {x : α} (lasting : Lasting keep (l ++ [x])) (dropped : keep x = false) :
    l.filter keep = [] := by
  apply filter_eq_nil_iff.mpr
  intro y member kept
  have later := (pairwise_append.mp lasting).2.2 y member x (mem_singleton_self x) kept
  exact Bool.false_ne_true (dropped.symm.trans later)

theorem Lasting.init {x : α} (lasting : Lasting keep (l ++ [x])) : Lasting keep l := (pairwise_append.mp lasting).1

/-- The last ones of what is kept are kept of the last ones. -/
theorem filter_rtake (lasting : Lasting keep l) (n : ℕ) : (l.rtake n).filter keep = (l.filter keep).rtake n := by
  induction l using List.reverseRecOn generalizing n with
  | nil => simp
  | append_singleton l x ih =>
    cases n with
    | zero => simp
    | succ n =>
      rw [rtake_concat_succ, filter_append, filter_append, ih lasting.init]
      cases kept : keep x with
      | false => simp [filter_eq_nil_of_last lasting kept, kept]
      | true => simp [kept]

theorem length_recent_le : (l.recent cap keep).length ≤ cap := by
  rw [recent, length_rtake_eq]
  exact Nat.min_le_left _ _

theorem recent_sublist : (l.recent cap keep).Sublist l := (drop_sublist _ _).trans filter_sublist

theorem recent_congr (same : ∀ x ∈ l, keep x = keep' x) : l.recent cap keep = l.recent cap keep' :=
  congrArg (rtake · cap) (filter_congr fun x member => by rw [same x member])

theorem recent_append_ne_nil {x : α} (room : 1 ≤ cap) (kept : keep x = true) : (l ++ [x]).recent cap keep ≠ [] := by
  obtain ⟨cap, rfl⟩ := Nat.exists_eq_add_of_le' room
  have own : [x].filter keep = [x] := by simp [kept]
  rw [recent, filter_append, own, rtake_concat_succ]
  exact append_ne_nil_of_right_ne_nil _ (cons_ne_nil x [])

theorem trimmed_eq_recent (lasting : Lasting keep l) : l.trimmed cap keep = l.recent cap keep := by
  induction l with
  | nil => simp [trimmed, recent]
  | cons x rest ih =>
    obtain ⟨first, later⟩ := pairwise_cons.mp lasting
    rw [trimmed, recent, filter_cons, ih later, recent]
    cases kept : keep x with
    | false => rfl
    | true =>
      have all : rest.filter keep = rest := filter_eq_self.mpr fun y member => first y member kept
      simp only [all, Bool.not_true, Bool.false_or, decide_eq_true_eq, if_true]
      split_ifs with more
      · rw [rtake, rtake, length_cons, show rest.length + 1 - cap = rest.length - cap + 1 by omega, drop_succ_cons]
      · rw [rtake, length_cons, show rest.length + 1 - cap = 0 by omega, drop_zero]

/-- A list may be trimmed before it grows, to what is kept for longer. -/
theorem recent_recent_append {x : α} (longer : ∀ y ∈ l, keep' y → keep y) (lasting : Lasting keep' (l ++ [x])) :
    (l.recent cap keep ++ [x]).recent cap keep' = (l ++ [x]).recent cap keep' := by
  have both : (l.filter keep).filter keep' = l.filter keep' := by
    rw [filter_filter]
    apply filter_congr
    intro y member
    cases kept : keep' y with
    | false => rfl
    | true => rw [longer y member kept]; rfl
  have init : Lasting keep' (l.filter keep) := lasting.init.sublist filter_sublist
  rw [recent, recent, recent, filter_append, filter_append, filter_rtake init, both]
  cases kept : keep' x with
  | false => simp [filter_eq_nil_of_last lasting kept, kept]
  | true =>
    cases cap with
    | zero => simp
    | succ cap =>
      have own : [x].filter keep' = [x] := by simp [kept]
      rw [own, rtake_concat_succ, rtake_concat_succ]
      congr 1
      rw [rtake_rtake_eq]
      congr 1
      omega

end List
