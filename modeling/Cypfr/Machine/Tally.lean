import Mathlib.Data.List.Basic
import Mathlib.Logic.Function.Basic

/-! # Results that are counted in one array

A command has a result for each of its items. The results are entered in an array as they come, and the array is
sent when the last item is done. What counts is the array that was sent, or else the one so far.
-/

namespace Machine

/-- The array, the results themselves, and the arrays that were sent. -/
structure Tally (E : Type*) where
  errs : List (Option E)
  results : ℕ → Option E
  sent : List (List (Option E))

namespace Tally

variable {E : Type*} {t after : Tally E} {n i j : ℕ} {e r : E}

def counted (t : Tally E) : List (Option E) := t.sent.head?.getD t.errs

/-- Enter something for an item. -/
def mark (i : ℕ) (e : E) (t : Tally E) : Tally E := { t with errs := t.errs.set i (some e) }

/-- The result of an item is known. -/
def settle (i : ℕ) (r : E) (t : Tally E) : Tally E := { t with results := Function.update t.results i (some r) }

/-- Send the array if the item is the last of `n`. -/
def close (n i : ℕ) (t : Tally E) : Tally E := if i + 1 = n then { t with sent := t.sent ++ [t.errs] } else t

/-- The array was sent if the last item is done, and what counts has every result that is known. -/
structure Right (n : ℕ) (t : Tally E) : Prop where
  answered : t.results (n - 1) ≠ none → t.sent ≠ []
  entered : ∀ i r, t.results i = some r → t.counted[i]? = some (some r)

/-- Of `n` results; nothing is sent before the last of them is known. -/
structure Sound (n : ℕ) (t : Tally E) : Prop where
  length : t.errs.length = n
  within : ∀ i, t.results i ≠ none → i < n
  sent : t.sent = [] ∨ ∃ errs : List (Option E), errs.length = n ∧ t.sent = [errs] ∧ t.results (n - 1) ≠ none

section Keep

theorem Sound.mark (sound : t.Sound n) : (t.mark i e).Sound n :=
  ⟨List.length_set.trans sound.length, sound.within, sound.sent⟩

theorem Sound.sent_eq_nil (sound : t.Sound n) (last : t.results (n - 1) = none) : t.sent = [] := by
  rcases sound.sent with none | ⟨_, _, _, known⟩
  · exact none
  · exact absurd last known

@[simp] theorem results_settle_self : (t.settle i r).results i = some r := Function.update_self i _ _

theorem results_settle_of_ne (other : j ≠ i) : (t.settle i r).results j = t.results j :=
  Function.update_of_ne other _ _

@[simp] theorem results_close : (t.close n i).results = t.results := by
  rw [close]
  split_ifs <;> rfl

@[simp] theorem counted_settle : (t.settle i r).counted = t.counted := rfl

/-- Nothing counts that did not before the array is sent. -/
@[simp] theorem counted_close : (t.close n i).counted = t.counted := by
  rw [close]
  split_ifs
  · rw [counted, counted]
    cases t.sent <;> rfl
  · rfl

theorem counted_mark_of_ne (other : j ≠ i) : (t.mark i e).counted[j]? = t.counted[j]? := by
  rw [counted, counted, mark]
  cases t.sent with
  | nil => exact List.getElem?_set_ne other.symm
  | cons => rfl

theorem counted_mark_self (none : t.sent = []) (inside : i < t.errs.length) :
    (t.mark i e).counted[i]? = some (some e) := by
  rw [counted, mark, none]
  exact List.getElem?_set_self inside

theorem counted_mark_of_sent (sent : t.sent ≠ []) : (t.mark i e).counted = t.counted := by
  obtain ⟨errs, rest, same⟩ := List.exists_cons_of_ne_nil sent
  rw [counted, counted, mark, same]
  rfl

theorem settle_known (known : t.results j ≠ none) : (t.settle i r).results j ≠ none := by
  rcases eq_or_ne j i with rfl | other
  · simp
  · rwa [results_settle_of_ne other]

theorem Sound.settle (sound : t.Sound n) (inside : i < n) : (t.settle i r).Sound n where
  length := sound.length
  within j known := by
    rcases eq_or_ne j i with rfl | other
    · exact inside
    · rw [results_settle_of_ne other] at known
      exact sound.within j known
  sent := sound.sent.imp_right fun sent =>
    Exists.imp (fun _ same => ⟨same.1, same.2.1, settle_known same.2.2⟩) sent

theorem Sound.settle_close (sound : t.Sound n) (unknown : t.results i = none) (inside : i < n) :
    ((t.settle i r).close n i).Sound n := by
  rw [close]
  split_ifs with last
  · have index : n - 1 = i := by omega
    have none := sound.sent_eq_nil (index ▸ unknown)
    refine ⟨sound.length, (sound.settle inside).within, .inr ⟨t.errs, sound.length, ?_, ?_⟩⟩
    · exact congrArg (· ++ [t.errs]) none
    · simp [index]
  · exact sound.settle inside

end Keep

section Exactly

/-- Something entered for an item without a result makes no difference. -/
theorem right_mark_iff (unknown : t.results i = none) : (t.mark i e).Right n ↔ t.Right n := by
  constructor
  all_goals
    rintro ⟨answered, entered⟩
    refine ⟨answered, fun j r known => ?_⟩
    have other : j ≠ i := by
      rintro rfl
      exact absurd (unknown.symm.trans known) (Option.some_ne_none r).symm
  · rw [← counted_mark_of_ne other]
    exact entered j r known
  · rw [counted_mark_of_ne other]
    exact entered j r known

/-- After the result of an item is known, it has to count. -/
theorem right_settled_iff (unknown : t.results i = none)
    (results : after.results = Function.update t.results i (some r))
    (others : ∀ j, j ≠ i → after.counted[j]? = t.counted[j]?)
    (answered : (after.results (n - 1) ≠ none → after.sent ≠ []) ↔ (t.results (n - 1) ≠ none → t.sent ≠ [])) :
    after.Right n ↔ t.Right n ∧ after.counted[i]? = some (some r) := by
  have same {j : ℕ} (other : j ≠ i) : after.results j = t.results j := by
    rw [results, Function.update_of_ne other]
  have own : after.results i = some r := by rw [results, Function.update_self]
  constructor
  · rintro ⟨sent, entered⟩
    refine ⟨⟨answered.mp sent, fun j r known => ?_⟩, entered i r own⟩
    have other : j ≠ i := by
      rintro rfl
      exact absurd (unknown.symm.trans known) (Option.some_ne_none r).symm
    rw [← others j other]
    exact entered j r ((same other).trans known)
  · rintro ⟨⟨sent, entered⟩, counts⟩
    refine ⟨answered.mpr sent, fun j r known => ?_⟩
    rcases eq_or_ne j i with rfl | other
    · rwa [← known, own]
    · rw [others j other]
      exact entered j r ((same other).symm.trans known)

/-- A result that is entered while the last is not known, or that is the last. -/
theorem right_entered_iff (sound : t.Sound n) (unknown : t.results i = none) (inside : i < n)
    (last : t.results (n - 1) = none) : (((t.mark i r).settle i r).close n i).Right n ↔ t.Right n := by
  have none := sound.sent_eq_nil last
  rw [right_settled_iff unknown results_close]
  · rw [counted_close, counted_settle, counted_mark_self none (sound.length ▸ inside), and_iff_left rfl]
  · intro j other
    rw [counted_close, counted_settle, counted_mark_of_ne other]
  · refine iff_of_true (fun known => ?_) fun known => absurd last known
    rw [close]
    split_ifs with ended
    · exact List.concat_ne_nil _ _
    · rw [results_close, results_settle_of_ne (by omega)] at known
      exact absurd last known

/-- A result that is entered after the array was sent counts only if it was entered before. -/
theorem right_entered_late_iff (unknown : t.results i = none) (last : t.results (n - 1) ≠ none)
    (inside : i < n) (early : t.counted[i]? = some (some e)) :
    (((t.mark i r).settle i r).close n i).Right n ↔ t.Right n ∧ r = e := by
  have notLast : i + 1 ≠ n := by
    rintro rfl
    exact last unknown
  rw [close, if_neg notLast]
  by_cases sent : t.sent = []
  · refine iff_of_false (fun right => ?_) fun right => right.1.answered last sent
    exact right.answered (settle_known last) sent
  · have counted : ((t.mark i r).settle i r).counted = t.counted := counted_mark_of_sent sent
    rw [right_settled_iff unknown rfl fun j _ => by rw [counted]]
    · rw [counted, early, Option.some_inj, Option.some_inj, eq_comm]
    · exact iff_of_true (fun _ => sent) fun _ => sent

/-- A result that is not entered counts only if it was entered before. -/
theorem not_right_settled (results : after.results i = some r) (counted : after.counted = t.counted)
    (early : t.counted[i]? = some (some e)) (wrong : r ≠ e) : ¬ after.Right n := by
  intro right
  have counts := right.entered i r results
  rw [counted, early, Option.some_inj, Option.some_inj] at counts
  exact wrong counts.symm

end Exactly

/-- Once all results are known: the tally is right exactly when one array with all of them was sent. -/
theorem right_iff_sent (sound : t.Sound n) (positive : n ≠ 0) (complete : ∀ i < n, t.results i ≠ none) :
    t.Right n ↔ t.sent = [(List.range n).map t.results] := by
  have last := complete (n - 1) (by omega)
  constructor
  · intro right
    obtain none | ⟨errs, length, sent, -⟩ := sound.sent
    · exact absurd none (right.answered last)
    · rw [sent]
      congr 1
      apply List.ext_getElem?
      intro i
      by_cases inside : i < n
      · obtain ⟨r, known⟩ := Option.ne_none_iff_exists'.mp (complete i inside)
        have counts := right.entered i r known
        rw [counted, sent, List.head?_cons, Option.getD_some] at counts
        rw [counts, List.getElem?_map, List.getElem?_range inside, Option.map_some, known]
      · rw [List.getElem?_eq_none (by omega), List.getElem?_eq_none (by simp; omega)]
  · intro sent
    refine ⟨fun _ => by simp [sent], fun i r known => ?_⟩
    have inside := sound.within i (by simp [known])
    rw [counted, sent, List.head?_cons, Option.getD_some, List.getElem?_map, List.getElem?_range inside,
      Option.map_some, known]

/-- The items without a result: those that wait for an answer, and those that are queued. Where `e` was not entered
for the ones that wait, the answers come in order. -/
structure Pending (n : ℕ) (e : E) (ordered : Bool) (waiting queued : List ℕ) (t : Tally E) : Prop where
  sound : t.Sound n
  unknown : ∀ i, i ∈ waiting ++ queued ↔ i < n ∧ t.results i = none
  distinct : (waiting ++ queued).Nodup
  queuedLast : queued <:+ List.range n
  inOrder : ordered = true → waiting ++ queued <:+ List.range n
  entered : ordered = false → ∀ i ∈ waiting, t.counted[i]? = some (some e)

namespace Pending

variable {ordered : Bool} {waiting queued : List ℕ}

theorem last_mem {items : List ℕ} (suffix : items <:+ List.range n) (some : items ≠ []) : n - 1 ∈ items := by
  have last := suffix.getLast some
  rw [List.getLast_range] at last
  exact last ▸ List.getLast_mem some

theorem last_of_queued (pending : t.Pending n e ordered waiting queued) (some : queued ≠ []) :
    t.results (n - 1) = none :=
  ((pending.unknown _).mp (List.mem_append_right _ (last_mem pending.queuedLast some))).2

theorem last_of_ordered (pending : t.Pending n e true waiting queued) (some : waiting ++ queued ≠ []) :
    t.results (n - 1) = none :=
  ((pending.unknown _).mp (last_mem (pending.inOrder rfl) some)).2

/-- Before anything was asked. -/
theorem start (sound : t.Sound n) (unknown : ∀ i, t.results i = none) :
    t.Pending n e ordered [] (List.range n) where
  sound := sound
  unknown i := by rw [List.nil_append, List.mem_range, and_iff_left (unknown i)]
  distinct := List.nodup_range
  queuedLast := List.suffix_rfl
  inOrder _ := List.suffix_rfl
  entered _ _ member := absurd member List.not_mem_nil

/-- Nothing is wrong before there is a result. -/
theorem right_start (pending : t.Pending n e ordered [] (List.range n)) : t.Right n := by
  have unknown (i : ℕ) : t.results i = none := by
    by_contra known
    have inside := pending.sound.within i known
    exact known ((pending.unknown i).mp (List.mem_range.mpr inside)).2
  exact ⟨fun known => absurd (unknown _) known, fun i r known => by simp [unknown] at known⟩

/-- An item that was queued waits for an answer. -/
theorem goesOn (pending : t.Pending n e ordered waiting (i :: queued)) :
    (if ordered then t else t.mark i e).Pending n e ordered (waiting ++ [i]) queued := by
  have same : waiting ++ [i] ++ queued = waiting ++ i :: queued := List.append_assoc ..
  have none := pending.sound.sent_eq_nil (pending.last_of_queued (List.cons_ne_nil i queued))
  have inside := ((pending.unknown i).mp (List.mem_append_right _ List.mem_cons_self)).1
  have notWaiting : i ∉ waiting := fun member =>
    (List.nodup_append.mp pending.distinct).2.2 i member i List.mem_cons_self rfl
  have queuedLast := (List.suffix_cons i queued).trans pending.queuedLast
  cases ordered with
  | true => exact ⟨pending.sound, same ▸ pending.unknown, same ▸ pending.distinct, queuedLast,
      fun _ => same ▸ pending.inOrder rfl, fun unordered => absurd unordered (by decide)⟩
  | false =>
    refine ⟨pending.sound.mark, same ▸ pending.unknown, same ▸ pending.distinct, queuedLast,
      fun ordered => absurd ordered (by decide), fun _ j member => ?_⟩
    rcases List.mem_append.mp member with earlier | own
    · have other : j ≠ i := fun same => notWaiting (same ▸ earlier)
      exact (counted_mark_of_ne other).trans (pending.entered rfl j earlier)
    · cases List.mem_singleton.mp own
      exact counted_mark_self none (pending.sound.length ▸ inside)

/-- One of the items has its result. -/
theorem ends {waiting' queued' : List ℕ} (pending : t.Pending n e ordered waiting queued) (sound : after.Sound n)
    (results : after.results = Function.update t.results i (some r))
    (others : ∀ j, j ≠ i → after.counted[j]? = t.counted[j]?)
    (fewer : (waiting ++ queued).Perm (i :: (waiting' ++ queued'))) (waits : waiting' ⊆ waiting)
    (queuedLast : queued' <:+ queued) (inOrder : ordered = true → waiting' ++ queued' <:+ waiting ++ queued) :
    after.Pending n e ordered waiting' queued' := by
  obtain ⟨notLeft, distinct⟩ := List.nodup_cons.mp (fewer.nodup_iff.mp pending.distinct)
  refine ⟨sound, fun j => ?_, distinct, queuedLast.trans pending.queuedLast,
    fun ordered => (inOrder ordered).trans (pending.inOrder ordered), fun unordered j member => ?_⟩
  · have before := (fewer.mem_iff (a := j)).symm.trans (pending.unknown j)
    rw [List.mem_cons] at before
    rw [results]
    rcases eq_or_ne j i with rfl | other
    · exact iff_of_false notLeft fun both => absurd both.2 (by simp)
    · rwa [Function.update_of_ne other, ← or_iff_right (b := j ∈ waiting' ++ queued') other]
  · have other : j ≠ i := by
      rintro rfl
      exact notLeft (List.mem_append_left _ member)
    exact (others j other).trans (pending.entered unordered j (waits member))

/-- A queued item that is done at once. -/
theorem enter_queued (pending : t.Pending n e false waiting (i :: queued)) :
    (((t.mark i r).settle i r).close n i).Pending n e false waiting queued := by
  obtain ⟨inside, unknown⟩ := (pending.unknown i).mp (List.mem_append_right _ List.mem_cons_self)
  apply pending.ends (pending.sound.mark.settle_close unknown inside) results_close ?_ List.perm_middle
    (List.Subset.refl _) (List.suffix_cons i queued) fun ordered => absurd ordered (by decide)
  intro j other
  rw [counted_close, counted_settle, counted_mark_of_ne other]

theorem enter_waiting (pending : t.Pending n e ordered (i :: waiting) queued) :
    (((t.mark i r).settle i r).close n i).Pending n e ordered waiting queued := by
  obtain ⟨inside, unknown⟩ := (pending.unknown i).mp List.mem_cons_self
  apply pending.ends (pending.sound.mark.settle_close unknown inside) results_close ?_ (List.Perm.refl _)
    (List.subset_cons_self i waiting) List.suffix_rfl fun _ => List.suffix_cons i _
  intro j other
  rw [counted_close, counted_settle, counted_mark_of_ne other]

/-- An answer that is not entered, whether or not the array is sent. -/
theorem lose_waiting (pending : t.Pending n e ordered (i :: waiting) queued)
    (lost : after = (t.settle i r).close n i ∨ after = t.settle i r) : after.Pending n e ordered waiting queued := by
  obtain ⟨inside, unknown⟩ := (pending.unknown i).mp List.mem_cons_self
  rcases lost with rfl | rfl
  · exact pending.ends (pending.sound.settle_close unknown inside) results_close (fun _ _ => by rw [counted_close]; rfl)
      (List.Perm.refl _) (List.subset_cons_self i waiting) List.suffix_rfl fun _ => List.suffix_cons i _
  · exact pending.ends (pending.sound.settle inside) rfl (fun _ _ => rfl) (List.Perm.refl _)
      (List.subset_cons_self i waiting) List.suffix_rfl fun _ => List.suffix_cons i _

/-- It does not count, if it is not what was entered before. -/
theorem not_right_lost (pending : t.Pending n e false (i :: waiting) queued) (wrong : r ≠ e)
    (lost : after = (t.settle i r).close n i ∨ after = t.settle i r) : ¬ after.Right n := by
  have early := pending.entered rfl i List.mem_cons_self
  rcases lost with rfl | rfl
  · exact not_right_settled (by rw [results_close, results_settle_self]) (by rw [counted_close]; rfl) early wrong
  · exact not_right_settled results_settle_self rfl early wrong

/-- An answer that is entered counts, but after the array was sent only if it is what was entered before. -/
theorem right_answered_iff (pending : t.Pending n e ordered (i :: waiting) queued) :
    (((t.mark i r).settle i r).close n i).Right n ↔ t.Right n ∧ (t.results (n - 1) = none ∨ r = e) := by
  obtain ⟨inside, unknown⟩ := (pending.unknown i).mp List.mem_cons_self
  by_cases last : t.results (n - 1) = none
  · rw [right_entered_iff pending.sound unknown inside last, and_iff_left (.inl last)]
  · cases ordered with
    | true => exact absurd (pending.last_of_ordered (List.cons_ne_nil i _)) last
    | false =>
      rw [right_entered_late_iff unknown last inside (pending.entered rfl i List.mem_cons_self), or_iff_right last]

end Pending

end Tally

end Machine
