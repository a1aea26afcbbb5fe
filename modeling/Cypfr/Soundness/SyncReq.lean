import Cypfr.Machine.Run
import Cypfr.Proofs.SyncReq

/-! # Synchronous requests that return success

A call reports success for a request that was sent and answered, except when it finds the table of slots full: then
it sends nothing and returns the status it began with.
-/

namespace Cypfr.SyncReq

open Machine SyncState

variable {Thread : Type} [DecidableEq Thread] {s : SyncState Thread} {e : SyncEvent Thread}

/-- Every call that returned success had sent its request with success, and an indication for it was processed
after it selected its slot. -/
def SuccessAnswered (s : SyncState Thread) : Prop :=
  ∀ call ∈ s.returned, call.status = .success → call.sent = true ∧ call.indicated = true

/-- A call that begins finds a slot that is not in use. -/
def SlotFree (s : SyncState Thread) : SyncEvent Thread → Prop
  | .call t _ => s.running t = none → ∃ i, s.array.slotInUse i = false
  | _ => True

theorem successAnswered_leave {t : Thread} {call : Call} {status : ClientStatus} {sent indicated : Bool}
    (answered : SuccessAnswered s) : SuccessAnswered (s.leave t call status sent indicated) ↔
      (status = .success → sent = true ∧ indicated = true) := by
  constructor
  · exact fun after => after _ (List.mem_append_right _ (List.mem_singleton_self _))
  · intro own returned member
    rcases List.mem_append.mp member with old | new
    · exact answered returned old
    · cases List.mem_singleton.mp new
      exact own

theorem successAnswered_call_iff (answered : SuccessAnswered s) (t : Thread) (call : Call) :
    SuccessAnswered (s.locSyncSendReq t call) ↔ ∃ i, s.array.slotInUse i = false := by
  rw [locSyncSendReq]
  rcases locAllocSlot_cases s.array with ⟨i, unused, same⟩ | ⟨full, same⟩
  · rw [same]
    exact iff_of_true answered ⟨i, unused⟩
  · rw [same]
    refine iff_of_false (fun after => ?_) ?_
    · exact Bool.false_ne_true ((successAnswered_leave answered).mp after rfl).1
    · rintro ⟨i, unused⟩
      exact Bool.false_ne_true (unused.symm.trans (full i))

/-- A call that frees its slot has the status it should. -/
theorem successAnswered_freeSlot (orderly : Orderly s) (answered : SuccessAnswered s) {t : Thread} {r : Running}
    {status : ClientStatus} (found : s.running t = some r)
    (ended : r.stage = .sent status ∧ status ≠ .success ∨ ∃ rc, r.stage = .waited rc ∧ status = statusOf rc) :
    SuccessAnswered (s.freeSlot t r status) := by
  refine (successAnswered_leave (s := { s with array := s.array.locFreeSlot r.slot }) answered).mpr fun success => ?_
  rcases ended with ⟨-, failed⟩ | ⟨rc, stage, same⟩
  · exact absurd success failed
  · have ok : rc = .ok := by
      cases rc <;> first | rfl | exact absurd (same.symm.trans success) (by decide)
    rw [ok] at stage
    have consistent := orderly.owned.consistent t r found (by rw [Running.hasSelected, stage]; rfl)
    refine ⟨sent_of_stage consistent ?_ ?_, consistent.woken (.inr stage)⟩
    · rw [stage]
      rintro ⟨⟩
    · rw [stage]
      rintro _ ⟨⟩

theorem successAnswered_step_iff (orderly : Orderly s) (answered : SuccessAnswered s) :
    SuccessAnswered (s.step e) ↔ SlotFree s e := by
  have stepped := steps s e
  cases e with
  | call t call =>
    rw [step, SlotFree]
    cases idle : s.running t with
    | none => exact (successAnswered_call_iff answered t call).trans ⟨fun free _ => free, fun free => free rfl⟩
    | some r => exact iff_of_true answered (by rintro ⟨⟩)
  | select | send | expire | wake | indication =>
    refine iff_of_true ?_ trivial
    generalize s.step _ = s' at stepped
    cases stepped <;> exact answered
  | wait t =>
    refine iff_of_true ?_ trivial
    generalize s.step _ = s' at stepped
    cases stepped with
    | unconcerned => exact answered
    | wait found stage =>
      rw [locSyncWaitForInd, if_neg (by rw [orderly.owned.held _ _ found]; decide)]
      split_ifs <;> exact answered
  | free t =>
    refine iff_of_true ?_ trivial
    generalize s.step _ = s' at stepped
    cases stepped with
    | unconcerned => exact answered
    | free found ended => exact successAnswered_freeSlot orderly answered found ended

/-- In every run success means an answer throughout exactly when every call finds a free slot. -/
theorem successAnswered_throughout_iff (memory : Thread → List UInt8) (events : List (SyncEvent Thread)) :
    Throughout step SuccessAnswered (start memory) events ↔ EachStep step SlotFree (start memory) events :=
  throughout_iff_eachStep (orderly_start memory) (fun _ e orderly => orderly_step orderly e)
    (fun _ member => absurd member List.not_mem_nil) fun _ _ orderly answered =>
      successAnswered_step_iff orderly answered

section Full

/-- Nine threads call one after the other. -/
def nineCalls : List (SyncEvent ℕ) := (List.range 9).map fun t => .call t ⟨1, 2, 2, true⟩

/-- The ninth call finds the table full and reports success for a request it never sent. -/
theorem full_table_succeeds : ¬ ∀ events : List (SyncEvent ℕ),
    Throughout step SuccessAnswered (start fun _ => []) events := by
  intro always
  have final := always nineCalls _ List.prefix_rfl
  have returned : (nineCalls.foldl step (start fun _ => [])).returned =
      [⟨8, ⟨1, 2, 2, true⟩, .success, false, false, []⟩] := by decide
  have answered :=
    final ⟨8, ⟨1, 2, 2, true⟩, .success, false, false, []⟩ (by rw [returned]; exact List.mem_singleton_self _) rfl
  exact Bool.false_ne_true answered.1

end Full

end Cypfr.SyncReq
