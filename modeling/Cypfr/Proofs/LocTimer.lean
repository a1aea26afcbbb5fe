import Cypfr.Model.LocTimer
import Cypfr.Proofs.LocHeap
import Mathlib.Tactic.NormNum

/-! # Frames of the timer service

Client calls only touch the clients' own pointers and append messages; the expire loop in addition
pops delegates of its container and records callbacks. These frames, together with the bound on the
future times that a 32-bit timeout allows, are what both safety results use.
-/

namespace Cypfr.LocTimer

open LocHeap

/-- The longest timeout `start` accepts, in nanoseconds. -/
def maxDelay : ℕ := (2 ^ 32 - 1) * 1000000

theorem futureTime_toNs (now : ℕ) (timeOutInMs : UInt32) :
    (futureTime now timeOutInMs).toNs = now + timeOutInMs.toNat * 1000000 ∧
      (futureTime now timeOutInMs).nsec < 1000000000 := by
  by_cases carry : 1000000000 ≤ now % 1000000000 + timeOutInMs.toNat % 1000 * 1000000
  · unfold futureTime
    dsimp only [clockGettime]
    rw [if_pos carry]
    dsimp only [Timespec.toNs]
    omega
  · unfold futureTime
    dsimp only [clockGettime]
    rw [if_neg carry]
    dsimp only [Timespec.toNs]
    omega

/-- A delegate's time is normalised, not zero and at most one timeout ahead of the clock. -/
structure Timely (now : ℕ) (d : Delegate) : Prop where
  normal : d.mFutureTime.nsec < 1000000000
  positive : 0 < d.mFutureTime.toNs
  bounded : d.mFutureTime.toNs ≤ now + maxDelay

theorem Timely.later {now later : ℕ} {d : Delegate} (timely : Timely now d) (order : now ≤ later) :
    Timely later d :=
  ⟨timely.normal, timely.positive, timely.bounded.trans (by omega)⟩

theorem timely_futureTime {now serial : ℕ} (running : 0 < now) (timeOutInMs : UInt32) (wakeOnExpire : Bool) :
    Timely now ⟨serial, futureTime now timeOutInMs, wakeOnExpire⟩ := by
  obtain ⟨value, normal⟩ := futureTime_toNs now timeOutInMs
  have limit := timeOutInMs.toNat_lt
  refine ⟨normal, ?_, ?_⟩
  · simp only [value]; omega
  · simp only [value, maxDelay]; omega

/-- A time that the clock does not outrank has come: the truncated difference of the seconds can
only go wrong for times more than a timeout ahead. -/
theorem toNs_le_of_ranks {now : ℕ} {d : Delegate} (timely : Timely now d)
    (reached : ¬ 0 < (clockGettime now).ranks d.mFutureTime) : d.mFutureTime.toNs ≤ now := by
  obtain ⟨normal, -, bounded⟩ := timely
  simp only [Timespec.ranks, clockGettime, Timespec.toNs, maxDelay, Int.bmod] at *
  norm_num at *
  split_ifs at reached <;> omega

theorem settime_of_positive {t : Timespec} (positive : 0 < t.toNs) : settime t = some t := by
  rw [settime, if_neg]
  rintro rfl
  exact absurd positive (by decide)

namespace State

/-- A client pointer of a delegate is always answered by the client's own timer pointer. -/
def Linked (s : State) : Prop := ∀ d c, s.mClient d = some c → s.mTimer c = some d

/-- What a client call may do: link or unlink delegates and append messages. -/
structure Frame (s t : State) : Prop where
  now : t.now = s.now
  containers : t.containers = s.containers
  polling : t.polling = s.polling
  phase : t.phase = s.phase
  sent : ∃ sent, t.queue = s.queue ++ sent ∧
    ∀ c d, Msg.timerPush c d ∈ sent → 0 < s.now → Timely s.now d
  linked : s.Linked → t.Linked

theorem Frame.refl (s : State) : Frame s s :=
  ⟨rfl, rfl, rfl, rfl, ⟨[], by simp, by simp⟩, id⟩

theorem Frame.trans {r s t : State} (first : Frame r s) (second : Frame s t) : Frame r t := by
  obtain ⟨sent, queue, timely⟩ := first.sent
  obtain ⟨sent', queue', timely'⟩ := second.sent
  refine ⟨second.now.trans first.now, second.containers.trans first.containers,
    second.polling.trans first.polling, second.phase.trans first.phase,
    ⟨sent ++ sent', by rw [queue', queue, List.append_assoc], ?_⟩, second.linked ∘ first.linked⟩
  intro c d member running
  rcases List.mem_append.mp member with early | late
  · exact timely c d early running
  · exact first.now ▸ timely' c d late (first.now ▸ running)

theorem start_frame (s : State) (client : ℕ) (timeOutInMs : UInt32) (wakeOnExpire : Bool) :
    Frame s (s.start client timeOutInMs wakeOnExpire) := by
  unfold start
  split
  · exact .refl s
  · next idle =>
    refine ⟨rfl, rfl, rfl, rfl, ⟨[_], rfl, ?_⟩, ?_⟩
    · intro c d member running
      obtain ⟨-, rfl⟩ := Msg.timerPush.inj (List.mem_singleton.mp member)
      exact timely_futureTime running timeOutInMs wakeOnExpire
    · intro linked d c owner
      simp only [send, Function.update_apply] at owner ⊢
      split_ifs at owner with fresh
      · rw [if_pos (Option.some.inj owner).symm, fresh]
      · have target := linked d c owner
        rw [if_neg]
        · exact target
        · rintro rfl
          rw [idle] at target
          cases target

theorem stop_frame (s : State) (client : ℕ) : Frame s (s.stop client).2 := by
  unfold stop
  split
  · exact .refl s
  · next timer running =>
    unfold destroyLocked
    split
    · next orphan =>
      refine ⟨rfl, rfl, rfl, rfl, ⟨[], by simp, by simp⟩, ?_⟩
      intro linked d c owner
      simp only [Function.update_apply] at owner ⊢
      split_ifs with same
      · have target := linked d c owner
        rw [same, running] at target
        obtain rfl := Option.some.inj target
        simp only at orphan
        rw [orphan] at owner
        cases owner
      · exact linked d c owner
    · next owned =>
      refine ⟨rfl, rfl, rfl, rfl, ⟨[_], rfl, by simp⟩, ?_⟩
      intro linked d c owner
      simp only [send, Function.update_apply] at owner ⊢
      split_ifs at owner with gone
      have target := linked d c owner
      rw [if_neg]
      · exact target
      · rintro rfl
        rw [running] at target
        exact gone (Option.some.inj target).symm

theorem clientCall_frame (s : State) (call : ClientCall) : Frame s (s.clientCall call) := by
  cases call with
  | start client timeOutInMs wakeOnExpire => exact start_frame s client timeOutInMs wakeOnExpire
  | stop client => exact stop_frame s client

theorem start_callbacks (s : State) (client : ℕ) (timeOutInMs : UInt32) (wakeOnExpire : Bool) :
    (s.start client timeOutInMs wakeOnExpire).callbacks = s.callbacks := by
  unfold start
  split <;> rfl

theorem stop_callbacks (s : State) (client : ℕ) : (s.stop client).2.callbacks = s.callbacks := by
  unfold stop
  split
  · rfl
  · unfold destroyLocked
    split <;> rfl

theorem clientCall_callbacks (s : State) (call : ClientCall) : (s.clientCall call).callbacks = s.callbacks := by
  cases call with
  | start client timeOutInMs wakeOnExpire => exact start_callbacks s client timeOutInMs wakeOnExpire
  | stop client => exact stop_callbacks s client

theorem clientCalls_frame (s : State) (calls : List ClientCall) :
    Frame s (calls.foldl clientCall s) ∧ (calls.foldl clientCall s).callbacks = s.callbacks := by
  induction calls generalizing s with
  | nil => exact ⟨.refl s, rfl⟩
  | cons call rest ih =>
    obtain ⟨frame, same⟩ := ih (s.clientCall call)
    exact ⟨(clientCall_frame s call).trans frame, same.trans (clientCall_callbacks s call)⟩

theorem delegateExpire_frame (s : State) (timer : Delegate) : Frame s (s.delegateExpire timer) := by
  unfold delegateExpire
  split
  · exact .refl s
  · next client _ =>
    have frame := stop_frame s client
    split
    · exact frame
    · exact ⟨frame.now, frame.containers, frame.polling, frame.phase, frame.sent, frame.linked⟩

/-- The callback owed to a popped delegate: one, unless its client has stopped it. -/
def owed (s : State) (timer : Option Delegate) : List Callback :=
  match timer with
  | none => []
  | some d =>
    match s.mClient d with
    | none => []
    | some client => [⟨client, d.mFutureTime, s.now⟩]

theorem owed_due {s : State} {timer : Option Delegate}
    (reached : ∀ d, timer = some d → d.mFutureTime.toNs ≤ s.now) :
    ∀ cb ∈ s.owed timer, cb.future.toNs ≤ cb.time := by
  intro cb member
  unfold owed at member
  split at member
  · cases member
  · next d =>
    split at member
    · cases member
    · obtain rfl := List.mem_singleton.mp member
      exact reached d rfl

theorem delegateExpire_callbacks {s : State} (linked : s.Linked) (timer : Delegate) :
    (s.delegateExpire timer).callbacks = s.callbacks ++ s.owed (some timer) := by
  unfold delegateExpire
  split
  · next orphan => simp only [owed, orphan, List.append_nil]
  · next client owner =>
    simp only [owed, owner, linked timer client owner, stop_callbacks]

/-- What the expire loop of container `c` may do. -/
structure LoopFrame (c : Bool) (s t : State) : Prop where
  now : t.now = s.now
  polling : t.polling = s.polling
  others : ∀ c', c' ≠ c → t.containers c' = s.containers c'
  elems : ∀ d ∈ (t.containers c).heap.elems, d ∈ (s.containers c).heap.elems
  sent : ∃ sent, t.queue = s.queue ++ sent ∧
    ∀ c' d, Msg.timerPush c' d ∈ sent → 0 < s.now → Timely s.now d
  linked : s.Linked → t.Linked

theorem LoopFrame.trans {c : Bool} {r s t : State} (first : LoopFrame c r s) (second : LoopFrame c s t) :
    LoopFrame c r t := by
  obtain ⟨sent, queue, timely⟩ := first.sent
  obtain ⟨sent', queue', timely'⟩ := second.sent
  refine ⟨second.now.trans first.now, second.polling.trans first.polling,
    fun c' other => (second.others c' other).trans (first.others c' other),
    fun d member => first.elems d (second.elems d member),
    ⟨sent ++ sent', by rw [queue', queue, List.append_assoc], ?_⟩, second.linked ∘ first.linked⟩
  intro c' d member running
  rcases List.mem_append.mp member with early | late
  · exact timely c' d early running
  · exact first.now ▸ timely' c' d late (first.now ▸ running)

theorem Frame.loop {s t : State} (frame : Frame s t) (c : Bool) : LoopFrame c s t :=
  ⟨frame.now, frame.polling, fun c' _ => congrFun frame.containers c',
    fun d member => by rwa [frame.containers] at member, frame.sent, frame.linked⟩

theorem setContainer_loop (s : State) (c : Bool) (k : Container)
    (fewer : ∀ d ∈ k.heap.elems, d ∈ (s.containers c).heap.elems) : LoopFrame c s (s.setContainer c k) :=
  ⟨rfl, rfl, fun c' other => Function.update_of_ne other _ _,
    fun d member => fewer d (by simpa [setContainer] using member), ⟨[], by simp [setContainer], by simp⟩, id⟩

end State

/-- A successful pop returns the top, which the clock does not outrank. -/
theorem Container.popIfOutRanks_spec (k : Container) (now : Timespec) :
    (∀ d ∈ (k.popIfOutRanks now).2.heap.elems, d ∈ k.heap.elems) ∧
      ∀ d, (k.popIfOutRanks now).1 = some d → d ∈ k.heap.elems ∧ ¬ 0 < now.ranks d.mFutureTime := by
  unfold popIfOutRanks
  split
  · exact ⟨fun d member => member, by simp⟩
  · next top present =>
    split_ifs with ahead
    · exact ⟨fun d member => member, by simp⟩
    · refine ⟨fun d member => ?_, fun d popped => ?_⟩
      · rw [elems_pop rankDelegates present]
        exact Multiset.mem_cons_of_mem member
      · simp only [pop_fst, present] at popped
        obtain rfl := Option.some.inj popped
        exact ⟨LocHeap.Tree.peek_mem present, ahead⟩

theorem Container.popIfOutRanks_nodes (k : Container) (now : Timespec) :
    k.popIfOutRanks now = (none, k) ∨
      (k.popIfOutRanks now).1 ≠ none ∧ k.heap.nodes = (k.popIfOutRanks now).2.heap.nodes + 1 := by
  unfold popIfOutRanks
  split
  · exact .inl rfl
  · next top present =>
    split_ifs
    · exact .inl rfl
    · refine .inr ⟨by simp [pop_fst, present], ?_⟩
      rw [← LocHeap.Tree.card_elems, ← LocHeap.Tree.card_elems, elems_pop rankDelegates present, Multiset.card_cons]

namespace State

/-- The loop calls back the timer it was handed, and after it only timers the rank test found due. -/
theorem expireLoop_spec (c : Bool) (fuel : ℕ) (during : List (List ClientCall)) (timer : Option Delegate)
    (s : State) :
    LoopFrame c s (expireLoop c (clockGettime s.now) fuel during timer s) ∧
      (s.Linked → (∀ d ∈ (s.containers c).heap.elems, Timely s.now d) →
        ∃ later, (expireLoop c (clockGettime s.now) fuel during timer s).callbacks =
            s.callbacks ++ s.owed timer ++ later ∧
          ∀ cb ∈ later, cb.future.toNs ≤ cb.time) := by
  induction fuel generalizing during timer s with
  | zero =>
    cases timer with
    | none => exact ⟨(Frame.refl s).loop c, fun _ _ => ⟨[], by simp [expireLoop, owed], by simp⟩⟩
    | some d =>
      obtain ⟨called, same⟩ := clientCalls_frame (s.delegateExpire d) (during.headD [])
      refine ⟨((delegateExpire_frame s d).trans called).loop c, fun linked _ => ⟨[], ?_, by simp⟩⟩
      rw [expireLoop, same, delegateExpire_callbacks linked, List.append_nil]
  | succ fuel ih =>
    cases timer with
    | none => exact ⟨(Frame.refl s).loop c, fun _ _ => ⟨[], by simp [expireLoop, owed], by simp⟩⟩
    | some d =>
      obtain ⟨called, same⟩ := clientCalls_frame (s.delegateExpire d) (during.headD [])
      have frame := (delegateExpire_frame s d).trans called
      rw [expireLoop]
      generalize (during.headD []).foldl clientCall (s.delegateExpire d) = t at *
      obtain ⟨fewer, due_of_popped⟩ := (t.containers c).popIfOutRanks_spec (clockGettime s.now)
      generalize (t.containers c).popIfOutRanks (clockGettime s.now) = out at *
      have sameNow : (t.setContainer c out.2).now = s.now := frame.now
      have tail := ih during.tail out.1 (t.setContainer c out.2)
      rw [sameNow] at tail
      refine ⟨((frame.loop c).trans (setContainer_loop t c _ fewer)).trans tail.1, ?_⟩
      intro linked timely
      have heap : (t.containers c).heap = (s.containers c).heap := by rw [frame.containers]
      obtain ⟨later, callbacks, due⟩ := tail.2 (frame.linked linked) (by
        intro e member
        simp only [setContainer, Function.update_self] at member
        exact timely e (heap ▸ fewer e member))
      refine ⟨(t.setContainer c out.2).owed out.1 ++ later, ?_, ?_⟩
      · rw [callbacks, List.append_assoc, ← delegateExpire_callbacks linked, ← same]
        rfl
      · intro cb member
        rcases List.mem_append.mp member with next | rest
        · refine owed_due (fun e popped => ?_) cb next
          obtain ⟨member, reached⟩ := due_of_popped e popped
          rw [sameNow]
          exact toNs_le_of_ranks (timely e (heap ▸ member)) reached
        · exact due cb rest

/-- The node count is enough fuel: the loop ends only when the rank test finds nothing more to pop. -/
theorem expireLoop_done (c : Bool) (now : Timespec) (fuel : ℕ) (during : List (List ClientCall))
    (timer : Option Delegate) (s : State) (enough : timer ≠ none → (s.containers c).heap.nodes ≤ fuel)
    (empty : timer = none → (s.containers c).popIfOutRanks now = (none, s.containers c)) :
    (((expireLoop c now fuel during timer s).containers c).popIfOutRanks now).1 = none := by
  induction fuel generalizing during timer s with
  | zero =>
    cases timer with
    | none => rw [expireLoop, empty rfl]
    | some d =>
      have frame := (delegateExpire_frame s d).trans
        (clientCalls_frame (s.delegateExpire d) (during.headD [])).1
      rw [expireLoop, frame.containers]
      rcases (s.containers c).popIfOutRanks_nodes now with stuck | ⟨-, fewer⟩
      · rw [stuck]
      · have := enough (by simp)
        omega
  | succ fuel ih =>
    cases timer with
    | none => rw [expireLoop, empty rfl]
    | some d =>
      have frame := (delegateExpire_frame s d).trans
        (clientCalls_frame (s.delegateExpire d) (during.headD [])).1
      rw [expireLoop]
      generalize (during.headD []).foldl clientCall (s.delegateExpire d) = t at *
      have bound := enough (by simp)
      rw [← frame.containers] at bound
      apply ih
      · intro popped
        simp only [setContainer, Function.update_self]
        rcases (t.containers c).popIfOutRanks_nodes now with stuck | ⟨-, fewer⟩
        · rw [stuck] at popped; exact absurd rfl popped
        · omega
      · intro stuck
        simp only [setContainer, Function.update_self]
        rcases (t.containers c).popIfOutRanks_nodes now with same | ⟨popped, -⟩
        · rw [same, same]
        · exact absurd stuck popped

end State

end Cypfr.LocTimer
