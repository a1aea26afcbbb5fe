import Cypfr.Machine.Reachable
import Cypfr.Proofs.LocTimer

/-! # Safety of the timer service

Two results over every interleaving of the clients, the poll thread and the message task. A run
calls a timer back early exactly when it handles a `MsgTimerExpire` while the top of the heap lies
in the future, which a removal between the kernel event and the message brings about. And no
wake-up is lost: a non-empty heap always has an armed descriptor, a poll thread in `expire` or a
queued `MsgTimerExpire` behind it.
-/

namespace Cypfr.LocTimer

open LocHeap Machine

/-- The clock runs, the pointers agree and every future time came from a timeout. -/
structure Timed (s : State) : Prop where
  running : 0 < s.now
  linked : s.Linked
  heaps : ∀ c, ∀ d ∈ (s.containers c).heap.elems, Timely s.now d
  pushes : ∀ c d, Msg.timerPush c d ∈ s.queue → Timely s.now d

theorem Timed.of_loop {c : Bool} {s t : State} (timed : Timed s) (frame : State.LoopFrame c s t) : Timed t := by
  obtain ⟨running, linked, heaps, pushes⟩ := timed
  obtain ⟨sent, queue, timely⟩ := frame.sent
  refine ⟨frame.now ▸ running, frame.linked linked, ?_, ?_⟩
  · intro c' d member
    rw [frame.now]
    by_cases same : c' = c
    · subst same; exact heaps c' d (frame.elems d member)
    · rw [frame.others c' same] at member; exact heaps c' d member
  · intro c' d member
    rw [queue] at member
    rw [frame.now]
    rcases List.mem_append.mp member with old | new
    · exact pushes c' d old
    · exact timely c' d new running

theorem Timed.rest {s : State} {m : Msg} {rest : List Msg} (timed : Timed s) (head : s.queue = m :: rest) :
    Timed { s with queue := rest } :=
  ⟨timed.running, timed.linked, timed.heaps,
    fun c d member => timed.pushes c d (head ▸ List.mem_cons_of_mem m member)⟩

@[simp] theorem Container.updateSoonestTime_heap (k : Container) (priorTop : Option Delegate) :
    (k.updateSoonestTime priorTop).heap = k.heap := by
  unfold updateSoonestTime
  split_ifs
  · split
    · rfl
    · split_ifs <;> rfl
  · rfl

namespace State

@[simp] theorem setContainer_self (s : State) (c : Bool) (k : Container) :
    (s.setContainer c k).containers c = k := Function.update_self ..

@[simp] theorem setContainer_of_ne (s : State) {c c' : Bool} (other : c' ≠ c) (k : Container) :
    (s.setContainer c k).containers c' = s.containers c' := Function.update_of_ne other ..

@[simp] theorem setContainer_polling (s : State) (c : Bool) (k : Container) :
    (s.setContainer c k).polling = s.polling := rfl

@[simp] theorem setContainer_queue (s : State) (c : Bool) (k : Container) :
    (s.setContainer c k).queue = s.queue := rfl

theorem pop_loop (s : State) (c : Bool) :
    LoopFrame c s (s.setContainer c
      { s.containers c with heap := (pop rankDelegates (s.containers c).heap).2 }) := by
  apply setContainer_loop
  intro d member
  cases top : (s.containers c).heap.peek with
  | none =>
    rw [LocHeap.Tree.peek_eq_none_iff] at top
    rw [top] at member ⊢
    exact member
  | some first =>
    rw [elems_pop rankDelegates top]
    exact Multiset.mem_cons_of_mem member

theorem procRemove_loop (s : State) (c : Bool) (timer : Delegate) : LoopFrame c s (s.procRemove c timer) := by
  apply setContainer_loop
  intro d member
  have heap : d ∈ (remove rankDelegates timer (s.containers c).heap).2.elems := by
    split_ifs at member
    · rwa [Container.updateSoonestTime_heap] at member
    · exact member
  rcases remove_cases rankDelegates timer (s.containers c).heap with ⟨-, elems⟩ | same
  · rw [elems]; exact Multiset.mem_cons_of_mem heap
  · rwa [same] at heap

/-- The state in which the expire loop has ended, before the descriptor is re-armed. -/
def expired (s : State) (c : Bool) (during : List (List ClientCall)) : State :=
  expireLoop c (clockGettime s.now) (s.containers c).heap.nodes during
    (pop rankDelegates (s.containers c).heap).1
    (s.setContainer c { s.containers c with heap := (pop rankDelegates (s.containers c).heap).2 })

theorem procExpire_eq (s : State) (c : Bool) (during : List (List ClientCall)) :
    s.procExpire c during = (s.expired c during).setContainer c
      (((s.expired c during).containers c).updateSoonestTime none) := rfl

theorem expired_loop (s : State) (c : Bool) (during : List (List ClientCall)) :
    LoopFrame c s (s.expired c during) :=
  (pop_loop s c).trans (expireLoop_spec c _ during _ _).1

/-- `MsgTimerExpire` leaves no timer in the heap whose time the clock has reached. -/
theorem expired_done (s : State) (c : Bool) (during : List (List ClientCall)) :
    (((s.expired c during).containers c).popIfOutRanks (clockGettime s.now)).1 = none := by
  apply expireLoop_done
  · intro popped
    rw [pop_fst] at popped
    obtain ⟨top, present⟩ := Option.ne_none_iff_exists'.mp popped
    rw [setContainer_self, ← LocHeap.Tree.card_elems, ← LocHeap.Tree.card_elems, elems_pop rankDelegates present,
      Multiset.card_cons]
    exact Nat.le_succ _
  · intro empty
    rw [pop_fst, LocHeap.Tree.peek_eq_none_iff] at empty
    rw [setContainer_self, empty]
    rfl

theorem procExpire_loop (s : State) (c : Bool) (during : List (List ClientCall)) :
    LoopFrame c s (s.procExpire c during) := by
  rw [procExpire_eq]
  refine (expired_loop s c during).trans (setContainer_loop _ c _ fun d member => ?_)
  rwa [Container.updateSoonestTime_heap] at member

end State

theorem Timed.procPush {s : State} (timed : Timed s) (c : Bool) (timer : Delegate)
    (timely : Timely s.now timer) : Timed (s.procPush c timer) := by
  refine ⟨timed.running, timed.linked, ?_, timed.pushes⟩
  intro c' d member
  by_cases same : c' = c
  · subst same
    simp only [State.procPush, State.setContainer_self, Container.updateSoonestTime_heap, elems_push] at member
    rcases Multiset.mem_cons.mp member with rfl | old
    · exact timely
    · exact timed.heaps c' d old
  · simp only [State.procPush, State.setContainer_of_ne _ same] at member
    exact timed.heaps c' d member

theorem Timed.proc {s : State} (timed : Timed s) (during : List (List ClientCall)) : Timed (s.proc during) := by
  unfold State.proc
  split
  · exact timed
  · next c timer rest head =>
    exact (timed.rest head).procPush c timer (timed.pushes c timer (head ▸ List.mem_cons_self))
  · next c timer rest head => exact (timed.rest head).of_loop (State.procRemove_loop _ c timer)
  · next c rest head => exact (timed.rest head).of_loop (State.procExpire_loop _ c during)

theorem State.pollStep_loop (s : State) (c : Bool) (rest : List Bool) (head : s.polling = c :: rest) :
    LoopFrame c { s with polling := s.pollStep.polling } s.pollStep := by
  unfold State.pollStep
  rw [head]
  cases s.phase with
  | disarm =>
    obtain ⟨now, polling, others, elems, sent, linked⟩ :=
      setContainer_loop s c { s.containers c with armed := settime ⟨0, 0⟩ } fun d member => member
    exact ⟨now, rfl, others, elems, sent, linked⟩
  | removePoll =>
    obtain ⟨now, polling, others, elems, sent, linked⟩ :=
      setContainer_loop s c { s.containers c with polled := false } fun d member => member
    exact ⟨now, rfl, others, elems, sent, linked⟩
  | sendMsg => exact ⟨rfl, rfl, fun _ _ => rfl, fun d member => member, ⟨[_], rfl, by simp⟩, id⟩

theorem Timed.pollStep {s : State} (timed : Timed s) : Timed s.pollStep := by
  cases head : s.polling with
  | nil => rw [State.pollStep, head]; exact timed
  | cons c rest =>
    refine Timed.of_loop (s := { s with polling := s.pollStep.polling }) ?_ (s.pollStep_loop c rest head)
    exact ⟨timed.running, timed.linked, timed.heaps, timed.pushes⟩

theorem Timed.step {s : State} (timed : Timed s) (a : Action) : Timed (step s a) := by
  cases a with
  | tick elapsed =>
    have order : s.now ≤ s.now + elapsed := Nat.le_add_right ..
    exact ⟨timed.running.trans_le order, timed.linked, fun c d member => (timed.heaps c d member).later order,
      fun c d member => (timed.pushes c d member).later order⟩
  | client call => exact timed.of_loop ((State.clientCall_frame s call).loop false)
  | wake fired =>
    simp only [LocTimer.step, State.wake]
    split_ifs
    · exact ⟨timed.running, timed.linked, timed.heaps, timed.pushes⟩
    · exact timed
  | pollStep => exact timed.pollStep
  | proc during => exact timed.proc during

theorem timed_initial (uptime : ℕ) : Timed (initial uptime) where
  running := Nat.succ_pos uptime
  linked d c owner := by cases owner
  heaps c d member := by simp [initial] at member
  pushes c d member := by cases member

/-- The callback an action makes on its first, unconditional pop. -/
def State.handed (s : State) : Action → List Callback
  | .proc _ =>
    match s.queue with
    | .timerExpire c :: _ => s.owed (s.containers c).heap.peek
    | _ => []
  | _ => []

theorem State.procExpire_callbacks {s : State} (timed : Timed s) (c : Bool) (during : List (List ClientCall)) :
    ∃ later, (s.procExpire c during).callbacks = s.callbacks ++ s.owed (s.containers c).heap.peek ++ later ∧
      ∀ cb ∈ later, cb.future.toNs ≤ cb.time := by
  have popped := timed.of_loop (pop_loop s c)
  obtain ⟨later, callbacks, due⟩ := (expireLoop_spec c (s.containers c).heap.nodes during
    (pop rankDelegates (s.containers c).heap).1 _).2 popped.linked (popped.heaps c)
  rw [← pop_fst rankDelegates]
  exact ⟨later, callbacks, due⟩

/-- A step makes the callback it was handed, and every other callback of the step is due. -/
theorem step_callbacks {s : State} (timed : Timed s) (a : Action) :
    ∃ later, (step s a).callbacks = s.callbacks ++ s.handed a ++ later ∧
      ∀ cb ∈ later, cb.future.toNs ≤ cb.time := by
  have quiet {t : State} (same : t.callbacks = s.callbacks) :
      ∃ later, t.callbacks = s.callbacks ++ [] ++ later ∧ ∀ cb ∈ later, cb.future.toNs ≤ cb.time :=
    ⟨[], by simp [same], by simp⟩
  cases a with
  | tick elapsed => exact quiet rfl
  | client call => exact quiet (State.clientCall_callbacks s call)
  | wake fired =>
    apply quiet
    simp only [step, State.wake]
    split_ifs <;> rfl
  | pollStep =>
    apply quiet
    simp only [step, State.pollStep]
    split
    · rfl
    · split <;> rfl
  | proc during =>
    simp only [step, State.proc, State.handed]
    split
    · next empty => rw [empty]; exact quiet rfl
    · next head => rw [head]; exact quiet rfl
    · next head => rw [head]; exact quiet rfl
    · next c rest head =>
      rw [head]
      exact State.procExpire_callbacks (timed.rest head) c during

/-- When the message task takes a `MsgTimerExpire`, the top of the heap is due or already stopped. -/
def DueOnExpire (s : State) : Action → Prop
  | .proc _ => ∀ c rest top, s.queue = .timerExpire c :: rest → (s.containers c).heap.peek = some top →
      s.mClient top ≠ none → top.mFutureTime.toNs ≤ s.now
  | _ => True

theorem dueOnExpire_iff (s : State) (a : Action) :
    DueOnExpire s a ↔ ∀ cb ∈ s.handed a, cb.future.toNs ≤ cb.time := by
  cases a with
  | proc during =>
    simp only [DueOnExpire, State.handed]
    constructor
    · intro due cb member
      split at member
      · next c rest head =>
        unfold State.owed at member
        split at member
        · cases member
        · next top present =>
          split at member
          · cases member
          · next client owner =>
            obtain rfl := List.mem_singleton.mp member
            exact due c rest top head present (by simp [owner])
      · cases member
    · intro due c rest top head present owner
      obtain ⟨client, owner⟩ := Option.ne_none_iff_exists'.mp owner
      simp only [head, present, State.owed, owner, List.mem_singleton, forall_eq] at due
      exact due
  | _ => simp [DueOnExpire, State.handed]

theorem callbacks_due_run {s : State} (timed : Timed s) (tape : List Action) :
    (∀ cb ∈ (tape.foldl step s).callbacks, cb.future.toNs ≤ cb.time) ↔
      (∀ cb ∈ s.callbacks, cb.future.toNs ≤ cb.time) ∧
        ∀ n a, tape[n]? = some a → DueOnExpire ((tape.take n).foldl step s) a := by
  induction tape generalizing s with
  | nil => simp
  | cons a rest ih =>
    obtain ⟨later, callbacks, due⟩ := step_callbacks timed a
    have first : (∀ cb ∈ (step s a).callbacks, cb.future.toNs ≤ cb.time) ↔
        (∀ cb ∈ s.callbacks, cb.future.toNs ≤ cb.time) ∧ DueOnExpire s a := by
      rw [callbacks, dueOnExpire_iff]
      simp only [List.mem_append, or_imp, forall_and]
      exact ⟨fun h => h.1, fun h => ⟨h, due⟩⟩
    rw [List.foldl_cons, ih (timed.step a), first, and_assoc]
    refine and_congr_right fun _ => ⟨?_, ?_⟩
    · rintro ⟨now, after⟩ (_ | n) b present
      · obtain rfl := Option.some.inj present
        exact now
      · exact after n b present
    · intro all
      exact ⟨all 0 a rfl, fun n b present => all (n + 1) b present⟩

/-- A run calls no timer back early exactly when each `MsgTimerExpire` it handles finds the top of the
heap due or stopped. -/
theorem no_early_callback_iff (uptime : ℕ) (tape : List Action) :
    (∀ cb ∈ (tape.foldl step (initial uptime)).callbacks, cb.future.toNs ≤ cb.time) ↔
      ∀ n a, tape[n]? = some a → DueOnExpire ((tape.take n).foldl step (initial uptime)) a := by
  rw [callbacks_due_run (timed_initial uptime) tape]
  exact and_iff_right (by simp [initial])

/-- Stopping the 10 ms timer after its descriptor fired leaves the 100 ms timer on top of the heap,
and the queued `MsgTimerExpire` calls it back 90 ms early. -/
theorem early_callback_after_stop :
    ¬ ∀ cb ∈ ([.client (.start 0 10 false), .client (.start 1 100 false), .proc [], .proc [], .tick 10000000,
        .client (.stop 0), .wake [false], .pollStep, .pollStep, .pollStep, .proc [], .proc []].foldl step
          (initial 0)).callbacks, cb.future.toNs ≤ cb.time := by
  decide

/-- Something will look at the heap of `c` no later than its top is due. -/
def Awaited (s : State) (c : Bool) : Prop :=
  ∀ top, (s.containers c).heap.peek = some top →
    ((s.containers c).polled = true ∧
      ∃ t, (s.containers c).armed = some t ∧ t.toNs ≤ top.mFutureTime.toNs) ∨
      c ∈ s.polling ∨ Msg.timerExpire c ∈ s.queue

/-- Steps that leave the container alone and take nothing it waits for keep it awaited. -/
theorem Awaited.of_same {s t : State} {c : Bool} (awaited : Awaited s c)
    (same : t.containers c = s.containers c) (polling : c ∈ s.polling → c ∈ t.polling)
    (queue : Msg.timerExpire c ∈ s.queue → Msg.timerExpire c ∈ t.queue) : Awaited t c := by
  intro top present
  rw [same] at present ⊢
  rcases awaited top present with armed | polled | queued
  · exact .inl armed
  · exact .inr (.inl (polling polled))
  · exact .inr (.inr (queue queued))

/-- Told that there was no prior top, `updateSoonestTime` arms the descriptor for the current one. -/
theorem Container.updateSoonestTime_none {k : Container} {top : Delegate} (present : k.heap.peek = some top)
    (positive : 0 < top.mFutureTime.toNs) :
    (k.updateSoonestTime none).polled = true ∧ (k.updateSoonestTime none).armed = some top.mFutureTime := by
  simp [updateSoonestTime, present, settime_of_positive positive]

theorem awaited_of_rearmed {s : State} {c : Bool} {k : Container}
    (timely : ∀ d ∈ k.heap.elems, 0 < d.mFutureTime.toNs) :
    Awaited (s.setContainer c (k.updateSoonestTime none)) c := by
  intro top present
  rw [State.setContainer_self, Container.updateSoonestTime_heap] at present
  rw [State.setContainer_self]
  obtain ⟨polled, armed⟩ := Container.updateSoonestTime_none present (timely top (LocHeap.Tree.peek_mem present))
  exact .inl ⟨polled, _, armed, le_rfl⟩

/-- After a push the top is the old one, or the pushed timer with the descriptor armed for it. -/
theorem awaited_procPush {s : State} {c : Bool} {timer : Delegate} (awaited : Awaited s c)
    (positive : 0 < timer.mFutureTime.toNs) : Awaited (s.procPush c timer) c := by
  intro top present
  simp only [State.procPush, State.setContainer_self, Container.updateSoonestTime_heap] at present ⊢
  have pushed := peek_push rankDelegates (s.containers c).heap timer
  rw [present] at pushed
  obtain rfl := Option.some.inj pushed
  cases prior : (s.containers c).heap.peek with
  | none =>
    simp only [prior] at present pushed ⊢
    obtain ⟨polled, armed⟩ := Container.updateSoonestTime_none
      (k := { s.containers c with heap := push rankDelegates (s.containers c).heap timer }) present positive
    exact .inl ⟨polled, _, armed, le_rfl⟩
  | some old =>
    simp only [prior] at present pushed ⊢
    by_cases higher : outRanks rankDelegates timer old = true
    · rw [if_pos higher] at present ⊢
      by_cases same : timer = old
      · subst same
        simpa [Container.updateSoonestTime, present] using awaited timer prior
      · left
        simp [Container.updateSoonestTime, present, same, higher, settime_of_positive positive]
    · rw [if_neg higher] at present ⊢
      simpa [Container.updateSoonestTime, present] using awaited old prior

/-- A removal that does not take the top leaves it; one that does re-arms. -/
theorem awaited_procRemove {s : State} {c : Bool} {timer : Delegate} (timed : Timed s) (awaited : Awaited s c) :
    Awaited (s.procRemove c timer) c := by
  have removed := timed.of_loop (State.procRemove_loop s c timer)
  unfold State.procRemove at removed ⊢
  simp only at removed ⊢
  split_ifs at removed ⊢ with wasTop
  · apply awaited_of_rearmed
    intro d member
    exact (removed.heaps c d (by simpa using member)).positive
  · intro top present
    rw [State.setContainer_self] at present ⊢
    have old : (s.containers c).heap.peek = some top := by
      rcases remove_cases rankDelegates timer (s.containers c).heap with ⟨found, -⟩ | same
      · cases prior : (s.containers c).heap.peek with
        | none =>
          rw [LocHeap.Tree.peek_eq_none_iff] at prior
          rw [prior] at present
          cases present
        | some first =>
          have other : timer ≠ first := by
            rintro rfl
            exact wasTop (prior.trans found.symm)
          rw [peek_remove_of_ne prior other] at present
          exact present
      · rwa [same] at present
    exact awaited top old

theorem awaited_procExpire {s : State} (timed : Timed s) (c : Bool) (during : List (List ClientCall)) :
    Awaited (s.procExpire c during) c := by
  rw [State.procExpire_eq]
  apply awaited_of_rearmed
  intro d member
  exact ((timed.of_loop (State.expired_loop s c during)).heaps c d member).positive

/-- Handling a message for one container keeps the other awaited. -/
theorem Awaited.of_loop {s t : State} {c c' : Bool} (awaited : Awaited s c') (frame : State.LoopFrame c s t)
    (other : c' ≠ c) : Awaited t c' := by
  obtain ⟨sent, queue, -⟩ := frame.sent
  refine awaited.of_same (frame.others c' other) (fun member => frame.polling ▸ member) ?_
  intro member
  rw [queue]
  exact List.mem_append_left sent member

theorem Awaited.rest {s : State} {c : Bool} {m : Msg} {rest : List Msg} (awaited : Awaited s c)
    (head : s.queue = m :: rest) (other : m ≠ .timerExpire c) : Awaited { s with queue := rest } c := by
  refine awaited.of_same rfl id fun member => ?_
  rw [head] at member
  exact (List.mem_cons.mp member).resolve_left (Ne.symm other)

theorem awaited_proc {s : State} (timed : Timed s) (awaited : ∀ c, Awaited s c) (during : List (List ClientCall))
    (c : Bool) : Awaited (s.proc during) c := by
  unfold State.proc
  split
  · exact awaited c
  · next c' timer rest head =>
    have waiting := (awaited c).rest head (by simp)
    by_cases same : c = c'
    · subst same
      exact awaited_procPush waiting (timed.pushes c timer (head ▸ List.mem_cons_self)).positive
    · exact waiting.of_same (State.setContainer_of_ne _ same _) id id
  · next c' timer rest head =>
    have waiting := (awaited c).rest head (by simp)
    by_cases same : c = c'
    · subst same; exact awaited_procRemove (timed.rest head) waiting
    · exact waiting.of_loop (State.procRemove_loop _ c' timer) same
  · next c' rest head =>
    by_cases same : c = c'
    · subst same; exact awaited_procExpire (timed.rest head) c during
    · have waiting := (awaited c).rest head (by simpa using Ne.symm same)
      exact waiting.of_loop (State.procExpire_loop _ c' during) same

/-- The poll thread gives up its claim on a container only by sending the message. -/
theorem awaited_pollStep {s : State} {c : Bool} (awaited : Awaited s c) : Awaited s.pollStep c := by
  unfold State.pollStep
  split
  · exact awaited
  · next c' rest head =>
    by_cases same : c = c'
    · subst same
      intro top present
      right
      cases s.phase with
      | disarm => left; exact head ▸ List.mem_cons_self
      | removePoll => left; exact head ▸ List.mem_cons_self
      | sendMsg => right; exact List.mem_append_right _ (List.mem_singleton.mpr rfl)
    · cases s.phase with
      | disarm => exact awaited.of_same (State.setContainer_of_ne _ same _) id id
      | removePoll => exact awaited.of_same (State.setContainer_of_ne _ same _) id id
      | sendMsg =>
        refine awaited.of_same rfl (fun member => ?_) (List.mem_append_left _)
        rw [head] at member
        exact (List.mem_cons.mp member).resolve_left same

theorem awaited_step {s : State} (timed : Timed s) (awaited : ∀ c, Awaited s c) (a : Action) (c : Bool) :
    Awaited (step s a) c := by
  cases a with
  | tick elapsed => exact (awaited c).of_same rfl id id
  | client call =>
    have frame := State.clientCall_frame s call
    obtain ⟨sent, queue, -⟩ := frame.sent
    refine (awaited c).of_same (congrFun frame.containers c) (fun member => frame.polling ▸ member) ?_
    intro member
    simp only [step, queue]
    exact List.mem_append_left sent member
  | wake fired =>
    simp only [step, State.wake]
    split_ifs with idle
    · exact (awaited c).of_same rfl (fun member => by rw [idle.1] at member; cases member) id
    · exact awaited c
  | pollStep => exact awaited_pollStep (awaited c)
  | proc during => exact awaited_proc timed awaited during c

/-- No wake-up is lost: in every reachable state a container with a timer is armed and polled for its
top, or its descriptor has fired and the poll thread is in `expire`, or a `MsgTimerExpire` is queued. -/
theorem no_lost_wakeup {uptime : ℕ} {s : State} (reach : Reachable step (fun _ _ => True) (initial uptime) s)
    (c : Bool) (top : Delegate) (present : (s.containers c).heap.peek = some top) :
    ((s.containers c).polled = true ∧
      ∃ t, (s.containers c).armed = some t ∧ t.toNs ≤ top.mFutureTime.toNs) ∨
      c ∈ s.polling ∨ Msg.timerExpire c ∈ s.queue := by
  have sound := reach.invariant (fun s => Timed s ∧ ∀ c, Awaited s c)
    ⟨timed_initial uptime, fun c top present => by cases present⟩
    fun s a inv _ => ⟨inv.1.step a, awaited_step inv.1 inv.2 a⟩
  exact sound.2 c top present

theorem no_lost_wakeup_after_push :
    ∃ s top, Reachable step (fun _ _ => True) (initial 0) s ∧ (s.containers false).heap.peek = some top ∧
      (((s.containers false).polled = true ∧
        ∃ t, (s.containers false).armed = some t ∧ t.toNs ≤ top.mFutureTime.toNs) ∨
        false ∈ s.polling ∨ Msg.timerExpire false ∈ s.queue) := by
  have reach : Reachable step (fun _ _ => True) (initial 0)
      ([.client (.start 0 10 false), .proc [], .tick 10000000, .wake [false], .pollStep].foldl step (initial 0)) :=
    Reachable.start.run _ fun _ _ _ => trivial
  exact ⟨_, ⟨0, futureTime 1 10, false⟩, reach, by decide, no_lost_wakeup reach false _ (by decide)⟩

end Cypfr.LocTimer
