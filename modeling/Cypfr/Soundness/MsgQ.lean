import Cypfr.Model.MsgQ
import Cypfr.Proofs.LinkedList

/-! # The messages of a queue

In every interleaving of senders and receivers the messages that are taken out of the queue are those that were
accepted, in their order: each is received or flushed, and the others are queued.
-/

namespace Cypfr.MessageQueue

open LinkedList

/-- A message is an object with the function that frees it, if there is one. -/
abbrev Message (Obj Dealloc : Type) := Obj × Option Dealloc

/-- A critical section of the queue; a thread that waits may wake up at any time. -/
inductive Section (Obj Dealloc Thread : Type)
  | snd (malloc : Malloc Obj Dealloc) (msgObj : Option Obj) (dealloc : Option Dealloc)
  | rcv (thread : Thread) (msgObj : Bool)
  | wake (thread : Thread)
  | rmv (msgObj : Bool)
  | flush
  | unblock

/-- A queue, the threads that wait in it, and what its calls have returned. -/
structure Account (Obj Dealloc Thread : Type) where
  q : MsgQ Obj Dealloc
  waiting : Thread → Bool
  /-- What a send has returned success for. -/
  accepted : List (Message Obj Dealloc)
  /-- What was written by a receive or a removal that has returned success. -/
  received : List (Option Obj)
  /-- What a flush has found in the queue. -/
  flushed : List (Message Obj Dealloc)
  /-- The calls of `dealloc`. -/
  calls : List (Dealloc × Obj)

variable {Obj Dealloc Thread : Type}

namespace Account

def start : Account Obj Dealloc Thread := ⟨msgQInit, fun _ => false, [], [], [], []⟩

/-- The messages that are queued, the oldest first. -/
def queued (s : Account Obj Dealloc Thread) : List (Message Obj Dealloc) := s.q.msgList.contents.reverse

/-- A call that takes a message out returns. -/
def take (s : Account Obj Dealloc Thread) (rv : MsqQErrType) (written : Option Obj) (q : MsgQ Obj Dealloc) :
    Account Obj Dealloc Thread :=
  { s with q := q, received := if rv = .success then s.received ++ [written] else s.received }

variable [DecidableEq Thread]

/-- A critical section of a receive ends. -/
def endRcv (s : Account Obj Dealloc Thread) (thread : Thread) :
    RcvEnd Obj × MsgQ Obj Dealloc → Account Obj Dealloc Thread
  | (.returned rv written, q) => { s.take rv written q with waiting := Function.update s.waiting thread false }
  | (.waits, q) => { s with q := q, waiting := Function.update s.waiting thread true }

/-- A critical section; a thread that waits makes no call, and only one that waits wakes up. -/
def step (s : Account Obj Dealloc Thread) : Section Obj Dealloc Thread → Option (Account Obj Dealloc Thread)
  | .snd malloc msgObj dealloc =>
    (msgQSnd s.q (malloc.allocate s.q.msgList) msgObj dealloc).map fun sent =>
      { s with
        q := sent.2
        accepted := if sent.1 = .success then s.accepted ++ msgObj.toList.map (·, dealloc) else s.accepted }
  | .rcv thread msgObj =>
    if s.waiting thread then some s else (msgQRcv s.q msgObj).map (s.endRcv thread)
  | .wake thread =>
    if s.waiting thread then (rcvLoop s.q).map (s.endRcv thread) else some s
  | .rmv msgObj => (msgQRmv s.q msgObj).map fun removed => s.take removed.1 removed.2.1 removed.2.2
  | .flush =>
    (msgQFlush s.q).map fun flushed =>
      { s with q := flushed.2.1, flushed := s.flushed ++ s.queued, calls := s.calls ++ flushed.2.2 }
  | .unblock => some { s with q := (msgQUnblock s.q).2 }

/-- Critical sections, one after another; none if one faults. -/
def run (sections : List (Section Obj Dealloc Thread)) : Option (Account Obj Dealloc Thread) :=
  sections.foldl (fun s section' => s.bind fun s => s.step section') (some start)

end Account

/-- The accepted messages are those that were taken out, each received or flushed, and those that are queued, in their
order; those that were flushed are freed. -/
structure Accounted (s : Account Obj Dealloc Thread) : Prop where
  messages : ∃ taken : List (Message Obj Dealloc × Bool), s.accepted = taken.map Prod.fst ++ s.queued ∧
    s.received = (taken.filter Prod.snd).map (fun message => some message.1.1) ∧
    s.flushed = (taken.filter fun message => !message.2).map Prod.fst
  freed : s.calls.Perm (s.flushed.filterMap deallocCall)

/-- What a critical section may do to the messages. -/
inductive Effect (s s' : Account Obj Dealloc Thread) : Prop
  | keeps (queued : s'.queued = s.queued) (accepted : s'.accepted = s.accepted) (received : s'.received = s.received)
      (flushed : s'.flushed = s.flushed) (calls : s'.calls = s.calls)
  | accepts (message : Message Obj Dealloc) (blocking : s.q.unblocked = false)
      (queued : s'.queued = s.queued ++ [message]) (accepted : s'.accepted = s.accepted ++ [message])
      (received : s'.received = s.received) (flushed : s'.flushed = s.flushed) (calls : s'.calls = s.calls)
  | receives (message : Message Obj Dealloc) (queued : s.queued = message :: s'.queued)
      (accepted : s'.accepted = s.accepted) (received : s'.received = s.received ++ [some message.1])
      (flushed : s'.flushed = s.flushed) (calls : s'.calls = s.calls)
  | flushes (queued : s'.queued = []) (accepted : s'.accepted = s.accepted) (received : s'.received = s.received)
      (flushed : s'.flushed = s.flushed ++ s.queued)
      (calls : s'.calls = s.calls ++ s.queued.reverse.filterMap deallocCall)

variable {s s' : Account Obj Dealloc Thread}

/-- The effect of a critical section keeps the messages accounted for. -/
theorem Effect.accounted (effect : Effect s s') (accounted : Accounted s) : Accounted s' := by
  obtain ⟨⟨taken, whole, received', flushed'⟩, freed⟩ := accounted
  cases effect with
  | keeps queued accepted received flushed calls =>
    exact ⟨⟨taken, by rw [accepted, queued, whole], by rw [received, received'], by rw [flushed, flushed']⟩,
      by rw [calls, flushed]; exact freed⟩
  | accepts message blocking queued accepted received flushed calls =>
    refine ⟨⟨taken, ?_, by rw [received, received'], by rw [flushed, flushed']⟩, by rw [calls, flushed]; exact freed⟩
    rw [accepted, queued, whole, List.append_assoc]
  | receives message queued accepted received flushed calls =>
    refine ⟨⟨taken ++ [(message, true)], ?_, ?_, ?_⟩, by rw [calls, flushed]; exact freed⟩
    · rw [accepted, whole, queued, List.map_append, List.map_singleton, List.append_assoc, List.singleton_append]
    · rw [received, received', List.filter_append, List.map_append]
      rfl
    · rw [flushed, flushed', List.filter_append, List.map_append]
      exact (List.append_nil _).symm
  | flushes queued accepted received flushed calls =>
    have unread : (s.queued.map (·, false)).filter Prod.snd = [] := by
      rw [List.filter_eq_nil_iff]
      intro message member
      obtain ⟨own, -, rfl⟩ := List.mem_map.mp member
      exact Bool.false_ne_true
    have freed' : (s.queued.map (·, false)).filter (fun message => !message.2) = s.queued.map (·, false) := by
      rw [List.filter_eq_self]
      intro message member
      obtain ⟨own, -, rfl⟩ := List.mem_map.mp member
      rfl
    have messages : (s.queued.map (·, false)).map Prod.fst = s.queued := by
      rw [List.map_map]
      exact List.map_id _
    refine ⟨⟨taken ++ s.queued.map (·, false), ?_, ?_, ?_⟩, ?_⟩
    · rw [accepted, whole, queued, List.map_append, messages, List.append_nil]
    · rw [received, received', List.filter_append, unread, List.append_nil]
    · rw [flushed, flushed', List.filter_append, freed', List.map_append, messages]
    · rw [calls, flushed, List.filterMap_append]
      exact freed.append ((List.reverse_perm s.queued).filterMap deallocCall)

/-- What a critical section does. -/
structure Steps (s s' : Account Obj Dealloc Thread) : Prop where
  effect : Effect s s'
  linked : ∃ chain, s'.q.msgList.Holds chain
  unblocked : s.q.unblocked = true → s'.q.unblocked = true

variable {chain : List (ℕ × Obj × Option Dealloc)} {q : MsgQ Obj Dealloc}

theorem queued_eq (chain : List (ℕ × Obj × Option Dealloc)) (holds : s.q.msgList.Holds chain) :
    s.queued = (chain.map Prod.snd).reverse := by
  rw [Account.queued, contents_eq holds.walks]

/-- A removal takes the oldest message, or none from an empty list. -/
theorem linkedListRemove_cases {l : ListState Obj Dealloc} (holds : l.Holds chain) :
    (chain = [] ∧ linkedListRemove l = some (.unavailableResource, none, l)) ∨
      ∃ front cell l', chain = front ++ [cell] ∧ linkedListRemove l = some (.success, some cell.2.1, l') ∧
        l'.Holds front := by
  obtain rfl | ⟨front, ⟨address, obj, dealloc⟩, rfl⟩ := chain.eq_nil_or_concat'
  · exact Or.inl ⟨rfl, linkedListRemove_of_none holds.last⟩
  · obtain ⟨l', removed, holds'⟩ := linkedListRemove_holds holds
    exact Or.inr ⟨front, (address, obj, dealloc), l', rfl, removed, holds'⟩

/-- A section that leaves the list and returns no success takes nothing. -/
theorem steps_of_kept (holds : s.q.msgList.Holds chain) (list : s'.q.msgList = s.q.msgList)
    (accepted : s'.accepted = s.accepted) (received : s'.received = s.received) (flushed : s'.flushed = s.flushed)
    (calls : s'.calls = s.calls) (unblocked : s.q.unblocked = true → s'.q.unblocked = true) : Steps s s' where
  effect := .keeps (by rw [Account.queued, Account.queued, list]) accepted received flushed calls
  linked := ⟨chain, list ▸ holds⟩
  unblocked := unblocked

theorem msgQUnblock_unblocked : (msgQUnblock q).2.unblocked = true := by
  rw [msgQUnblock]
  split_ifs with unblocked
  · exact unblocked
  · rfl

/-- What is removed from the list is received. -/
theorem exists_remove (holds : s.q.msgList.Holds chain) : ∃ removed, linkedListRemove s.q.msgList = some removed ∧
    ∀ s' : Account Obj Dealloc Thread, s'.q = { s.q with msgList := removed.2.2 } → s'.accepted = s.accepted →
      s'.received = (if convertLinkedListErrType removed.1 = .success then s.received ++ [removed.2.1]
        else s.received) →
      s'.flushed = s.flushed → s'.calls = s.calls → Steps s s' := by
  obtain ⟨rfl, removed⟩ | ⟨front, cell, l', rfl, removed, holds'⟩ := linkedListRemove_cases holds
  · refine ⟨_, removed, fun s' q accepted received flushed calls => ?_⟩
    exact steps_of_kept holds (by rw [q]) accepted (received.trans (if_neg nofun)) flushed calls fun set => by
      rw [q, set]
  · refine ⟨_, removed, fun s' q accepted received flushed calls => ?_⟩
    have list : s'.q.msgList = l' := by rw [q]
    have own : s'.q.msgList.Holds front := by
      rw [list]
      exact holds'
    refine ⟨.receives cell.2 ?_ accepted (received.trans (if_pos rfl)) flushed calls, ⟨front, own⟩,
      fun set => by rw [q, set]⟩
    rw [queued_eq _ holds, queued_eq _ own, List.map_append, List.reverse_append]
    rfl

/-- What holds of the queue and of the messages between two critical sections. -/
structure Sound (s : Account Obj Dealloc Thread) : Prop where
  accounted : Accounted s
  linked : ∃ chain, s.q.msgList.Holds chain

theorem start_sound : Sound (Account.start : Account Obj Dealloc Thread) where
  accounted := by
    refine ⟨⟨[], ?_, rfl, rfl⟩, .refl _⟩
    rw [queued_eq [] linkedListInit_holds]
    rfl
  linked := ⟨[], linkedListInit_holds⟩

/-- Once the queue is unblocked nothing is accepted. -/
theorem Steps.accepted (steps : Steps s s') (unblocked : s.q.unblocked = true) : s'.accepted = s.accepted := by
  cases steps.effect with
  | keeps _ accepted => exact accepted
  | accepts _ blocking => exact absurd unblocked (Bool.eq_false_iff.mp blocking)
  | receives _ _ accepted => exact accepted
  | flushes _ accepted => exact accepted

/-- What is received is the oldest message that is queued. -/
theorem Steps.received (steps : Steps s s') : s'.received = s.received ∨
    ∃ message, s.queued = message :: s'.queued ∧ s'.received = s.received ++ [some message.1] := by
  cases steps.effect with
  | keeps _ _ received => exact Or.inl received
  | accepts _ _ _ _ received => exact Or.inl received
  | receives message queued _ received => exact Or.inr ⟨message, queued, received⟩
  | flushes _ _ received => exact Or.inl received

variable [DecidableEq Thread] {thread : Thread}

/-- The loop of a receive waits, or takes the oldest message. -/
theorem exists_rcvLoop (holds : s.q.msgList.Holds chain) :
    ∃ s', (rcvLoop s.q).map (s.endRcv thread) = some s' ∧ Steps s s' := by
  rw [rcvLoop]
  split_ifs with waits
  · exact ⟨_, rfl, steps_of_kept holds rfl rfl rfl rfl rfl id⟩
  · obtain ⟨removed, taken, steps⟩ := exists_remove holds
    rw [taken]
    exact ⟨_, rfl, steps _ rfl rfl rfl rfl rfl⟩

/-- No critical section faults, and each has one of the effects. -/
theorem exists_step (holds : s.q.msgList.Holds chain) (section' : Section Obj Dealloc Thread) :
    ∃ s', s.step section' = some s' ∧ Steps s s' := by
  have kept : ∀ s' : Account Obj Dealloc Thread, s' = s → Steps s s' := by
    rintro s' rfl
    exact steps_of_kept holds rfl rfl rfl rfl rfl id
  cases section' with
  | snd malloc msgObj dealloc =>
    rw [Account.step]
    cases msgObj with
    | none => exact ⟨_, rfl, steps_of_kept holds rfl rfl rfl rfl rfl id⟩
    | some obj =>
      rw [msgQSnd]
      split_ifs with unblocked
      · exact ⟨_, rfl, steps_of_kept holds rfl rfl rfl rfl rfl id⟩
      · cases elem : malloc.allocate s.q.msgList with
        | none => exact ⟨_, rfl, steps_of_kept holds rfl rfl rfl rfl rfl id⟩
        | some address =>
          obtain ⟨l', added, holds'⟩ := linkedListAdd_holds obj dealloc holds
            (malloc.fresh s.q.msgList address elem)
          rw [added]
          refine ⟨_, rfl, .accepts (obj, dealloc) (Bool.eq_false_iff.mpr unblocked) ?_ rfl rfl rfl rfl, ⟨_, holds'⟩, id⟩
          rw [queued_eq chain holds, ← List.reverse_cons]
          exact queued_eq ((address, obj, dealloc) :: chain) holds'
  | rcv thread msgObj =>
    rw [Account.step]
    split_ifs with waits
    · exact ⟨s, rfl, kept s rfl⟩
    · rw [msgQRcv]
      split_ifs with given unblocked
      · exact ⟨_, rfl, steps_of_kept holds rfl rfl rfl rfl rfl id⟩
      · exact ⟨_, rfl, steps_of_kept holds rfl rfl rfl rfl rfl id⟩
      · exact exists_rcvLoop holds
  | wake thread =>
    rw [Account.step]
    split_ifs with waits
    · exact exists_rcvLoop holds
    · exact ⟨s, rfl, kept s rfl⟩
  | rmv msgObj =>
    rw [Account.step, msgQRmv]
    split_ifs with given unblocked empty
    · exact ⟨_, rfl, steps_of_kept holds rfl rfl rfl rfl rfl id⟩
    · exact ⟨_, rfl, steps_of_kept holds rfl rfl rfl rfl rfl id⟩
    · exact ⟨_, rfl, steps_of_kept holds rfl rfl rfl rfl rfl id⟩
    · obtain ⟨removed, taken, steps⟩ := exists_remove holds
      rw [taken]
      exact ⟨_, rfl, steps _ rfl rfl rfl rfl rfl⟩
  | flush =>
    obtain ⟨l', flushed, holds'⟩ := linkedListFlush_holds holds
    rw [Account.step, msgQFlush, flushed]
    refine ⟨_, rfl, .flushes (queued_eq [] holds') rfl rfl rfl ?_, ⟨[], holds'⟩, id⟩
    rw [Account.queued, List.reverse_reverse]
  | unblock =>
    refine ⟨_, rfl, steps_of_kept holds ?_ rfl rfl rfl rfl fun set => ?_⟩
    · rw [msgQUnblock]
      split_ifs <;> rfl
    · rw [msgQUnblock, if_pos set]
      exact set

theorem Sound.step (sound : Sound s) (section' : Section Obj Dealloc Thread) :
    ∃ s', s.step section' = some s' ∧ Sound s' ∧ Steps s s' := by
  obtain ⟨chain, holds⟩ := sound.linked
  obtain ⟨s', stepped, steps⟩ := exists_step holds section'
  exact ⟨s', stepped, ⟨steps.effect.accounted sound.accounted, steps.linked⟩, steps⟩

/-- No sections fault, and what holds between two holds after them. -/
theorem Sound.foldl (sound : Sound s) (sections : List (Section Obj Dealloc Thread)) :
    ∃ s', sections.foldl (fun s section' => s.bind fun s => s.step section') (some s) = some s' ∧ Sound s' ∧
      (s.q.unblocked = true → s'.accepted = s.accepted) := by
  induction sections generalizing s with
  | nil => exact ⟨s, rfl, sound, fun _ => rfl⟩
  | cons section' rest ih =>
    obtain ⟨s₁, stepped, sound₁, steps⟩ := sound.step section'
    obtain ⟨s₂, run, sound₂, accepted⟩ := ih sound₁
    refine ⟨s₂, ?_, sound₂, fun unblocked => ?_⟩
    · rw [List.foldl_cons, Option.bind_some, stepped, run]
    · rw [accepted (steps.unblocked unblocked), steps.accepted unblocked]

/-- In every interleaving the messages are accounted for and the list is well formed; what is received was the oldest
that was queued, and nothing is accepted once the queue is unblocked. -/
theorem messages_accounted (sections : List (Section Obj Dealloc Thread)) :
    ∃ s, Account.run sections = some s ∧ Accounted s ∧ WellFormed s.q.msgList ∧
      (∀ section' s', s.step section' = some s' → s'.received = s.received ∨
        ∃ message, s.queued = message :: s'.queued ∧ s'.received = s.received ++ [some message.1]) ∧
      ∀ before after, sections = before ++ .unblock :: after →
        ∃ s', Account.run before = some s' ∧ s.accepted = s'.accepted := by
  obtain ⟨s, run, sound, -⟩ := start_sound.foldl sections
  obtain ⟨chain, holds⟩ := sound.linked
  refine ⟨s, run, sound.accounted, holds.wellFormed, fun section' s' stepped => ?_, ?_⟩
  · obtain ⟨s₁, stepped₁, -, steps⟩ := sound.step section'
    obtain rfl := Option.some_inj.mp (stepped₁.symm.trans stepped)
    exact steps.received
  · rintro before after rfl
    obtain ⟨s', run', sound', -⟩ := start_sound.foldl before
    obtain ⟨s₁, stepped, sound₁, steps⟩ := sound'.step .unblock
    obtain ⟨s₂, later, -, accepted⟩ := sound₁.foldl after
    have set : s₁.q.unblocked = true := by
      rw [← Option.some_inj.mp stepped]
      exact msgQUnblock_unblocked
    have same : s₁.accepted = s'.accepted := by
      rw [← Option.some_inj.mp stepped]
    change (before ++ .unblock :: after).foldl _ _ = _ at run
    change before.foldl _ _ = _ at run'
    rw [List.foldl_append, run', List.foldl_cons, Option.bind_some, stepped, later] at run
    obtain rfl := Option.some_inj.mp run
    exact ⟨s', run', (accepted set).trans same⟩

end Cypfr.MessageQueue
