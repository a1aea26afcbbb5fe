import Cypfr.Machine.Run
import Cypfr.Proofs.SyncReq

/-! # Each indication and the request it answers

Several calls wait for the same indication. As many indications answer them all exactly as long as each finds,
first in the table, a slot of a call that has not been answered: a call that was woken keeps its slot until it frees
it, and its slot still matches.
-/

namespace Cypfr.SyncReq

open Machine SyncState

variable {Thread : Type}

/-- What a call waits for. -/
abbrev IndKey := ClientHandle × UInt32

def Call.key (call : Call) : IndKey := (call.clientHandle, call.indId)

/-- The slot an indication gives its payload to. -/
def SyncArray.taker (a : SyncArray Thread) (clientHandle : ClientHandle) (indId : UInt32) (payload : List UInt8) :
    Option SlotId :=
  (List.finRange locSyncReqBufferSize).find? fun i => a.awaits clientHandle indId i && (a.slots i).takes payload

/-- A call with a buffer has selected its slot for an indication, is not past its wait, and has not been answered. -/
structure Unanswered (key : IndKey) (s : SyncState Thread) (r : Running) : Prop where
  key : r.call.key = key
  hasBuffer : r.call.hasBuffer = true
  stage : r.stage = .selected ∨ r.stage = .sent .success ∨ r.stage = .blocked
  notArrived : (s.array.slots r.slot).indHasArrived = false

/-- A call has been answered: its slot remembers it, or it was woken. -/
def Running.Answered (s : SyncState Thread) (r : Running) : Prop :=
  (r.stage = .selected ∨ r.stage = .sent .success) ∧ (s.array.slots r.slot).indHasArrived = true ∨
    r.stage = .signalled ∨ r.stage = .waited .ok

/-- A call's time is over. -/
def Running.Late (r : Running) : Prop := r.stage = .expired ∨ r.stage = .waited .timedOut

section Outcome

variable [DecidableEq Thread] (n : ℕ) (key : IndKey) (s : SyncState Thread) (t : Thread)

/-- How a thread returned, first after `n` calls had. -/
def outcome : Option (Returned Thread) := (s.returned.drop n).find? fun call => call.thread = t

/-- A thread is in a call that waits for an indication. -/
def Waits : Prop := outcome n s t = none ∧ ∃ r, s.running t = some r ∧ Unanswered key s r

/-- A thread has missed its indication, and returns or returned without success. -/
def Misses : Prop :=
  (outcome n s t = none ∧ ∃ r, s.running t = some r ∧ r.Late) ∨
    ∃ call, outcome n s t = some call ∧ call.status ≠ .success

/-- A thread got a payload, and returns or returned with it. -/
def Holds (payload : List UInt8) : Prop :=
  (outcome n s t = none ∧ ∃ r, s.running t = some r ∧ r.call.key = key ∧ r.call.hasBuffer = true ∧ r.Answered s ∧
      s.memory t = payload) ∨
    ∃ call, outcome n s t = some call ∧ call.status = .success ∧ call.payload = payload

end Outcome

/-- The thread whose step an event is. -/
def SyncEvent.thread? : SyncEvent Thread → Option Thread
  | .call t _ | .select t | .send t _ | .wait t | .expire t | .wake t | .free t => some t
  | .indication .. => none

section Frame

variable {n : ℕ} {key : IndKey} {s : SyncState Thread} {t : Thread} {r : Running} {e : SyncEvent Thread}

/-- Of a call that waits for another indication, or of another slot than the taker of this one, an indication leaves
the slot alone. -/
theorem mem_reaches_iff (orderly : Orderly s) (found : s.running t = some r) (selected : r.hasSelected = true)
    (hasBuffer : r.call.hasBuffer = true) {clientHandle : ClientHandle} {indId : UInt32} {payload : List UInt8}
    (nonempty : payload ≠ []) : r.slot ∈ s.array.reaches clientHandle indId payload ↔
      s.array.taker clientHandle indId payload = some r.slot := by
  have consistent := orderly.owned.consistent t r found selected
  refine mem_reached_iff_of_takes ?_
  rw [Slot.takes, consistent.ptr, if_pos hasBuffer]
  simp [nonempty]

theorem key_of_mem_reaches (orderly : Orderly s) (found : s.running t = some r) (selected : r.hasSelected = true)
    {clientHandle : ClientHandle} {indId : UInt32} {payload : List UInt8}
    (member : r.slot ∈ s.array.reaches clientHandle indId payload) : r.call.key = (clientHandle, indId) := by
  have consistent := orderly.owned.consistent t r found selected
  have isMatch := of_decide_eq_true (Bool.and_eq_true_iff.mp (awaits_of_mem_reached member).2).2
  rw [consistent.handle, consistent.indId] at isMatch
  rw [Call.key, isMatch.1, isMatch.2.1]

/-- What an event is to a thread: an indication, a step of its own, or another thread's. -/
theorem event_cases (e : SyncEvent Thread) (t : Thread) :
    (∃ clientHandle indId payload, e = .indication clientHandle indId payload) ∨ e.thread? = some t ∨
      e.thread? ≠ some t ∧ e.thread? ≠ none := by
  cases e with
  | indication clientHandle indId payload => exact .inl ⟨clientHandle, indId, payload, rfl⟩
  | _ u =>
    right
    rcases eq_or_ne u t with rfl | other
    · exact .inl rfl
    · exact .inr ⟨fun same => other (Option.some.inj same), by rintro ⟨⟩⟩

theorem selected_of_unanswered (waits : Unanswered key s r) : r.hasSelected = true := by
  rcases waits.stage with stage | stage | stage <;> rw [Running.hasSelected, stage] <;> rfl

/-- An indication does not reach the slot of a call for the key with a buffer. -/
def Spared (key : IndKey) (s : SyncState Thread) (t : Thread) (clientHandle : ClientHandle) (indId : UInt32)
    (payload : List UInt8) : Prop :=
  ∀ r, s.running t = some r → r.hasSelected = true → r.call.key = key → r.call.hasBuffer = true →
    r.slot ∉ s.array.reaches clientHandle indId payload

theorem spared_of_key (orderly : Orderly s) {clientHandle : ClientHandle} {indId : UInt32} {payload : List UInt8}
    (different : (clientHandle, indId) ≠ key) :
    Spared key s t clientHandle indId payload := by
  intro r found selected isKey _ reached
  exact different ((key_of_mem_reaches orderly found selected reached).symm.trans isKey)

theorem spared_of_taker (orderly : Orderly s) {clientHandle : ClientHandle} {indId : UInt32} {payload : List UInt8}
    (nonempty : payload ≠ []) {u : Thread} {q : Running} (running : s.running u = some q)
    (taker : s.array.taker clientHandle indId payload = some q.slot) (other : t ≠ u) :
    Spared key s t clientHandle indId payload := by
  intro r found selected _ hasBuffer reached
  have same := (mem_reaches_iff orderly found selected hasBuffer nonempty).mp reached
  rw [taker] at same
  exact other (orderly.owned.apart t u r q found running (Option.some.inj same).symm)

variable [DecidableEq Thread]

theorem outcome_append {returned : List (Returned Thread)} (counted : n ≤ s.returned.length) {s' : SyncState Thread}
    (same : s'.returned = s.returned ++ returned) :
    outcome n s' t = (outcome n s t).or (returned.find? fun call => call.thread = t) := by
  rw [outcome, same, List.drop_append_of_le_length counted, List.find?_append, outcome]

/-- What a step leaves of a call under way when it is not about it: the call, its slot and its buffer. -/
structure Keeps (s s' : SyncState Thread) (t : Thread) (r : Running) : Prop where
  running : s'.running t = some r
  slot : s'.array.slots r.slot = s.array.slots r.slot
  memory : s'.memory = s.memory
  returned : ∃ returned : List (Returned Thread), s'.returned = s.returned ++ returned ∧
    ∀ call ∈ returned, call.thread ≠ t

theorem keeps_of_other {s' : SyncState Thread} {u : Thread} {running : Option Running} (found : s.running t = some r)
    (different : t ≠ u) (runs : s'.running = Function.update s.running u running)
    (slot : s'.array.slots r.slot = s.array.slots r.slot) (memory : s'.memory = s.memory)
    (returned : s'.returned = s.returned ∨ ∃ call, s'.returned = s.returned ++ [call] ∧ call.thread = u) :
    Keeps s s' t r := by
  refine ⟨by rw [runs, Function.update_of_ne different, found], slot, memory, ?_⟩
  rcases returned with same | ⟨call, one, isOther⟩
  · exact ⟨[], by rw [same, List.append_nil], fun _ member => absurd member List.not_mem_nil⟩
  · refine ⟨[call], one, fun other member => ?_⟩
    cases List.mem_singleton.mp member
    rw [isOther]
    exact different.symm

/-- The step of another thread leaves a call as it is. -/
theorem keeps_step (orderly : Orderly s) (found : s.running t = some r) (other : e.thread? ≠ some t)
    (isThread : e.thread? ≠ none) : Keeps s (s.step e) t r := by
  have apart {u : Thread} {q : Running} (running : s.running u = some q) (different : t ≠ u) : r.slot ≠ q.slot :=
    fun shared => different (orderly.owned.apart t u r q found running shared)
  have stepped := steps s e
  generalize s.step e = s' at stepped
  cases stepped with
  | unconcerned =>
    exact ⟨found, rfl, rfl, [], (List.append_nil _).symm, fun _ member => absurd member List.not_mem_nil⟩
  | @call u call idle =>
    have different : t ≠ u := fun same => other (congrArg some same.symm)
    rw [locSyncSendReq]
    rcases locAllocSlot_cases s.array with ⟨i, -, same⟩ | ⟨-, same⟩
    · rw [same]
      exact keeps_of_other found different rfl rfl rfl (.inl rfl)
    · rw [same]
      exact keeps_of_other found different rfl rfl rfl (.inr ⟨_, rfl, rfl⟩)
  | @select u q running =>
    have different : t ≠ u := fun same => other (congrArg some same.symm)
    exact keeps_of_other found different rfl (Function.update_of_ne (apart running different) ..) rfl (.inl rfl)
  | @send u q _ running =>
    exact keeps_of_other found (fun same => other (congrArg some same.symm)) rfl rfl rfl (.inl rfl)
  | @wait u q running =>
    have different : t ≠ u := fun same => other (congrArg some same.symm)
    rw [locSyncWaitForInd, if_neg (by rw [orderly.owned.held _ _ running]; decide)]
    split_ifs
    · exact keeps_of_other found different rfl rfl rfl (.inl rfl)
    · exact keeps_of_other found different rfl rfl rfl (.inl rfl)
    · exact keeps_of_other found different rfl (Function.update_of_ne (apart running different) ..) rfl (.inl rfl)
  | @expire u q running =>
    exact keeps_of_other found (fun same => other (congrArg some same.symm)) rfl rfl rfl (.inl rfl)
  | @wake u q _ running =>
    have different : t ≠ u := fun same => other (congrArg some same.symm)
    exact keeps_of_other found different rfl (Function.update_of_ne (apart running different) ..) rfl (.inl rfl)
  | @free u q _ running =>
    have different : t ≠ u := fun same => other (congrArg some same.symm)
    exact keeps_of_other found different rfl (Function.update_of_ne (apart running different) ..) rfl
      (.inr ⟨_, rfl, rfl⟩)
  | indication => exact absurd rfl isThread

/-- What an indication leaves of a call under way. -/
theorem running_processInd (orderly : Orderly s) (found : s.running t = some r) (selected : r.hasSelected = true)
    (clientHandle : ClientHandle) (indId : UInt32) (payload : List UInt8) :
    let s' := s.processInd clientHandle indId payload
    let reached := r.slot ∈ s.array.reaches clientHandle indId payload
    ∃ r', s'.running t = some r' ∧ r'.call = r.call ∧ r'.slot = r.slot ∧
      (r'.stage = if r.stage = .blocked ∧ reached then .signalled else r.stage) ∧
      s'.array.slots r.slot = (if reached then (s.array.slots r.slot).touched else s.array.slots r.slot) ∧
      (s'.memory t = if reached ∧ r.call.hasBuffer = true ∧ payload ≠ [] then payload else s.memory t) ∧
      s'.returned = s.returned := by
  obtain ⟨-, -, slots, signals, memory⟩ := locSyncProcessInd_spec clientHandle indId payload orderly.flagged
    s.memory
  have consistent := orderly.owned.consistent t r found selected
  refine ⟨_, Option.map_eq_some_iff.mpr ⟨r, found, rfl⟩, rfl, rfl, ?_, slots r.slot, ?_, rfl⟩
  · refine if_congr ⟨fun ⟨blocked, member⟩ => ⟨blocked, ((signals r.slot).mp member).1⟩,
      fun ⟨blocked, member⟩ => ⟨blocked, (signals r.slot).mpr ⟨member, ?_⟩⟩⟩ rfl rfl
    rw [consistent.waiting, blocked]
    rfl
  · refine (memory t).trans (if_congr ?_ rfl rfl)
    rw [← and_assoc]
    refine and_congr_left fun _ => ⟨?_, fun ⟨member, hasBuffer⟩ => ⟨r.slot, member, ?_⟩⟩
    · rintro ⟨i, member, points⟩
      obtain ⟨r', running, rfl⟩ := orderly.owned.pointed i t points
      cases found.symm.trans running
      refine ⟨member, ?_⟩
      by_contra none
      rw [consistent.ptr, if_neg none] at points
      cases points
    · rw [consistent.ptr, if_pos hasBuffer]

theorem returned_step (orderly : Orderly s) (e : SyncEvent Thread) :
    ∃ returned : List (Returned Thread), (s.step e).returned = s.returned ++ returned := by
  have stepped := steps s e
  generalize s.step e = s' at stepped
  cases stepped with
  | call call =>
    rw [locSyncSendReq]
    rcases locAllocSlot_cases s.array with ⟨i, -, same⟩ | ⟨-, same⟩
    · rw [same]
      exact ⟨[], (List.append_nil _).symm⟩
    · rw [same]
      exact ⟨_, rfl⟩
  | wait found =>
    rw [locSyncWaitForInd, if_neg (by rw [orderly.owned.held _ _ found]; decide)]
    split_ifs <;> exact ⟨[], (List.append_nil _).symm⟩
  | free => exact ⟨_, rfl⟩
  | _ => exact ⟨[], (List.append_nil _).symm⟩

/-- The first return stays the first. -/
theorem outcome_step (orderly : Orderly s) (counted : n ≤ s.returned.length) {call : Returned Thread}
    (was : outcome n s t = some call) : outcome n (s.step e) t = some call := by
  obtain ⟨returned, same⟩ := returned_step orderly e
  rw [outcome_append counted same, was, Option.some_or]

theorem outcome_of_keeps (counted : n ≤ s.returned.length) {s' : SyncState Thread} (keeps : Keeps s s' t r)
    (was : outcome n s t = none) : outcome n s' t = none := by
  obtain ⟨returned, same, others⟩ := keeps.returned
  rw [outcome_append counted same, was, Option.none_or]
  exact List.find?_eq_none.mpr fun call member => by simpa using others call member

theorem outcome_of_same {s' : SyncState Thread} (same : s'.returned = s.returned) (was : outcome n s t = none) :
    outcome n s' t = none := by
  rwa [outcome, same]

/-- A thread that returns now. -/
theorem outcome_freeSlot (counted : n ≤ s.returned.length) (was : outcome n s t = none) (status : ClientStatus) :
    outcome n (s.freeSlot t r status) t = some ⟨t, r.call, status, r.sent, r.indicated, s.memory t⟩ := by
  rw [outcome_append counted rfl, was, Option.none_or]
  exact List.find?_cons_of_pos (by simp)

/-- How a call goes on by itself, by whether its slot remembers an indication. -/
inductive Advances (t : Thread) : Stage → Bool → SyncEvent Thread → Stage → Prop
  | sends (arrived : Bool) (status : ClientStatus) : Advances t .selected arrived (.send t status) (.sent status)
  | passes : Advances t (.sent .success) true (.wait t) (.waited .ok)
  | blocks : Advances t (.sent .success) false (.wait t) .blocked
  | expires (arrived : Bool) : Advances t .blocked arrived (.expire t) .expired
  | wakes (arrived : Bool) : Advances t .signalled arrived (.wake t) (.waited .ok)
  | wakesLate (arrived : Bool) : Advances t .expired arrived (.wake t) (.waited .timedOut)

/-- A call that goes on keeps its arguments, its buffer and what its slot remembers. -/
structure GoesOn (s s' : SyncState Thread) (t : Thread) (r : Running) (e : SyncEvent Thread) (r' : Running) : Prop where
  running : s'.running t = some r'
  call : r'.call = r.call
  arrived : (s'.array.slots r'.slot).indHasArrived = (s.array.slots r.slot).indHasArrived
  memory : s'.memory = s.memory
  returned : s'.returned = s.returned
  advances : Advances t r.stage (s.array.slots r.slot).indHasArrived e r'.stage

theorem goesOn_setRunning {r' : Running} (call : r'.call = r.call) (slot : r'.slot = r.slot)
    (advances : Advances t r.stage (s.array.slots r.slot).indHasArrived e r'.stage) :
    GoesOn s (s.setRunning t r') t r e r' :=
  ⟨Function.update_self .., call, congrArg (fun i => (s.array.slots i).indHasArrived) slot, rfl, rfl, advances⟩

theorem goesOn_setWaiting {r' : Running} (waiting : Bool) (call : r'.call = r.call) (slot : r'.slot = r.slot)
    (advances : Advances t r.stage (s.array.slots r.slot).indHasArrived e r'.stage) :
    GoesOn s ({ s with array := s.array.setSlot r.slot { s.array.slots r.slot with indIsWaiting := waiting }
    }.setRunning t r')
      t r e r' := by
  refine ⟨Function.update_self .., call, ?_, rfl, rfl, advances⟩
  rw [slot]
  change (Function.update s.array.slots r.slot _ r.slot).indHasArrived = _
  rw [Function.update_self]

/-- A call's own step: none, the next stage, or the return. -/
theorem own_step (orderly : Orderly s) (found : s.running t = some r) (selected : r.hasSelected = true)
    (own : e.thread? = some t) : s.step e = s ∨ (∃ r', GoesOn s (s.step e) t r e r') ∨
      ∃ status, s.step e = s.freeSlot t r status ∧
        (r.stage = .sent status ∧ status ≠ .success ∨ ∃ rc, r.stage = .waited rc ∧ status = statusOf rc) := by
  have stepped := steps s e
  generalize s.step e = s' at stepped
  cases stepped with
  | unconcerned => exact .inl rfl
  | call call idle =>
    cases own
    cases found.symm.trans idle
  | select running stage =>
    cases own
    cases found.symm.trans running
    rw [Running.hasSelected, stage] at selected
    cases selected
  | send status running stage =>
    cases own
    cases found.symm.trans running
    exact .inr (.inl ⟨_, goesOn_setRunning rfl rfl (by rw [stage]; exact .sends _ _)⟩)
  | wait running stage =>
    cases own
    cases found.symm.trans running
    have waiting : (s.array.slots r.slot).indIsWaiting = false := by
      rw [(orderly.owned.consistent t r found selected).waiting, stage]
      rfl
    rw [locSyncWaitForInd, if_neg (by rw [orderly.owned.held _ _ found]; decide)]
    split_ifs with arrived isWaiting
    · exact .inr (.inl ⟨_, goesOn_setRunning rfl rfl (by rw [stage, arrived]; exact .passes)⟩)
    · exact absurd (waiting.symm.trans isWaiting) Bool.false_ne_true
    · exact .inr (.inl ⟨_, goesOn_setWaiting true rfl rfl
        (by rw [stage, eq_false_of_ne_true arrived]; exact .blocks)⟩)
  | expire running stage =>
    cases own
    cases found.symm.trans running
    exact .inr (.inl ⟨_, goesOn_setRunning rfl rfl (by rw [stage]; exact .expires _)⟩)
  | wake running stage =>
    cases own
    cases found.symm.trans running
    refine .inr (.inl ⟨_, goesOn_setWaiting false rfl rfl ?_⟩)
    rcases stage with ⟨stage, rfl⟩ | ⟨stage, rfl⟩
    · rw [stage]
      exact .wakes _
    · rw [stage]
      exact .wakesLate _
  | free running ended =>
    cases own
    cases found.symm.trans running
    exact .inr (.inr ⟨_, rfl, ended⟩)
  | indication => cases own

theorem misses_step (orderly : Orderly s) (counted : n ≤ s.returned.length) (misses : Misses n s t) :
    Misses n (s.step e) t := by
  rcases misses with ⟨was, r, found, late⟩ | ⟨call, was, failed⟩
  · have selected : r.hasSelected = true := by
      rcases late with stage | stage <;> rw [Running.hasSelected, stage] <;> rfl
    rcases event_cases e t with ⟨clientHandle, indId, payload, rfl⟩ | own | ⟨other, isThread⟩
    · obtain ⟨r', running, -, -, stage, -, -, returned⟩ :=
        running_processInd orderly found selected clientHandle indId payload
      refine .inl ⟨outcome_of_same returned was, r', running, ?_⟩
      rw [if_neg] at stage
      · rw [Running.Late, stage]
        exact late
      · rintro ⟨blocked, -⟩
        rcases late with stage | stage <;> cases blocked.symm.trans stage
    · rcases own_step orderly found selected own with same | ⟨r', goes⟩ | ⟨status, same, ended⟩
      · rw [same]
        exact .inl ⟨was, r, found, late⟩
      · have advances := goes.advances
        refine .inl ⟨outcome_of_same goes.returned was, r', goes.running, ?_⟩
        rw [Running.Late] at late
        generalize r.stage = old at advances late
        generalize new : r'.stage = stage at advances
        rcases late with rfl | rfl
        · cases advances
          exact .inr new
        · cases advances
      · rw [same]
        refine .inr ⟨_, outcome_freeSlot counted was status, ?_⟩
        rcases ended with ⟨-, failed⟩ | ⟨rc, stage, rfl⟩
        · exact failed
        · rcases late with expired | timedOut
          · cases expired.symm.trans stage
          · cases timedOut.symm.trans stage
            exact ClientStatus.noConfusion
    · have keeps := keeps_step orderly found other isThread
      exact .inl ⟨outcome_of_keeps counted keeps was, r, keeps.running, late⟩
  · exact .inr ⟨call, outcome_step orderly counted was, failed⟩

/-- A call that waits goes on waiting, unless its time is over. -/
theorem waits_step (orderly : Orderly s) (counted : n ≤ s.returned.length) (waits : Waits n key s t)
    (thread : e.thread? ≠ none) (sends : ∀ status, e = .send t status → status = .success) :
    Waits n key (s.step e) t ∨ e = .expire t ∧ Misses n (s.step e) t := by
  obtain ⟨was, r, found, unanswered⟩ := waits
  have selected := selected_of_unanswered unanswered
  rcases event_cases e t with ⟨_, _, _, rfl⟩ | own | ⟨other, isThread⟩
  · exact absurd rfl thread
  · rcases own_step orderly found selected own with same | ⟨r', goes⟩ | ⟨status, same, ended⟩
    · rw [same]
      exact .inl ⟨was, r, found, unanswered⟩
    · have advances := goes.advances
      have outcome' := outcome_of_same goes.returned was
      have still (stage : r'.stage = .selected ∨ r'.stage = .sent .success ∨ r'.stage = .blocked) :
          Waits n key (s.step e) t :=
        ⟨outcome', r', goes.running, goes.call ▸ unanswered.key, goes.call ▸ unanswered.hasBuffer, stage,
          goes.arrived.trans unanswered.notArrived⟩
      rw [unanswered.notArrived] at advances
      have stage := unanswered.stage
      generalize r.stage = old at advances stage
      generalize new : r'.stage = next at advances
      cases advances with
      | sends _ status =>
        cases sends status rfl
        exact .inl (still (.inr (.inl new)))
      | blocks => exact .inl (still (.inr (.inr new)))
      | expires => exact .inr ⟨rfl, .inl ⟨outcome', r', goes.running, .inl new⟩⟩
      | wakes => simp at stage
      | wakesLate => simp at stage
    · rcases ended with ⟨stage, failed⟩ | ⟨rc, stage, -⟩
      · rcases unanswered.stage with is | is | is
        · cases stage.symm.trans is
        · cases stage.symm.trans is
          exact absurd rfl failed
        · cases stage.symm.trans is
      · rcases unanswered.stage with is | is | is <;> cases stage.symm.trans is
  · have keeps := keeps_step orderly found other isThread
    refine .inl ⟨outcome_of_keeps counted keeps was, r, keeps.running, unanswered.key, unanswered.hasBuffer,
      unanswered.stage, ?_⟩
    rw [keeps.slot]
    exact unanswered.notArrived

section Indication

variable {clientHandle : ClientHandle} {indId : UInt32} {payload : List UInt8}

/-- An indication that does not reach its slot leaves a call waiting. -/
theorem waits_spared (orderly : Orderly s) (waits : Waits n key s t)
    (spared : Spared key s t clientHandle indId payload) :
    Waits n key (s.processInd clientHandle indId payload) t := by
  obtain ⟨was, r, found, unanswered⟩ := waits
  obtain ⟨r', running, call, slot, stage, slot', -, returned⟩ :=
    running_processInd orderly found (selected_of_unanswered unanswered) clientHandle indId payload
  have notReached := spared r found (selected_of_unanswered unanswered) unanswered.key unanswered.hasBuffer
  rw [if_neg fun both => notReached both.2] at stage
  rw [if_neg notReached] at slot'
  refine ⟨outcome_of_same returned was, r', running, call ▸ unanswered.key, call ▸ unanswered.hasBuffer,
    stage ▸ unanswered.stage, ?_⟩
  rw [slot, slot']
  exact unanswered.notArrived

/-- An indication that reaches its slot answers a call that waits. -/
theorem holds_reached (orderly : Orderly s) (waits : Waits n key s t) (found : s.running t = some r)
    (reached : r.slot ∈ s.array.reaches clientHandle indId payload) (nonempty : payload ≠ []) :
    Holds n key (s.processInd clientHandle indId payload) t payload := by
  obtain ⟨was, r, running, unanswered⟩ := waits
  cases found.symm.trans running
  have selected := selected_of_unanswered unanswered
  have waiting := (orderly.owned.consistent t r found selected).waiting
  obtain ⟨r', running, call, slot, stage, slot', memory, returned⟩ :=
    running_processInd orderly found selected clientHandle indId payload
  rw [if_pos reached] at slot'
  refine .inl ⟨outcome_of_same returned was, r', running, call ▸ unanswered.key, call ▸ unanswered.hasBuffer, ?_,
    memory.trans (if_pos ⟨reached, unanswered.hasBuffer, nonempty⟩)⟩
  by_cases blocked : r.stage = .blocked
  · rw [if_pos ⟨blocked, reached⟩] at stage
    exact .inr (.inl stage)
  · rw [if_neg fun both => blocked both.1] at stage
    have early : r.stage = .selected ∨ r.stage = .sent .success := by
      rcases unanswered.stage with is | is | is
      · exact .inl is
      · exact .inr is
      · exact absurd is blocked
    have notWaiting : (s.array.slots r.slot).indIsWaiting = false := by
      rcases early with is | is <;> rw [waiting, is] <;> rfl
    refine .inl ⟨stage ▸ early, ?_⟩
    rw [slot, slot', Slot.touched, if_neg (by rw [notWaiting]; decide)]

/-- An indication that does not reach its slot leaves a call what it has. -/
theorem holds_spared (orderly : Orderly s) {held : List UInt8} (holds : Holds n key s t held)
    (spared : Spared key s t clientHandle indId payload) :
    Holds n key (s.processInd clientHandle indId payload) t held := by
  rcases holds with ⟨was, r, found, isKey, hasBuffer, answered, memory⟩ | done
  · have selected : r.hasSelected = true := by
      rcases answered with ⟨stage | stage, -⟩ | stage | stage <;> rw [Running.hasSelected, stage] <;> rfl
    obtain ⟨r', running, call, slot, stage, slot', memory', returned⟩ :=
      running_processInd orderly found selected clientHandle indId payload
    have notReached := spared r found selected isKey hasBuffer
    rw [if_neg fun both => notReached both.2] at stage
    rw [if_neg notReached] at slot'
    rw [if_neg fun both => notReached both.1] at memory'
    refine .inl ⟨outcome_of_same returned was, r', running, call ▸ isKey, call ▸ hasBuffer, ?_, memory'.trans memory⟩
    rwa [Running.Answered, stage, slot, slot']
  · exact .inr done

end Indication

/-- What a call was given stays with it. -/
theorem holds_step (orderly : Orderly s) (counted : n ≤ s.returned.length) {held : List UInt8}
    (holds : Holds n key s t held) (thread : e.thread? ≠ none)
    (sends : outcome n s t = none → ∀ status, e = .send t status → status = .success) :
    Holds n key (s.step e) t held := by
  rcases holds with ⟨was, r, found, isKey, hasBuffer, answered, memory⟩ | ⟨call, was, success, payload⟩
  · have selected : r.hasSelected = true := by
      rcases answered with ⟨stage | stage, -⟩ | stage | stage <;> rw [Running.hasSelected, stage] <;> rfl
    rcases event_cases e t with ⟨_, _, _, rfl⟩ | own | ⟨other, isThread⟩
    · exact absurd rfl thread
    · rcases own_step orderly found selected own with same | ⟨r', goes⟩ | ⟨status, same, ended⟩
      · rw [same]
        exact .inl ⟨was, r, found, isKey, hasBuffer, answered, memory⟩
      · have advances := goes.advances
        refine .inl ⟨outcome_of_same goes.returned was, r', goes.running, goes.call ▸ isKey, goes.call ▸ hasBuffer, ?_,
          (congrFun goes.memory t).trans memory⟩
        have arrived := goes.arrived
        rw [Running.Answered] at answered ⊢
        rw [arrived]
        generalize (s.array.slots r.slot).indHasArrived = flag at advances answered
        generalize r.stage = old at advances answered
        generalize r'.stage = next at advances
        cases advances with
        | sends _ status =>
          cases sends was status rfl
          simpa using answered
        | passes => exact .inr (.inr rfl)
        | blocks => simp at answered
        | expires => simp at answered
        | wakes => exact .inr (.inr rfl)
        | wakesLate => simp at answered
      · rw [same]
        refine .inr ⟨_, outcome_freeSlot counted was status, ?_, memory⟩
        rcases ended with ⟨stage, failed⟩ | ⟨rc, stage, rfl⟩
        · rw [Running.Answered, stage] at answered
          simp only [reduceCtorEq, false_or, or_false, Stage.sent.injEq] at answered
          exact absurd answered.1 failed
        · rw [Running.Answered, stage] at answered
          simp only [reduceCtorEq, false_or, false_and, Stage.waited.injEq] at answered
          rw [answered]
          rfl
    · have keeps := keeps_step orderly found other isThread
      refine .inl ⟨outcome_of_keeps counted keeps was, r, keeps.running, isKey, hasBuffer, ?_,
        (congrFun keeps.memory t).trans memory⟩
      rwa [Running.Answered, keeps.slot]
  · exact .inr ⟨call, outcome_step orderly counted was, success, payload⟩

theorem not_waits_of_holds {held : List UInt8} (holds : Holds n key s t held) : ¬ Waits n key s t := by
  rintro ⟨was, r, found, unanswered⟩
  rcases holds with ⟨-, r', running, -, -, answered, -⟩ | ⟨call, done, -⟩
  · cases found.symm.trans running
    have stage := unanswered.stage
    rcases answered with ⟨-, arrived⟩ | signalled | waited
    · exact Bool.false_ne_true (unanswered.notArrived.symm.trans arrived)
    · simp [signalled] at stage
    · simp [waited] at stage
  · cases was.symm.trans done

end Frame

section Scenario

variable (n : ℕ) (key : IndKey) (threads : List Thread)

/-- The payloads of the indications with a key. -/
def payloadsFor (key : IndKey) (events : List (SyncEvent Thread)) : List (List UInt8) :=
  events.filterMap fun
    | .indication clientHandle indId payload => if (clientHandle, indId) = key then some payload else none
    | _ => none

variable [DecidableEq Thread]

/-- An indication with the key is given to one of the calls that wait for it. -/
def GoesToWaiting (s : SyncState Thread) : SyncEvent Thread → Prop
  | .indication clientHandle indId payload => (clientHandle, indId) = key →
      ∃ t ∈ threads, Waits n key s t ∧ ∃ r, s.running t = some r ∧ s.array.taker clientHandle indId payload = some r.slot
  | _ => True

/-- Calls of different threads have selected the same indication and have not been answered. As many of these
indications follow, none of them empty, before the time of any of the calls is over; the requests are sent with
success, and in the end the calls are back. -/
structure Scenario (s : SyncState Thread) (events : List (SyncEvent Thread)) : Prop where
  distinct : threads.Nodup
  selected : ∀ t ∈ threads, Waits s.returned.length key s t
  nonempty : ∀ payload ∈ payloadsFor key events, payload ≠ []
  count : (payloadsFor key events).length = threads.length
  sends : ∀ done t status, done ++ [.send t status] <+: events → t ∈ threads →
    outcome s.returned.length (done.foldl step s) t = none → status = .success
  inTime : ∀ done t, done ++ [.expire t] <+: events → t ∈ threads →
    outcome s.returned.length (done.foldl step s) t = none → (payloadsFor key done).length = threads.length
  back : ∀ t ∈ threads, outcome s.returned.length (events.foldl step s) t ≠ none

/-- Each call returned success, and what they hold are the payloads of the indications, each once. -/
def AllAnswered (s : SyncState Thread) (events : List (SyncEvent Thread)) : Prop :=
  (∀ t ∈ threads, ∃ call, outcome n s t = some call ∧ call.status = .success) ∧
    (threads.filterMap fun t => (outcome n s t).map Returned.payload).Perm (payloadsFor key events)

end Scenario

section Assigned

variable {n : ℕ} {key : IndKey} {threads : List Thread} {s s' : SyncState Thread}
  {events done : List (SyncEvent Thread)} {e : SyncEvent Thread} {payloads : List (List UInt8)}
  {given : List (Thread × List UInt8)}

theorem payloadsFor_append_thread (thread : e.thread? ≠ none) :
    payloadsFor key (done ++ [e]) = payloadsFor key done := by
  rw [payloadsFor, List.filterMap_append]
  cases e with
  | indication => exact absurd rfl thread
  | _ => exact List.append_nil _

theorem payloadsFor_append_indication {clientHandle : ClientHandle} {indId : UInt32} {payload : List UInt8} :
    payloadsFor key (done ++ [.indication clientHandle indId payload]) =
      payloadsFor key done ++ (if (clientHandle, indId) = key then [payload] else []) := by
  rw [payloadsFor, List.filterMap_append]
  by_cases isKey : (clientHandle, indId) = key
  · rw [if_pos isKey]
    exact congrArg _ (List.filterMap_cons_some (by simp [isKey]))
  · rw [if_neg isKey]
    exact congrArg _ (List.filterMap_cons_none (by simp [isKey]))

theorem payloadsFor_mono (before : done <+: events) : payloadsFor key done <+: payloadsFor key events :=
  before.filterMap _

/-- The threads that have been given the payloads of the indications so far, and those that wait. -/
structure Assigned [DecidableEq Thread] (n : ℕ) (key : IndKey) (threads : List Thread) (s : SyncState Thread)
    (payloads : List (List UInt8)) (given : List (Thread × List UInt8)) : Prop where
  payloads : given.map Prod.snd = payloads
  distinct : (given.map Prod.fst).Nodup
  among : ∀ t ∈ given.map Prod.fst, t ∈ threads
  held : ∀ gift ∈ given, Holds n key s gift.1 gift.2
  rest : ∀ t ∈ threads, t ∉ given.map Prod.fst → Waits n key s t

variable [DecidableEq Thread] {clientHandle : ClientHandle} {indId : UInt32} {payload : List UInt8}

/-- A step of a thread, when no call that waits runs out of time. -/
theorem Assigned.thread_step (assigned : Assigned n key threads s payloads given) (orderly : Orderly s)
    (counted : n ≤ s.returned.length) (thread : e.thread? ≠ none)
    (sends : ∀ t ∈ threads, outcome n s t = none → ∀ status, e = .send t status → status = .success)
    (inTime : ∀ t ∈ threads, t ∉ given.map Prod.fst → e ≠ .expire t) :
    Assigned n key threads (s.step e) payloads given := by
  refine ⟨assigned.payloads, assigned.distinct, assigned.among, fun gift member => ?_, fun t member notGiven => ?_⟩
  · exact holds_step orderly counted (assigned.held gift member) thread
      (sends gift.1 (assigned.among _ (List.mem_map_of_mem member)))
  · have waits := assigned.rest t member notGiven
    rcases waits_step orderly counted waits thread (sends t member waits.1) with still | ⟨expires, -⟩
    · exact still
    · exact absurd expires (inTime t member notGiven)

/-- An indication for another key. -/
theorem Assigned.other_indication (assigned : Assigned n key threads s payloads given) (orderly : Orderly s)
    (different : (clientHandle, indId) ≠ key) :
    Assigned n key threads (s.processInd clientHandle indId payload) payloads given :=
  ⟨assigned.payloads, assigned.distinct, assigned.among,
    fun gift member => holds_spared orderly (assigned.held gift member) (spared_of_key orderly different),
    fun t member notGiven => waits_spared orderly (assigned.rest t member notGiven) (spared_of_key orderly different)⟩

/-- An indication that goes to a call that waits. -/
theorem Assigned.indication (assigned : Assigned n key threads s payloads given) (orderly : Orderly s)
    (nonempty : payload ≠ []) (isKey : (clientHandle, indId) = key)
    (goes : GoesToWaiting n key threads s (.indication clientHandle indId payload)) :
    ∃ t, Assigned n key threads (s.processInd clientHandle indId payload) (payloads ++ [payload])
      (given ++ [(t, payload)]) := by
  obtain ⟨t, among, waits, r, found, taker⟩ := goes isKey
  have reached : r.slot ∈ s.array.reaches clientHandle indId payload := by
    obtain ⟨-, r', running, unanswered⟩ := waits
    cases found.symm.trans running
    exact (mem_reaches_iff orderly found (selected_of_unanswered unanswered) unanswered.hasBuffer nonempty).mpr taker
  have notGiven : t ∉ given.map Prod.fst := by
    intro member
    obtain ⟨gift, isGiven, rfl⟩ := List.mem_map.mp member
    exact not_waits_of_holds (assigned.held gift isGiven) waits
  have spared {u : Thread} (other : u ≠ t) : Spared key s u clientHandle indId payload :=
    spared_of_taker orderly nonempty found taker other
  refine ⟨t, ?_, ?_, ?_, ?_, ?_⟩
  · rw [List.map_append, assigned.payloads]
    rfl
  · rw [List.map_append]
    exact List.nodup_append.mpr ⟨assigned.distinct, List.nodup_singleton t,
      fun u member v isNew same => notGiven (by rwa [same, List.mem_singleton.mp isNew] at member)⟩
  · intro u member
    rw [List.map_append] at member
    rcases List.mem_append.mp member with old | new
    · exact assigned.among u old
    · rwa [List.mem_singleton.mp new]
  · intro gift member
    rcases List.mem_append.mp member with old | new
    · exact holds_spared orderly (assigned.held gift old)
        (spared (ne_of_mem_of_not_mem (List.mem_map_of_mem old) notGiven))
    · cases List.mem_singleton.mp new
      exact holds_reached orderly waits found reached nonempty
  · intro u member notGiven'
    rw [List.map_append, List.mem_append, not_or] at notGiven'
    exact waits_spared orderly (assigned.rest u member notGiven'.1)
      (spared fun same => notGiven'.2 (List.mem_singleton.mpr same))

/-- When all payloads have been given, every call has one. -/
theorem Assigned.mem_given (assigned : Assigned n key threads s payloads given)
    (count : payloads.length = threads.length)
    {t : Thread} (member : t ∈ threads) : t ∈ given.map Prod.fst := by
  have perm := (List.subperm_of_subset assigned.distinct assigned.among).perm_of_length_le
    (by rw [← count, ← assigned.payloads, List.length_map, List.length_map])
  exact perm.mem_iff.mpr member

/-- When all payloads have been given and all calls are back, they are all answered. -/
theorem Assigned.allAnswered (assigned : Assigned n key threads s (payloadsFor key events) given)
    (count : (payloadsFor key events).length = threads.length)
    (back : ∀ t ∈ threads, outcome n s t ≠ none) : AllAnswered n key threads s events := by
  have returned {gift : Thread × List UInt8} (member : gift ∈ given) :
      ∃ call, outcome n s gift.1 = some call ∧ call.status = .success ∧ call.payload = gift.2 := by
    rcases assigned.held gift member with ⟨none, -⟩ | done
    · exact absurd none (back gift.1 (assigned.among _ (List.mem_map_of_mem member)))
    · exact done
  have perm := (List.subperm_of_subset assigned.distinct assigned.among).perm_of_length_le
    (by rw [← count, ← assigned.payloads, List.length_map, List.length_map])
  refine ⟨fun t member => ?_, (perm.symm.filterMap _).trans ?_⟩
  · obtain ⟨gift, isGiven, rfl⟩ := List.mem_map.mp (assigned.mem_given count member)
    obtain ⟨call, done, success, -⟩ := returned isGiven
    exact ⟨call, done, success⟩
  · refine List.Perm.of_eq ?_
    rw [List.filterMap_map, ← assigned.payloads, List.filterMap_eq_map_iff_forall_eq_some.mpr]
    intro gift member
    obtain ⟨call, done, -, payload⟩ := returned member
    rw [Function.comp_apply, done, Option.map_some, payload]

/-- Every call but those served waits or has missed its indication. -/
structure Unserved (n : ℕ) (key : IndKey) (threads : List Thread) (s : SyncState Thread) (served : List Thread) :
    Prop where
  distinct : served.Nodup
  among : ∀ t ∈ served, t ∈ threads
  rest : ∀ t ∈ threads, t ∉ served → Waits n key s t ∨ Misses n s t

variable {served : List Thread}

theorem Unserved.thread_step (unserved : Unserved n key threads s served) (orderly : Orderly s)
    (counted : n ≤ s.returned.length) (thread : e.thread? ≠ none)
    (sends : ∀ t ∈ threads, outcome n s t = none → ∀ status, e = .send t status → status = .success) :
    Unserved n key threads (s.step e) served := by
  refine ⟨unserved.distinct, unserved.among, fun t member notServed => ?_⟩
  rcases unserved.rest t member notServed with waits | misses
  · exact (waits_step orderly counted waits thread (sends t member waits.1)).imp_right And.right
  · exact .inr (misses_step orderly counted misses)

/-- An indication that spares all calls that wait but one. -/
theorem Unserved.indication (unserved : Unserved n key threads s served) (orderly : Orderly s)
    (counted : n ≤ s.returned.length) {served' : List Thread} (distinct : served'.Nodup)
    (among : ∀ t ∈ served', t ∈ threads) (more : ∀ t ∈ served, t ∈ served')
    (spared : ∀ t ∈ threads, t ∉ served' → Waits n key s t → Spared key s t clientHandle indId payload) :
    Unserved n key threads (s.processInd clientHandle indId payload) served' := by
  refine ⟨distinct, among, fun t member notServed => ?_⟩
  rcases unserved.rest t member fun old => notServed (more t old) with waits | misses
  · exact .inl (waits_spared orderly waits (spared t member notServed waits))
  · exact .inr (misses_step (e := .indication clientHandle indId payload) orderly counted misses)

/-- An indication with the key serves a call more if it goes to one that waits, and otherwise none. -/
theorem Unserved.key_indication (unserved : Unserved n key threads s served) (orderly : Orderly s)
    (counted : n ≤ s.returned.length) (nonempty : payload ≠ []) (isKey : (clientHandle, indId) = key) :
    Unserved n key threads (s.processInd clientHandle indId payload) served ∨
      GoesToWaiting n key threads s (.indication clientHandle indId payload) ∧
        ∃ t, Unserved n key threads (s.processInd clientHandle indId payload) (t :: served) := by
  by_cases goes : GoesToWaiting n key threads s (.indication clientHandle indId payload)
  · obtain ⟨t, among, waits, r, found, taker⟩ := goes isKey
    have spared {u : Thread} (other : u ≠ t) : Spared key s u clientHandle indId payload :=
      spared_of_taker orderly nonempty found taker other
    by_cases known : t ∈ served
    · exact .inl (unserved.indication orderly counted unserved.distinct unserved.among (fun _ old => old)
        fun u _ notServed _ => spared (ne_of_mem_of_not_mem known notServed).symm)
    · refine .inr ⟨goes, t, unserved.indication orderly counted (List.nodup_cons.mpr ⟨known, unserved.distinct⟩) ?_
        (fun _ old => List.mem_cons_of_mem t old) fun u _ notServed _ => ?_⟩
      · intro u member
        rcases List.mem_cons.mp member with rfl | old
        · exact among
        · exact unserved.among u old
      · exact spared fun same => notServed (same ▸ List.mem_cons_self)
  · refine .inl (unserved.indication orderly counted unserved.distinct unserved.among (fun _ old => old) ?_)
    rintro t member - waits r found selected - hasBuffer reached
    have taker := (mem_reaches_iff orderly found selected hasBuffer nonempty).mp reached
    exact goes fun _ => ⟨t, member, waits, r, found, taker⟩

end Assigned

section Runs

variable [DecidableEq Thread] {key : IndKey} {threads : List Thread} {s : SyncState Thread}
  {events : List (SyncEvent Thread)}

theorem orderly_run (orderly : Orderly s) (events : List (SyncEvent Thread)) :
    Orderly (events.foldl step s) ∧ s.returned.length ≤ (events.foldl step s).returned.length := by
  induction events generalizing s with
  | nil => exact ⟨orderly, le_rfl⟩
  | cons e rest ih =>
    obtain ⟨returned, same⟩ := returned_step orderly e
    obtain ⟨later, longer⟩ := ih (orderly_step orderly e)
    refine ⟨later, le_trans ?_ longer⟩
    rw [same, List.length_append]
    exact Nat.le_add_right ..

theorem Scenario.nonempty_of_prefix (scenario : Scenario key threads s events) {done : List (SyncEvent Thread)}
    {clientHandle : ClientHandle} {indId : UInt32} {payload : List UInt8}
    (before : done ++ [.indication clientHandle indId payload] <+: events) (isKey : (clientHandle, indId) = key) :
    payload ≠ [] := by
  refine scenario.nonempty payload ((payloadsFor_mono before).subset ?_)
  rw [payloadsFor_append_indication, if_pos isKey]
  exact List.mem_append_right _ (List.mem_singleton_self payload)

/-- While each indication goes to a call that waits, each payload is given to a call. -/
theorem assigned_run (orderly : Orderly s) (scenario : Scenario key threads s events)
    (each : EachStep step (GoesToWaiting s.returned.length key threads) s events) (done : List (SyncEvent Thread))
    (before : done <+: events) :
    ∃ given, Assigned s.returned.length key threads (done.foldl step s) (payloadsFor key done) given := by
  induction done using List.reverseRecOn with
  | nil => exact ⟨[], rfl, List.nodup_nil, fun _ member => absurd member List.not_mem_nil,
      fun _ member => absurd member List.not_mem_nil, fun t member _ => scenario.selected t member⟩
  | append_singleton done e ih =>
    have within := (List.prefix_append done [e]).trans before
    obtain ⟨given, assigned⟩ := ih within
    obtain ⟨now, counted⟩ := orderly_run orderly done
    rw [List.foldl_append]
    by_cases thread : e.thread? = none
    · cases e with
      | indication clientHandle indId payload =>
        rw [payloadsFor_append_indication]
        by_cases isKey : (clientHandle, indId) = key
        · obtain ⟨t, after⟩ := assigned.indication now (scenario.nonempty_of_prefix before isKey) isKey
            (each done _ before)
          rw [if_pos isKey]
          exact ⟨_, after⟩
        · rw [if_neg isKey, List.append_nil]
          exact ⟨given, assigned.other_indication now isKey⟩
      | _ => cases thread
    · rw [payloadsFor_append_thread thread]
      refine ⟨given, assigned.thread_step now counted thread
        (fun t member open' status isSend => scenario.sends done t status (isSend ▸ before) member open') ?_⟩
      intro t member notGiven isExpire
      have open' := (assigned.rest t member notGiven).1
      exact notGiven (assigned.mem_given (scenario.inTime done t (isExpire ▸ before) member open') member)

/-- At most as many calls are served as there were indications, and as many only if each went to one that waits. -/
theorem unserved_run (orderly : Orderly s) (scenario : Scenario key threads s events) (done : List (SyncEvent Thread))
    (before : done <+: events) :
    ∃ served, Unserved s.returned.length key threads (done.foldl step s) served ∧
      served.length ≤ (payloadsFor key done).length ∧
      (served.length = (payloadsFor key done).length →
        EachStep step (GoesToWaiting s.returned.length key threads) s done) := by
  induction done using List.reverseRecOn with
  | nil => exact ⟨[], ⟨List.nodup_nil, fun _ member => absurd member List.not_mem_nil,
      fun t member _ => .inl (scenario.selected t member)⟩, le_rfl, fun _ => eachStep_nil⟩
  | append_singleton done e ih =>
    have within := (List.prefix_append done [e]).trans before
    obtain ⟨served, unserved, few, exactly⟩ := ih within
    obtain ⟨now, counted⟩ := orderly_run orderly done
    rw [List.foldl_append]
    by_cases thread : e.thread? = none
    · cases e with
      | indication clientHandle indId payload =>
        rw [payloadsFor_append_indication]
        by_cases isKey : (clientHandle, indId) = key
        · rw [if_pos isKey, List.length_append, List.length_singleton]
          have nonempty := scenario.nonempty_of_prefix before isKey
          rcases unserved.key_indication now counted nonempty isKey with after | ⟨goes, t, after⟩
          · exact ⟨served, after, Nat.le_succ_of_le few, fun same => absurd same (Nat.lt_succ_of_le few).ne⟩
          · refine ⟨t :: served, after, Nat.succ_le_succ few, fun same => ?_⟩
            exact eachStep_append_singleton.mpr ⟨exactly (Nat.succ.inj same), goes⟩
        · rw [if_neg isKey, List.append_nil]
          refine ⟨served, unserved.indication now counted unserved.distinct unserved.among (fun _ old => old)
            (fun _ _ _ _ => spared_of_key now isKey), few, fun same => ?_⟩
          exact eachStep_append_singleton.mpr ⟨exactly same, fun same => absurd same isKey⟩
      | _ => cases thread
    · rw [payloadsFor_append_thread thread]
      refine ⟨served, unserved.thread_step now counted thread fun t member open' status isSend =>
        scenario.sends done t status (isSend ▸ before) member open', few, fun same => ?_⟩
      refine eachStep_append_singleton.mpr ⟨exactly same, ?_⟩
      cases e with
      | indication => exact absurd rfl thread
      | _ => trivial

/-- The calls are all answered exactly when each indication goes to one that waits. -/
theorem allAnswered_iff (orderly : Orderly s) (scenario : Scenario key threads s events) :
    AllAnswered s.returned.length key threads (events.foldl step s) events ↔
      EachStep step (GoesToWaiting s.returned.length key threads) s events := by
  constructor
  · rintro ⟨success, -⟩
    obtain ⟨served, unserved, few, exactly⟩ := unserved_run orderly scenario events List.prefix_rfl
    have all : ∀ t ∈ threads, t ∈ served := by
      intro t member
      by_contra notServed
      obtain ⟨call, done, isSuccess⟩ := success t member
      rcases unserved.rest t member notServed with ⟨none, -⟩ | ⟨none, -⟩ | ⟨other, done', failed⟩
      · cases none.symm.trans done
      · cases none.symm.trans done
      · cases done.symm.trans done'
        exact failed isSuccess
    refine exactly (le_antisymm few ?_)
    rw [scenario.count]
    exact (List.subperm_of_subset scenario.distinct all).length_le
  · intro each
    obtain ⟨given, assigned⟩ := assigned_run orderly scenario each events List.prefix_rfl
    exact assigned.allAnswered scenario.count scenario.back

/-- In every run the table says whether a slot is in use; and from every state of a run on, as many indications as
there are calls that wait for them answer them all exactly when each goes to a call that waits. -/
theorem indications_answer_iff (memory : Thread → List UInt8) (before : List (SyncEvent Thread)) :
    Throughout step (fun s => s.array.inUse = true ↔ ∃ i, s.array.slotInUse i = true) (start memory) before ∧
      ∀ key threads events, Scenario key threads (before.foldl step (start memory)) events →
        (AllAnswered (before.foldl step (start memory)).returned.length key threads
            (events.foldl step (before.foldl step (start memory))) events ↔
          EachStep step (GoesToWaiting (before.foldl step (start memory)).returned.length key threads)
            (before.foldl step (start memory)) events) :=
  ⟨fun done _ => (orderly_run (orderly_start memory) done).1.flagged,
    fun _ _ _ scenario => allAnswered_iff (orderly_run (orderly_start memory) before).1 scenario⟩

end Runs

section TwoCalls

/-- Two threads wait for the same indication. -/
def bothWait : List (SyncEvent ℕ) :=
  [.call 0 ⟨1, 2, 2, true⟩, .select 0, .send 0 .success, .wait 0,
    .call 1 ⟨1, 2, 2, true⟩, .select 1, .send 1 .success, .wait 1]

/-- Two indications come before the first thread is awake. -/
def bothIndicated : List (SyncEvent ℕ) :=
  [.indication 1 2 [3], .indication 1 2 [4], .wake 0, .free 0, .expire 1, .wake 1, .free 1]

theorem scenario_bothIndicated :
    Scenario (1, 2) [0, 1] (bothWait.foldl step (start fun _ => [])) bothIndicated where
  distinct := by decide
  selected := by
    intro t member
    rcases List.mem_pair.mp member with rfl | rfl
    · exact ⟨rfl, _, rfl, rfl, rfl, .inr (.inr rfl), rfl⟩
    · exact ⟨rfl, _, rfl, rfl, rfl, .inr (.inr rfl), rfl⟩
  nonempty := by decide
  count := by decide
  sends := by
    intro done t status before
    have member : SyncEvent.send t status ∈ bothIndicated :=
      before.subset (List.mem_append_right _ (List.mem_singleton_self _))
    simp [bothIndicated] at member
  inTime := by
    rintro done t ⟨rest, whole⟩ - -
    rcases done with - | ⟨_, - | ⟨_, - | ⟨_, - | ⟨_, - | ⟨_, - | ⟨_, - | ⟨_, done⟩⟩⟩⟩⟩⟩⟩ <;>
      simp [bothIndicated] at whole
    obtain ⟨rfl, rfl, rfl, rfl, -⟩ := whole
    rfl
  back := by decide

theorem indications_answer_iff_bothIndicated :
    AllAnswered (bothWait.foldl step (start fun _ => [])).returned.length (1, 2) [0, 1]
        (bothIndicated.foldl step (bothWait.foldl step (start fun _ => []))) bothIndicated ↔
      EachStep step (GoesToWaiting (bothWait.foldl step (start fun _ => [])).returned.length (1, 2) [0, 1])
        (bothWait.foldl step (start fun _ => [])) bothIndicated :=
  (indications_answer_iff (fun _ => []) bothWait).2 (1, 2) [0, 1] bothIndicated scenario_bothIndicated

/-- The thread that was woken takes the second indication as well, and the other one's time runs out. -/
theorem woken_call_takes_next_indication : ¬ ∀ (before : List (SyncEvent ℕ)) key threads events,
    Scenario key threads (before.foldl step (start fun _ => [])) events →
      AllAnswered (before.foldl step (start fun _ => [])).returned.length key threads
        (events.foldl step (before.foldl step (start fun _ => []))) events := by
  intro always
  obtain ⟨call, done, success⟩ := (always bothWait (1, 2) [0, 1] bothIndicated scenario_bothIndicated).1 1 (by decide)
  have late : (outcome (bothWait.foldl step (start fun _ => [])).returned.length
      (bothIndicated.foldl step (bothWait.foldl step (start fun _ => []))) 1).map Returned.status =
        some .failureTimeout := by decide
  rw [done, Option.map_some, success] at late
  exact absurd late (by decide)

end TwoCalls

end Cypfr.SyncReq
