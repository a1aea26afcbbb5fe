import Cypfr.Model.SyncReq

/-! # Slots and their owners

What an indication does to the table, and what holds of it in every state: each call under way has a slot of its
own, whose flags say where the call is.
-/

namespace Cypfr.SyncReq

section Reached

variable {Thread : Type} {a : SyncArray Thread} {clientHandle : ClientHandle} {indId : UInt32} {payload : List UInt8}
  {scan : Scan Thread} {slots : List SlotId}

/-- Whether a slot is in use and waits for an indication. -/
def SyncArray.awaits (a : SyncArray Thread) (clientHandle : ClientHandle) (indId : UInt32) (i : SlotId) : Bool :=
  a.slotInUse i && (a.slots i).matches clientHandle indId

/-- Whether a payload is copied for a slot. -/
def Slot.takes (slot : Slot Thread) (payload : List UInt8) : Bool := slot.recvIndPayloadPtr.isSome && payload ≠ []

/-- The slots an indication reaches: those that wait for it, up to the first that takes its payload. -/
def SyncArray.reached (a : SyncArray Thread) (clientHandle : ClientHandle) (indId : UInt32) (payload : List UInt8) :
    List SlotId → List SlotId
  | [] => []
  | i :: rest =>
    if a.awaits clientHandle indId i then
      if (a.slots i).takes payload then [i] else i :: a.reached clientHandle indId payload rest
    else a.reached clientHandle indId payload rest

/-- A slot that an indication reached. -/
def Slot.touched (slot : Slot Thread) : Slot Thread :=
  if slot.indIsWaiting then slot else { slot with indHasArrived := true }

theorem awaits_of_mem_reached {i : SlotId} (member : i ∈ a.reached clientHandle indId payload slots) :
    i ∈ slots ∧ a.awaits clientHandle indId i = true := by
  induction slots with
  | nil => exact absurd member List.not_mem_nil
  | cons first rest ih =>
    rw [SyncArray.reached] at member
    split_ifs at member with awaits takes
    · cases List.mem_singleton.mp member
      exact ⟨List.mem_cons_self, awaits⟩
    · rcases List.mem_cons.mp member with rfl | later
      · exact ⟨List.mem_cons_self, awaits⟩
      · exact ⟨List.mem_cons_of_mem _ (ih later).1, (ih later).2⟩
    · exact ⟨List.mem_cons_of_mem _ (ih member).1, (ih member).2⟩

/-- Among the slots that an indication reaches, the one that takes its payload is the first of all that would. -/
theorem mem_reached_iff_of_takes {i : SlotId} (takes : (a.slots i).takes payload = true) :
    i ∈ a.reached clientHandle indId payload slots ↔
      slots.find? (fun j => a.awaits clientHandle indId j && (a.slots j).takes payload) = some i := by
  induction slots with
  | nil => exact iff_of_false List.not_mem_nil (by rintro ⟨⟩)
  | cons first rest ih =>
    rw [SyncArray.reached, List.find?_cons]
    cases awaits : a.awaits clientHandle indId first with
    | false => exact ih
    | true =>
      cases firstTakes : (a.slots first).takes payload with
      | true =>
        rw [if_pos rfl, if_pos rfl, List.mem_singleton]
        exact ⟨fun same => congrArg some same.symm, fun same => (Option.some.inj same).symm⟩
      | false =>
        have different : i ≠ first := by
          rintro rfl
          exact absurd (takes.symm.trans firstTakes) (by decide)
        rw [if_pos rfl, if_neg Bool.false_ne_true, List.mem_cons, or_iff_right different]
        exact ih

/-- The flag of the table says whether some slot is in use. -/
def SyncArray.Flagged (a : SyncArray Thread) : Prop := a.inUse = true ↔ ∃ i, a.slotInUse i = true

/-- A free slot is allocated. -/
theorem locAllocSlot_cases (a : SyncArray Thread) :
    (∃ i, a.slotInUse i = false ∧ a.locAllocSlot =
      (some i, { a with slotInUse := Function.update a.slotInUse i true, inUse := true })) ∨
      (∀ i, a.slotInUse i = true) ∧ a.locAllocSlot = (none, a) := by
  rw [SyncArray.locAllocSlot]
  cases free : (List.finRange locSyncReqBufferSize).find? fun i => !a.slotInUse i with
  | none =>
    refine .inr ⟨fun i => ?_, rfl⟩
    have used := List.find?_eq_none.mp free i (List.mem_finRange i)
    simpa using used
  | some i =>
    have unused := List.find?_some free
    exact .inl ⟨i, by simpa using unused, rfl⟩

theorem flagged_locAllocSlot {a : SyncArray Thread} (flagged : a.Flagged) : a.locAllocSlot.2.Flagged := by
  rcases locAllocSlot_cases a with ⟨i, -, alloc⟩ | ⟨-, alloc⟩
  · rw [alloc]
    exact iff_of_true rfl ⟨i, Function.update_self ..⟩
  · rwa [alloc]

theorem flagged_locFreeSlot {a : SyncArray Thread} (flagged : a.Flagged) (i : SlotId) : (a.locFreeSlot i).Flagged := by
  rw [SyncArray.Flagged, SyncArray.locFreeSlot]
  split_ifs with some
  · obtain ⟨j, -, used⟩ := List.any_eq_true.mp some
    refine iff_of_true (flagged.mpr ⟨j, ?_⟩) ⟨j, used⟩
    rw [Function.update_apply] at used
    split_ifs at used
    exact used
  · refine iff_of_false not_false ?_
    rintro ⟨j, used⟩
    exact some (List.any_eq_true.mpr ⟨j, List.mem_finRange j, used⟩)

theorem flagged_of_same {a a' : SyncArray Thread} (flagged : a.Flagged) (slotInUse : a'.slotInUse = a.slotInUse)
    (inUse : a'.inUse = a.inUse) : a'.Flagged := by
  rwa [SyncArray.Flagged, slotInUse, inUse]

variable [DecidableEq Thread]

theorem foldl_round_consumed {slotInUse : SlotId → Bool} (consumed : scan.consumed = true) :
    slots.foldl (Scan.round slotInUse clientHandle indId payload) scan = scan := by
  induction slots with
  | nil => rfl
  | cons first rest ih => rw [List.foldl_cons, Scan.round, if_pos consumed, ih]

/-- One round at a slot that does not wait for the indication. -/
theorem round_of_not_awaits {i : SlotId} (open' : scan.consumed = false) (same : scan.slots i = a.slots i)
    (awaits : a.awaits clientHandle indId i = false) : Scan.round a.slotInUse clientHandle indId payload scan i =
      { scan with inUse := scan.inUse || a.slotInUse i } := by
  rw [SyncArray.awaits, ← same] at awaits
  simp [Scan.round, open', awaits]

variable (payload) in
/-- One round at a slot that does. -/
theorem round_of_awaits {i : SlotId} (open' : scan.consumed = false) (same : scan.slots i = a.slots i)
    (awaits : a.awaits clientHandle indId i = true) :
    let after := Scan.round a.slotInUse clientHandle indId payload scan i
    after.slots = Function.update scan.slots i (a.slots i).touched ∧
      after.signals = scan.signals ++ (if (a.slots i).indIsWaiting then [i] else []) ∧
      (∀ t, after.memory t = if (a.slots i).recvIndPayloadPtr = some t ∧ payload ≠ [] then payload else scan.memory t) ∧
      after.inUse = true ∧ after.consumed = (a.slots i).takes payload := by
  obtain ⟨inUse, waits⟩ := Bool.and_eq_true_iff.mp awaits
  have isId : indId = (a.slots i).recvIndId := (of_decide_eq_true waits).2.1
  rw [← same] at waits isId ⊢
  have goes : Scan.round a.slotInUse clientHandle indId payload scan i =
      ({ scan with inUse := scan.inUse || a.slotInUse i }.copy (scan.slots i) payload).notify i (scan.slots i)
        indId := by
    rw [Scan.round, if_neg (by simp [open'])]
    exact if_pos (by rw [inUse, waits]; rfl)
  rw [goes, Slot.touched, Slot.takes, inUse, Bool.or_true, isId]
  generalize scan.slots i = slot
  obtain ⟨handle, selected, waiting, arrived, reqId, ptr, recvId⟩ := slot
  cases ptr <;> cases waiting <;> by_cases empty : payload = [] <;>
    simp [Scan.copy, Scan.notify, empty, open', Function.update_apply, eq_comm]

variable (clientHandle indId payload) in
/-- What the loop does to the slots, the conditions and the buffers, from a slot at which nothing is consumed. -/
theorem foldl_round (open' : scan.consumed = false) (distinct : slots.Nodup)
    (same : ∀ i ∈ slots, scan.slots i = a.slots i) :
    let reached := a.reached clientHandle indId payload slots
    let after := slots.foldl (Scan.round a.slotInUse clientHandle indId payload) scan
    (∀ i, after.slots i = if i ∈ reached then (a.slots i).touched else scan.slots i) ∧
      (∀ i, i ∈ after.signals ↔ i ∈ scan.signals ∨ i ∈ reached ∧ (a.slots i).indIsWaiting = true) ∧
      ∀ t, after.memory t = if (∃ i ∈ reached, (a.slots i).recvIndPayloadPtr = some t) ∧ payload ≠ [] then payload
        else scan.memory t := by
  induction slots generalizing scan with
  | nil => simp [SyncArray.reached]
  | cons first rest ih =>
    obtain ⟨notRest, distinct⟩ := List.nodup_cons.mp distinct
    have here := same first List.mem_cons_self
    intro reached after
    cases awaits : a.awaits clientHandle indId first with
    | false =>
      have rest' := @ih { scan with inUse := scan.inUse || a.slotInUse first } open' distinct
        fun i member => same i (List.mem_cons_of_mem _ member)
      have skips : reached = a.reached clientHandle indId payload rest := by
        simp only [reached, SyncArray.reached, awaits, Bool.false_eq_true, if_false]
      rw [skips, show after = _ from List.foldl_cons .., round_of_not_awaits open' here awaits]
      exact rest'
    | true =>
      obtain ⟨slots', signals', memory', -, consumed'⟩ := round_of_awaits payload open' here awaits
      cases takes : (a.slots first).takes payload with
      | true =>
        have one : reached = [first] := by simp only [reached, SyncArray.reached, awaits, takes, if_true]
        rw [one, show after = _ from List.foldl_cons .., foldl_round_consumed (consumed'.trans takes), slots', signals']
        refine ⟨fun i => ?_, fun i => ?_, fun t => ?_⟩
        · rcases eq_or_ne i first with rfl | other
          · rw [Function.update_self, if_pos (List.mem_singleton_self i)]
          · rw [Function.update_of_ne other, if_neg (mt List.mem_singleton.mp other)]
        · rw [List.mem_append, List.mem_singleton]
          cases waits : (a.slots first).indIsWaiting with
          | false =>
            refine or_congr_right (iff_of_false List.not_mem_nil ?_)
            rintro ⟨rfl, waits'⟩
            exact absurd (waits.symm.trans waits') Bool.false_ne_true
          | true =>
            refine or_congr_right (List.mem_singleton.trans ⟨?_, And.left⟩)
            rintro rfl
            exact ⟨rfl, waits⟩
        · rw [memory' t]
          simp
      | false =>
        have more : reached = first :: a.reached clientHandle indId payload rest := by
          simp only [reached, SyncArray.reached, awaits, takes, if_true, Bool.false_eq_true, if_false]
        have rest' := ih (consumed'.trans takes) distinct fun i member => by
          rw [slots', Function.update_of_ne (ne_of_mem_of_not_mem member notRest)]
          exact same i (List.mem_cons_of_mem _ member)
        rw [more, show after = _ from List.foldl_cons ..]
        obtain ⟨slotsRest, signalsRest, memoryRest⟩ := rest'
        refine ⟨fun i => ?_, fun i => ?_, fun t => ?_⟩
        · rw [slotsRest, slots']
          rcases eq_or_ne i first with rfl | other
          · simp
          · simp [other]
        · rw [signalsRest, signals', List.mem_append, List.mem_cons]
          cases waits : (a.slots first).indIsWaiting with
          | false =>
            rw [if_neg Bool.false_ne_true, or_iff_left List.not_mem_nil]
            refine or_congr_right ⟨fun ⟨later, waiting⟩ => ⟨.inr later, waiting⟩, ?_⟩
            rintro ⟨rfl | later, waiting⟩
            · exact absurd (waits.symm.trans waiting) Bool.false_ne_true
            · exact ⟨later, waiting⟩
          | true =>
            rw [if_pos rfl, List.mem_singleton]
            constructor
            · rintro ((old | rfl) | ⟨later, waiting⟩)
              · exact .inl old
              · exact .inr ⟨.inl rfl, waits⟩
              · exact .inr ⟨.inr later, waiting⟩
            · rintro (old | ⟨rfl | later, waiting⟩)
              · exact .inl (.inl old)
              · exact .inl (.inr rfl)
              · exact .inr ⟨later, waiting⟩
        · rw [memoryRest, memory' t]
          rcases eq_or_ne payload [] with empty | nonempty
          · simp [empty]
          · have null : (a.slots first).recvIndPayloadPtr = none := by simpa [Slot.takes, nonempty] using takes
            simp [null]

variable (clientHandle indId payload) in
/-- The loop meets a slot that is in use exactly when there is one. -/
theorem foldl_round_inUse (open' : scan.consumed = false) (distinct : slots.Nodup)
    (same : ∀ i ∈ slots, scan.slots i = a.slots i) :
    (slots.foldl (Scan.round a.slotInUse clientHandle indId payload) scan).inUse = true ↔
      scan.inUse = true ∨ ∃ i ∈ slots, a.slotInUse i = true := by
  induction slots generalizing scan with
  | nil => simp
  | cons first rest ih =>
    obtain ⟨notRest, distinct⟩ := List.nodup_cons.mp distinct
    have here := same first List.mem_cons_self
    rw [List.foldl_cons]
    cases awaits : a.awaits clientHandle indId first with
    | false =>
      rw [round_of_not_awaits open' here awaits,
        @ih { scan with inUse := scan.inUse || a.slotInUse first } open' distinct
          fun i member => same i (List.mem_cons_of_mem _ member)]
      simp [or_assoc]
    | true =>
      obtain ⟨slots', -, -, inUse', consumed'⟩ := round_of_awaits payload open' here awaits
      refine iff_of_true ?_ (.inr ⟨first, List.mem_cons_self, (Bool.and_eq_true_iff.mp awaits).1⟩)
      cases takes : (a.slots first).takes payload with
      | true => rw [foldl_round_consumed (consumed'.trans takes), inUse']
      | false =>
        refine (ih (consumed'.trans takes) distinct fun i member => ?_).mpr (.inl inUse')
        rw [slots', Function.update_of_ne (ne_of_mem_of_not_mem member notRest)]
        exact same i (List.mem_cons_of_mem _ member)

/-- The slots an indication reaches in the whole table. -/
def SyncArray.reaches (a : SyncArray Thread) (clientHandle : ClientHandle) (indId : UInt32) (payload : List UInt8) :
    List SlotId := a.reached clientHandle indId payload (List.finRange locSyncReqBufferSize)

variable (clientHandle indId payload) in
/-- What `loc_sync_process_ind` does. -/
theorem locSyncProcessInd_spec (flagged : a.Flagged) (memory : Thread → List UInt8) :
    let reached := a.reaches clientHandle indId payload
    let after := a.locSyncProcessInd memory clientHandle indId payload
    after.1.slotInUse = a.slotInUse ∧ after.1.inUse = a.inUse ∧
      (∀ i, after.1.slots i = if i ∈ reached then (a.slots i).touched else a.slots i) ∧
      (∀ i, i ∈ after.2.2 ↔ i ∈ reached ∧ (a.slots i).indIsWaiting = true) ∧
      ∀ t, after.2.1 t = if (∃ i ∈ reached, (a.slots i).recvIndPayloadPtr = some t) ∧ payload ≠ [] then payload
        else memory t := by
  cases inUse : a.inUse with
  | false =>
    have none : a.reaches clientHandle indId payload = [] := by
      refine List.eq_nil_iff_forall_not_mem.mpr fun i member => ?_
      have used := (Bool.and_eq_true_iff.mp (awaits_of_mem_reached member).2).1
      exact absurd (inUse.symm.trans (flagged.mpr ⟨i, used⟩)) Bool.false_ne_true
    simp [SyncArray.locSyncProcessInd, inUse, none]
  | true =>
    have fresh : (⟨a.slots, memory, [], false, false⟩ : Scan Thread).consumed = false := rfl
    have loop := foldl_round (a := a) clientHandle indId payload fresh (List.nodup_finRange _) fun _ _ => rfl
    have found := (foldl_round_inUse (a := a) clientHandle indId payload fresh (List.nodup_finRange _) fun _ _ =>
      rfl).mpr
        (.inr ((flagged.mp inUse).imp fun i used => ⟨List.mem_finRange i, used⟩))
    have processed : a.locSyncProcessInd memory clientHandle indId payload = (_, _, _) := if_neg (by simp [inUse])
    rw [processed]
    refine ⟨rfl, ?_, loop.1, ?_, loop.2.2⟩
    · exact (if_pos found).trans inUse
    · exact fun i => (loop.2.1 i).trans (or_iff_right List.not_mem_nil)

end Reached

section Owners

variable {Thread : Type} {s : SyncState Thread} {t : Thread} {r : Running}

/-- The stages in which a thread is inside the wait on the condition of its slot. -/
def Stage.waits : Stage → Bool
  | .blocked | .signalled | .expired => true
  | _ => false

/-- A slot says what its owner has done: which indication it selected, and whether it waits. -/
structure Consistent (t : Thread) (r : Running) (slot : Slot Thread) : Prop where
  handle : slot.clientHandle = r.call.clientHandle
  indId : slot.recvIndId = r.call.indId
  ptr : slot.recvIndPayloadPtr = if r.call.hasBuffer then some t else none
  waiting : slot.indIsWaiting = r.stage.waits
  arrived : slot.indHasArrived = true → r.indicated = true
  sent : (∃ status, r.stage = .sent status ∧ (r.sent = true ↔ status = .success)) ∨ r.stage = .selected ∨ r.sent = true
  woken : r.stage = .signalled ∨ r.stage = .waited .ok → r.indicated = true

theorem sent_of_stage {slot : Slot Thread} (consistent : Consistent t r slot) (past : r.stage ≠ .selected)
    (notFailed : ∀ status, r.stage = .sent status → status = .success) : r.sent = true := by
  rcases consistent.sent with ⟨status, stage, sent⟩ | stage | sent
  · exact sent.mpr (notFailed status stage)
  · exact absurd stage past
  · exact sent

theorem hasSelected_onIndication {clientHandle : ClientHandle} {indId : UInt32} {signals : List SlotId} :
    (r.onIndication clientHandle indId signals).hasSelected = r.hasSelected := by
  rw [Running.hasSelected, Running.hasSelected, Running.onIndication]
  split_ifs with wakes
  · rw [wakes.1]
    rfl
  · rfl

/-- An indication is told to the call or remembered by the slot exactly when it reaches the slot. -/
theorem Consistent.onIndication {a : SyncArray Thread} (consistent : Consistent t r (a.slots r.slot))
    (selected : r.hasSelected = true) {clientHandle : ClientHandle} {indId : UInt32} {signals reached : List SlotId}
    (signalled : r.slot ∈ signals ↔ r.slot ∈ reached ∧ (a.slots r.slot).indIsWaiting = true)
    (awaits : r.slot ∈ reached → a.awaits clientHandle indId r.slot = true) :
    Consistent t (r.onIndication clientHandle indId signals)
      (if r.slot ∈ reached then (a.slots r.slot).touched else a.slots r.slot) := by
  have indicated (member : r.slot ∈ reached) : (r.onIndication clientHandle indId signals).indicated = true := by
    have isMatch := of_decide_eq_true (Bool.and_eq_true_iff.mp (awaits member)).2
    rw [consistent.handle, consistent.indId] at isMatch
    simp [Running.onIndication, selected, isMatch.1, isMatch.2.1]
  have kept (was : r.indicated = true) : (r.onIndication clientHandle indId signals).indicated = true := by
    simp [Running.onIndication, was]
  have sent : r.stage = .blocked → r.sent = true := fun stage =>
    sent_of_stage consistent (by rw [stage]; rintro ⟨⟩) (by rw [stage]; rintro _ ⟨⟩)
  have stages : (r.onIndication clientHandle indId signals).stage = .signalled ∧ r.stage = .blocked ∧ r.slot ∈ reached ∨
      (r.onIndication clientHandle indId signals).stage = r.stage := by
    rw [Running.onIndication]
    split_ifs with wakes
    · exact .inl ⟨rfl, wakes.1, (signalled.mp wakes.2).1⟩
    · exact .inr rfl
  have waits : (r.onIndication clientHandle indId signals).stage.waits = r.stage.waits := by
    rcases stages with ⟨now, was, -⟩ | same
    · rw [now, was]
      rfl
    · rw [same]
  have rest : (r.onIndication clientHandle indId signals).stage = .signalled ∨
      (r.onIndication clientHandle indId signals).stage = .waited .ok →
      (r.onIndication clientHandle indId signals).indicated = true := by
    intro woken
    rcases stages with ⟨-, -, member⟩ | same
    · exact indicated member
    · exact kept (consistent.woken (by rwa [same] at woken))
  have wasSent : (∃ status, (r.onIndication clientHandle indId signals).stage = .sent status ∧
      (r.sent = true ↔ status = .success)) ∨
        (r.onIndication clientHandle indId signals).stage = .selected ∨ r.sent = true := by
    rcases stages with ⟨-, was, -⟩ | same
    · exact .inr (.inr (sent was))
    · rw [same]
      exact consistent.sent
  rw [Slot.touched]
  split_ifs with member waiting
  · exact ⟨consistent.handle, consistent.indId, consistent.ptr, consistent.waiting.trans waits.symm,
      fun _ => indicated member, wasSent, rest⟩
  · exact ⟨consistent.handle, consistent.indId, consistent.ptr, consistent.waiting.trans waits.symm,
      fun _ => indicated member, wasSent, rest⟩
  · exact ⟨consistent.handle, consistent.indId, consistent.ptr, consistent.waiting.trans waits.symm,
      fun arrived => kept (consistent.arrived arrived), wasSent, rest⟩

/-- Each call under way has a slot of its own, and once it has selected its indication the slot says so. -/
structure Owned (s : SyncState Thread) : Prop where
  held : ∀ t r, s.running t = some r → s.array.slotInUse r.slot = true
  apart : ∀ t u r r', s.running t = some r → s.running u = some r' → r.slot = r'.slot → t = u
  consistent : ∀ t r, s.running t = some r → r.hasSelected = true → Consistent t r (s.array.slots r.slot)
  pointed : ∀ i t, (s.array.slots i).recvIndPayloadPtr = some t → ∃ r, s.running t = some r ∧ r.slot = i

theorem owned_start (memory : Thread → List UInt8) : Owned (SyncState.start memory) := by
  constructor
  · rintro _ _ ⟨⟩
  · rintro _ _ _ _ ⟨⟩
  · rintro _ _ ⟨⟩
  · rintro _ _ ⟨⟩

/-- What holds in every state. -/
structure Orderly (s : SyncState Thread) : Prop where
  owned : Owned s
  flagged : s.array.Flagged

theorem orderly_start (memory : Thread → List UInt8) : Orderly (SyncState.start memory) :=
  ⟨owned_start memory, iff_of_false Bool.false_ne_true (by rintro ⟨_, ⟨⟩⟩)⟩

variable [DecidableEq Thread]

/-- A step of one thread that keeps its slot and the other slots. -/
theorem Owned.goes_on (owned : Owned s) (found : s.running t = some r) (r' : Running) (sameSlot : r'.slot = r.slot)
    {s' : SyncState Thread} (running : s'.running = Function.update s.running t (some r'))
    (slotInUse : s'.array.slotInUse = s.array.slotInUse)
    (others : ∀ i, i ≠ r.slot → s'.array.slots i = s.array.slots i)
    (consistent : Consistent t r' (s'.array.slots r.slot)) : Owned s' := by
  have before {u : Thread} {q : Running} (now : s'.running u = some q) :
      ∃ q', s.running u = some q' ∧ q'.slot = q.slot ∧ (u = t ∧ q = r' ∨ u ≠ t ∧ q = q') := by
    rw [running, Function.update_apply] at now
    split_ifs at now with same
    · cases now
      exact ⟨r, same ▸ found, sameSlot.symm, .inl ⟨same, rfl⟩⟩
    · exact ⟨q, now, rfl, .inr ⟨same, rfl⟩⟩
  constructor
  · intro u q now
    obtain ⟨q', old, same, -⟩ := before now
    rw [slotInUse, ← same]
    exact owned.held u q' old
  · intro u v q p nowU nowV shared
    obtain ⟨q', oldU, sameU, -⟩ := before nowU
    obtain ⟨p', oldV, sameV, -⟩ := before nowV
    exact owned.apart u v q' p' oldU oldV (sameU.trans (shared.trans sameV.symm))
  · intro u q now selected
    obtain ⟨q', old, -, ⟨rfl, rfl⟩ | ⟨other, rfl⟩⟩ := before now
    · rw [sameSlot]
      exact consistent
    · rw [others _ fun shared => other (owned.apart u t q r old found shared)]
      exact owned.consistent u q old selected
  · intro i u points
    rcases eq_or_ne i r.slot with rfl | otherSlot
    · rw [consistent.ptr] at points
      split_ifs at points
      cases points
      exact ⟨r', by rw [running, Function.update_self], sameSlot⟩
    · rw [others i otherSlot] at points
      obtain ⟨q, old, rfl⟩ := owned.pointed i u points
      have otherThread : u ≠ t := by
        rintro rfl
        cases found.symm.trans old
        exact otherSlot rfl
      exact ⟨q, by rw [running, Function.update_of_ne otherThread, old], rfl⟩

/-- A thread returns; its slot may be freed. -/
theorem Owned.leaves (owned : Owned s) (found : s.running t = some r) {s' : SyncState Thread}
    (running : s'.running = Function.update s.running t none)
    (slotInUse : ∀ i, i ≠ r.slot → s'.array.slotInUse i = s.array.slotInUse i)
    (others : ∀ i, i ≠ r.slot → s'.array.slots i = s.array.slots i)
    (null : (s'.array.slots r.slot).recvIndPayloadPtr = none) : Owned s' := by
  have before {u : Thread} {q : Running} (now : s'.running u = some q) : s.running u = some q ∧ q.slot ≠ r.slot := by
    rw [running, Function.update_apply] at now
    split_ifs at now with same
    exact ⟨now, fun shared => same (owned.apart u t q r now found shared)⟩
  constructor
  · intro u q now
    rw [slotInUse _ (before now).2]
    exact owned.held u q (before now).1
  · exact fun u v q p nowU nowV shared => owned.apart u v q p (before nowU).1 (before nowV).1 shared
  · intro u q now selected
    rw [others _ (before now).2]
    exact owned.consistent u q (before now).1 selected
  · intro i u points
    rcases eq_or_ne i r.slot with rfl | otherSlot
    · cases null.symm.trans points
    · rw [others i otherSlot] at points
      obtain ⟨q, old, rfl⟩ := owned.pointed i u points
      have otherThread : u ≠ t := by
        rintro rfl
        cases found.symm.trans old
        exact otherSlot rfl
      exact ⟨q, by rw [running, Function.update_of_ne otherThread, old], rfl⟩

theorem owned_locSyncSendReq (owned : Owned s) (idle : s.running t = none) (call : Call) :
    Owned (s.locSyncSendReq t call) := by
  rw [SyncState.locSyncSendReq]
  rcases locAllocSlot_cases s.array with ⟨i, unused, alloc⟩ | ⟨-, alloc⟩
  · rw [alloc]
    have before {u : Thread} {q : Running}
        (now : Function.update s.running t (some ⟨call, i, .allocated, false, false⟩) u = some q) :
        u = t ∧ q = ⟨call, i, .allocated, false, false⟩ ∨ u ≠ t ∧ s.running u = some q ∧ q.slot ≠ i := by
      rw [Function.update_apply] at now
      split_ifs at now with same
      · cases now
        exact .inl ⟨same, rfl⟩
      · refine .inr ⟨same, now, fun isSlot => ?_⟩
        exact Bool.false_ne_true (unused.symm.trans (isSlot ▸ owned.held u q now))
    constructor
    · intro u q now
      rcases before now with ⟨-, rfl⟩ | ⟨-, old, other⟩
      · exact Function.update_self ..
      · exact (Function.update_of_ne other ..).trans (owned.held u q old)
    · intro u v q p nowU nowV shared
      rcases before nowU with ⟨rfl, rfl⟩ | ⟨-, oldU, otherU⟩
      · rcases before nowV with ⟨rfl, -⟩ | ⟨-, -, otherV⟩
        · rfl
        · exact absurd shared.symm otherV
      · rcases before nowV with ⟨-, rfl⟩ | ⟨-, oldV, -⟩
        · exact absurd shared otherU
        · exact owned.apart u v q p oldU oldV shared
    · intro u q now selected
      rcases before now with ⟨-, rfl⟩ | ⟨-, old, -⟩
      · cases selected
      · exact owned.consistent u q old selected
    · intro j u points
      obtain ⟨q, old, same⟩ := owned.pointed j u points
      have otherThread : u ≠ t := by
        rintro rfl
        cases idle.symm.trans old
      exact ⟨q, (Function.update_of_ne otherThread ..).trans old, same⟩
  · rw [alloc]
    have same : Function.update s.running t none = s.running := Function.update_eq_self_iff.mpr idle.symm
    refine ⟨?_, ?_, ?_, ?_⟩
    · change ∀ t' r, Function.update s.running t none t' = some r → _
      rw [same]
      exact owned.held
    · change ∀ t' u r r', Function.update s.running t none t' = some r → Function.update s.running t none u = some r' →
        _
      rw [same]
      exact owned.apart
    · change ∀ t' r, Function.update s.running t none t' = some r → _
      rw [same]
      exact owned.consistent
    · change ∀ i t', _ → ∃ r, Function.update s.running t none t' = some r ∧ _
      rw [same]
      exact owned.pointed

theorem owned_locSyncSelectInd (owned : Owned s) (found : s.running t = some r) : Owned (s.locSyncSelectInd t r) := by
  refine owned.goes_on found { r with stage := .selected } rfl rfl rfl
    (fun i other => Function.update_of_ne other ..) ?_
  rw [show (s.locSyncSelectInd t r).array.slots r.slot = _ from Function.update_self ..]
  refine ⟨rfl, rfl, rfl, rfl, ?_, .inr (.inl rfl), ?_⟩
  · rintro ⟨⟩
  · rintro (⟨⟨⟩⟩ | ⟨⟨⟩⟩)

/-- A thread gets to another stage and leaves its slot as it is. -/
theorem owned_setRunning (owned : Owned s) (found : s.running t = some r) (selected : r.hasSelected = true)
    (r' : Running) (sameSlot : r'.slot = r.slot)
    (consistent : Consistent t r (s.array.slots r.slot) → Consistent t r' (s.array.slots r.slot)) :
    Owned (s.setRunning t r') :=
  owned.goes_on found r' sameSlot rfl rfl (fun _ _ => rfl) (consistent (owned.consistent t r found selected))

/-- A thread gets to another stage and sets whether its slot waits. -/
theorem owned_setWaiting (owned : Owned s) (found : s.running t = some r) (selected : r.hasSelected = true)
    (r' : Running) (sameSlot : r'.slot = r.slot) (waiting : Bool)
    (consistent : Consistent t r (s.array.slots r.slot) →
      Consistent t r' { s.array.slots r.slot with indIsWaiting := waiting }) :
    Owned ({ s with array := s.array.setSlot r.slot { s.array.slots r.slot with indIsWaiting := waiting } }.setRunning t
      r') := by
  refine owned.goes_on found r' sameSlot rfl rfl (fun i other => Function.update_of_ne other ..) ?_
  have here := consistent (owned.consistent t r found selected)
  rwa [← Function.update_self r.slot { s.array.slots r.slot with indIsWaiting := waiting } s.array.slots] at here

theorem owned_locSyncWaitForInd (owned : Owned s) (found : s.running t = some r) (stage : r.stage = .sent .success) :
    Owned (s.locSyncWaitForInd t r) := by
  have selected : r.hasSelected = true := by rw [Running.hasSelected, stage]; rfl
  have before := owned.consistent t r found selected
  have sent : r.sent = true := sent_of_stage before (by rw [stage]; rintro ⟨⟩) (by rw [stage]; rintro _ ⟨⟩; rfl)
  have waiting : (s.array.slots r.slot).indIsWaiting = false := by rw [before.waiting, stage]; rfl
  rw [SyncState.locSyncWaitForInd, if_neg (by rw [owned.held t r found]; decide)]
  split_ifs with arrived isWaiting
  · refine owned_setRunning owned found selected _ rfl fun consistent => ?_
    exact ⟨consistent.handle, consistent.indId, consistent.ptr, waiting, consistent.arrived, .inr (.inr sent),
      fun _ => consistent.arrived arrived⟩
  · exact absurd (waiting.symm.trans isWaiting) Bool.false_ne_true
  · refine owned_setWaiting owned found selected { r with stage := .blocked } rfl true fun consistent => ?_
    refine ⟨consistent.handle, consistent.indId, consistent.ptr, rfl, consistent.arrived, .inr (.inr sent), ?_⟩
    rintro (⟨⟨⟩⟩ | ⟨⟨⟩⟩)

theorem owned_wakeUp (owned : Owned s) (found : s.running t = some r) {rc : WaitResult}
    (stage : r.stage = .signalled ∧ rc = .ok ∨ r.stage = .expired ∧ rc = .timedOut) : Owned (s.wakeUp t r rc) := by
  have selected : r.hasSelected = true := by
    rcases stage with ⟨stage, -⟩ | ⟨stage, -⟩ <;> rw [Running.hasSelected, stage] <;> rfl
  have sent : r.sent = true := by
    refine sent_of_stage (owned.consistent t r found selected) ?_ ?_ <;>
      rcases stage with ⟨stage, -⟩ | ⟨stage, -⟩ <;> rw [stage] <;> simp
  refine owned_setWaiting owned found selected { r with stage := .waited rc } rfl false fun consistent => ?_
  refine ⟨consistent.handle, consistent.indId, consistent.ptr, rfl, consistent.arrived, .inr (.inr sent), ?_⟩
  rcases stage with ⟨stage, -⟩ | ⟨-, rfl⟩
  · exact fun _ => consistent.woken (.inl stage)
  · rintro (⟨⟨⟩⟩ | ⟨⟨⟩⟩)

theorem owned_freeSlot (owned : Owned s) (found : s.running t = some r) (status : ClientStatus) :
    Owned (s.freeSlot t r status) := by
  refine owned.leaves found rfl (fun _ other => Function.update_of_ne other ..)
    (fun _ other => Function.update_of_ne other ..) ?_
  rw [show (s.freeSlot t r status).array.slots r.slot = .unused from Function.update_self ..]
  rfl

theorem owned_processInd (owned : Owned s) (flagged : s.array.Flagged) (clientHandle : ClientHandle) (indId : UInt32)
    (payload : List UInt8) : Owned (s.processInd clientHandle indId payload) := by
  obtain ⟨slotInUse, -, slots, signals, -⟩ := locSyncProcessInd_spec clientHandle indId payload flagged s.memory
  have before {u : Thread} {q : Running} (now : (s.processInd clientHandle indId payload).running u = some q) :
      ∃ q', s.running u = some q' ∧ q'.onIndication clientHandle indId
        (s.array.locSyncProcessInd s.memory clientHandle indId payload).2.2 = q := Option.map_eq_some_iff.mp now
  constructor
  · intro u q now
    obtain ⟨q', old, rfl⟩ := before now
    exact (congrFun slotInUse _).trans (owned.held u q' old)
  · intro u v q p nowU nowV shared
    obtain ⟨q', oldU, rfl⟩ := before nowU
    obtain ⟨p', oldV, rfl⟩ := before nowV
    exact owned.apart u v q' p' oldU oldV shared
  · intro u q now selected
    obtain ⟨q', old, rfl⟩ := before now
    have oldSelected : q'.hasSelected = true := hasSelected_onIndication ▸ selected
    have consistent := owned.consistent u q' old oldSelected
    rw [show (s.processInd clientHandle indId payload).array.slots (q'.onIndication _ _ _).slot = _ from slots q'.slot]
    exact consistent.onIndication oldSelected (signals q'.slot) fun member => (awaits_of_mem_reached member).2
  · intro i u points
    rw [show (s.processInd clientHandle indId payload).array.slots i = _ from slots i] at points
    have before : (s.array.slots i).recvIndPayloadPtr = some u := by
      rw [Slot.touched] at points
      split_ifs at points <;> exact points
    obtain ⟨q, old, same⟩ := owned.pointed i u before
    exact ⟨_, Option.map_eq_some_iff.mpr ⟨q, old, rfl⟩, same⟩

/-- What an event does: nothing, or the step of the thread that it names. -/
inductive Steps (s : SyncState Thread) : SyncEvent Thread → SyncState Thread → Prop
  | unconcerned (e : SyncEvent Thread) : Steps s e s
  | call {t : Thread} (call : Call) (idle : s.running t = none) : Steps s (.call t call) (s.locSyncSendReq t call)
  | select {t : Thread} {r : Running} (found : s.running t = some r) (stage : r.stage = .allocated) :
      Steps s (.select t) (s.locSyncSelectInd t r)
  | send {t : Thread} {r : Running} (status : ClientStatus) (found : s.running t = some r) (stage : r.stage = .selected) :
      Steps s (.send t status) (s.setRunning t { r with stage := .sent status, sent := status = .success })
  | wait {t : Thread} {r : Running} (found : s.running t = some r) (stage : r.stage = .sent .success) :
      Steps s (.wait t) (s.locSyncWaitForInd t r)
  | expire {t : Thread} {r : Running} (found : s.running t = some r) (stage : r.stage = .blocked) :
      Steps s (.expire t) (s.setRunning t { r with stage := .expired })
  | wake {t : Thread} {r : Running} {rc : WaitResult} (found : s.running t = some r)
      (stage : r.stage = .signalled ∧ rc = .ok ∨ r.stage = .expired ∧ rc = .timedOut) :
      Steps s (.wake t) (s.wakeUp t r rc)
  | free {t : Thread} {r : Running} {status : ClientStatus} (found : s.running t = some r)
      (ended : r.stage = .sent status ∧ status ≠ .success ∨ ∃ rc, r.stage = .waited rc ∧ status = SyncState.statusOf rc) :
      Steps s (.free t) (s.freeSlot t r status)
  | indication (clientHandle : ClientHandle) (indId : UInt32) (payload : List UInt8) :
      Steps s (.indication clientHandle indId payload) (s.processInd clientHandle indId payload)

theorem steps (s : SyncState Thread) (e : SyncEvent Thread) : Steps s e (s.step e) := by
  cases e with
  | call t call =>
    cases found : s.running t with
    | none =>
      rw [SyncState.step, found]
      exact .call call found
    | some r =>
      rw [SyncState.step, found]
      exact .unconcerned _
  | indication clientHandle indId payload => exact .indication clientHandle indId payload
  | select t =>
    cases found : s.running t with
    | none =>
      rw [SyncState.step, found]
      exact .unconcerned _
    | some r =>
      simp only [SyncState.step, found]
      split_ifs with stage
      · exact .select found stage
      · exact .unconcerned _
  | send t status =>
    cases found : s.running t with
    | none =>
      rw [SyncState.step, found]
      exact .unconcerned _
    | some r =>
      simp only [SyncState.step, found]
      split_ifs with stage
      · exact .send status found stage
      · exact .unconcerned _
  | wait t =>
    cases found : s.running t with
    | none =>
      rw [SyncState.step, found]
      exact .unconcerned _
    | some r =>
      simp only [SyncState.step, found]
      split_ifs with stage
      · exact .wait found stage
      · exact .unconcerned _
  | expire t =>
    cases found : s.running t with
    | none =>
      rw [SyncState.step, found]
      exact .unconcerned _
    | some r =>
      simp only [SyncState.step, found]
      split_ifs with stage
      · exact .expire found stage
      · exact .unconcerned _
  | wake t =>
    cases found : s.running t with
    | none =>
      rw [SyncState.step, found]
      exact .unconcerned _
    | some r =>
      simp only [SyncState.step, found]
      split_ifs with signalled expired
      · exact .wake found (.inl ⟨signalled, rfl⟩)
      · exact .wake found (.inr ⟨expired, rfl⟩)
      · exact .unconcerned _
  | free t =>
    cases found : s.running t with
    | none =>
      rw [SyncState.step, found]
      exact .unconcerned _
    | some r =>
      simp only [SyncState.step, found]
      cases stage : r.stage with
      | sent status =>
        dsimp only
        split_ifs with ok
        · exact .unconcerned _
        · exact .free found (.inl ⟨stage, ok⟩)
      | waited rc => exact .free found (.inr ⟨rc, stage, rfl⟩)
      | _ => exact .unconcerned _

theorem orderly_step (orderly : Orderly s) (e : SyncEvent Thread) : Orderly (s.step e) := by
  obtain ⟨owned, flagged⟩ := orderly
  have stepped := steps s e
  generalize s.step e = s' at stepped
  cases stepped with
  | unconcerned => exact ⟨owned, flagged⟩
  | call call idle =>
    refine ⟨owned_locSyncSendReq owned idle call, ?_⟩
    have alloc := flagged_locAllocSlot flagged
    rw [SyncState.locSyncSendReq]
    rcases locAllocSlot_cases s.array with ⟨i, -, same⟩ | ⟨-, same⟩
    · rwa [same] at alloc ⊢
    · rw [same]
      exact flagged
  | select found stage => exact ⟨owned_locSyncSelectInd owned found, flagged⟩
  | @send t r status found stage =>
    have selected : r.hasSelected = true := by rw [Running.hasSelected, stage]; rfl
    refine ⟨owned_setRunning owned found selected { r with stage := .sent status, sent := status = .success }
      rfl fun consistent => ?_, flagged⟩
    refine ⟨consistent.handle, consistent.indId, consistent.ptr, ?_, consistent.arrived, .inl ⟨status, rfl, ?_⟩, ?_⟩
    · rw [consistent.waiting, stage]
      rfl
    · exact decide_eq_true_iff
    · rintro (⟨⟨⟩⟩ | ⟨⟨⟩⟩)
  | wait found stage =>
    refine ⟨owned_locSyncWaitForInd owned found stage, ?_⟩
    rw [SyncState.locSyncWaitForInd, if_neg (by rw [owned.held _ _ found]; decide)]
    split_ifs <;> exact flagged
  | @expire t r found stage =>
    have selected : r.hasSelected = true := by rw [Running.hasSelected, stage]; rfl
    have sent : r.sent = true :=
      sent_of_stage (owned.consistent t r found selected) (by rw [stage]; rintro ⟨⟩) (by rw [stage]; rintro _ ⟨⟩)
    refine ⟨owned_setRunning owned found selected { r with stage := .expired } rfl fun consistent => ?_, flagged⟩
    refine ⟨consistent.handle, consistent.indId, consistent.ptr, ?_, consistent.arrived, .inr (.inr sent), ?_⟩
    · rw [consistent.waiting, stage]
      rfl
    · rintro (⟨⟨⟩⟩ | ⟨⟨⟩⟩)
  | wake found stage => exact ⟨owned_wakeUp owned found stage, flagged⟩
  | @free t r status found ended => exact ⟨owned_freeSlot owned found status, flagged_locFreeSlot flagged r.slot⟩
  | indication clientHandle indId payload =>
    obtain ⟨slotInUse, inUse, -⟩ := locSyncProcessInd_spec clientHandle indId payload flagged s.memory
    exact ⟨owned_processInd owned flagged clientHandle indId payload, flagged_of_same flagged slotInUse inUse⟩

end Owners

end Cypfr.SyncReq
