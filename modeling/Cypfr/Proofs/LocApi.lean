import Cypfr.Model.LocApi

/-! # What the messages of the modem's task leave

Asking the modem for events and sending it requests leaves the adapters, the queue and the session as they are. Opening
the client comes to one of a few ends.
-/

namespace Cypfr.LocApi

variable {Adapter Request : Type}

/-- What the task does not touch. -/
structure Untouched (s s' : System Adapter Request) : Prop where
  table : s'.mLocAdapters = s.mLocAdapters
  masks : s'.mEvtMask = s.mEvtMask
  msgs : s'.msgs = s.msgs

namespace Untouched

variable {s s' s'' : System Adapter Request}

theorem refl (s : System Adapter Request) : Untouched s s := ⟨rfl, rfl, rfl⟩

theorem trans (first : Untouched s s') (second : Untouched s' s'') : Untouched s s'' :=
  ⟨second.table.trans first.table, second.masks.trans first.masks, second.msgs.trans first.msgs⟩

theorem adapters (untouched : Untouched s s') : s'.adapters = s.adapters := by
  rw [System.adapters, System.adapters, untouched.table]

theorem getEvtMask (untouched : Untouched s s') (setup : Setup Adapter) :
    s'.getEvtMask setup = s.getEvtMask setup := by
  rw [System.getEvtMask, System.getEvtMask, untouched.adapters, untouched.masks]

end Untouched

/-- What asking the modem leaves as it is. -/
structure Frame (s s' : System Adapter Request) : Prop extends Untouched s s' where
  opened : s'.clientHandle.isSome = s.clientHandle.isSome
  session : s'.mInSession = s.mInSession
  engine : s'.mEngineOn = s.mEngineOn

namespace Frame

variable {s s' s'' : System Adapter Request}

theorem refl (s : System Adapter Request) : Frame s s := ⟨.refl s, rfl, rfl, rfl⟩

theorem trans (first : Frame s s') (second : Frame s' s'') : Frame s s'' :=
  ⟨first.toUntouched.trans second.toUntouched, second.opened.trans first.opened, second.session.trans first.session,
    second.engine.trans first.engine⟩

theorem adjust (frame : Frame s s') (mask : Mask) :
    s'.adjustMaskIfNoSessionOrEngineOff mask = s.adjustMaskIfNoSessionOrEngineOff mask := by
  rw [System.adjustMaskIfNoSessionOrEngineOff, System.adjustMaskIfNoSessionOrEngineOff, frame.session, frame.engine]

end Frame

/-- What sending it requests leaves: the modem may have been asked for the state of its engine too, and requests may be
kept. -/
structure Sent (s s' : System Adapter Request) : Prop where
  frame : Frame s s'
  mask : s'.mMask = s.mMask
  qmiMask : s'.mQmiMask = s.mQmiMask
  handle : s'.clientHandle = s.clientHandle ∨
    s'.clientHandle = s.clientHandle.map fun _ => s.mQmiMask ||| QmiEvent.mask .engineState
  kept : ∃ requests, s'.mResenders = s.mResenders ++ requests

namespace Sent

variable {s s' s'' : System Adapter Request}

theorem refl (s : System Adapter Request) : Sent s s := ⟨.refl s, rfl, rfl, .inl rfl, [], (List.append_nil _).symm⟩

theorem trans (first : Sent s s') (second : Sent s' s'') : Sent s s'' where
  frame := first.frame.trans second.frame
  mask := second.mask.trans first.mask
  qmiMask := second.qmiMask.trans first.qmiMask
  handle := by
    rcases second.handle with same | asked
    · rw [same]
      exact first.handle
    · right
      rw [asked, first.qmiMask]
      rcases first.handle with same | before
      · rw [same]
      · rw [before, Option.map_map]
        rfl
  kept := by
    obtain ⟨requests, first⟩ := first.kept
    obtain ⟨more, second⟩ := second.kept
    exact ⟨requests ++ more, by rw [second, first, List.append_assoc]⟩

end Sent

namespace System

variable {s : System Adapter Request} {setup : Setup Adapter} {modem : Modem Request} {mask : Mask} {accepted : Bool}
  {req : SyncReq Request}

theorem registerEngineState_sent : Sent s (s.registerEngineState accepted) := by
  rw [registerEngineState, register]
  split_ifs
  · exact ⟨⟨⟨rfl, rfl, rfl⟩, by simp, rfl, rfl⟩, rfl, rfl, .inr rfl, [], (List.append_nil _).symm⟩
  · exact .refl s
  · exact .refl s

theorem cache_sent (request : Request) : Sent s (s.cache request) :=
  ⟨⟨⟨rfl, rfl, rfl⟩, rfl, rfl, rfl⟩, rfl, rfl, .inl rfl, [request], rfl⟩

theorem locSyncSendReq_sent : Sent s (s.locSyncSendReq req) := by
  rw [locSyncSendReq]
  split_ifs
  · exact registerEngineState_sent.trans (cache_sent req.request)
  · exact registerEngineState_sent
  · exact .refl s

theorem checks_sent (checks : List (SyncReq Request)) :
    Sent s (checks.foldl (fun s req => s.locSyncSendReq req) s) := by
  induction checks generalizing s with
  | nil => exact .refl s
  | cons req rest ih => exact locSyncSendReq_sent.trans ih

theorem informWifi_sent (maskDiff : Mask) : Sent s (s.informWifi modem maskDiff mask) := by
  rw [informWifi]
  split_ifs
  · exact locSyncSendReq_sent
  · exact .refl s

theorem setConstellation_sent (maskDiff : Mask) : Sent s (s.setConstellation setup modem maskDiff) := by
  rw [setConstellation]
  split_ifs
  · exact locSyncSendReq_sent
  · exact .refl s

end System

/-- Asking for events: the mask is remembered. When the modem takes a new mask that is remembered too, and requests may
be sent. -/
inductive Registered (setup : Setup Adapter) (modem : Modem Request) (mask : Mask) (s : System Adapter Request) :
    System Adapter Request → Prop
  | kept (why : s.adjustMaskIfNoSessionOrEngineOff (convertMask setup.batchedBreach mask) = s.mQmiMask ∨
      s.registered modem.registers = false) : Registered setup modem mask s { s with mMask := mask }
  | taken {wanted : Mask} {s' : System Adapter Request}
      (adjusted : s.adjustMaskIfNoSessionOrEngineOff (convertMask setup.batchedBreach mask) = wanted)
      (other : wanted ≠ s.mQmiMask) (opened : s.clientHandle.isSome = true)
      (sent : Sent { s with clientHandle := some wanted } s')
      (quiet : modem.wifiStatus.busy = false → modem.constellation.busy = false →
        s' = { s with clientHandle := some wanted }) :
      Registered setup modem mask s { s' with mMask := mask, mQmiMask := wanted }

/-- The ends of `open`. -/
inductive Opened (setup : Setup Adapter) (modem : Modem Request) (mask : Mask) (s : System Adapter Request) :
    System Adapter Request × Bool → Prop
  | already {s' : System Adapter Request} (opened : s.clientHandle.isSome = true)
      (registered : Registered setup modem (mask &&& ~~~ setup.mExcludedMask) s s') :
      Opened setup modem mask s (s', true)
  | checked {s' s'' : System Adapter Request} (closed : s.clientHandle = none) (opens : modem.opens = true)
      (supportChecked : modem.supportChecked = true) (sent : Sent { s with clientHandle := some 0 } s')
      (registered : Registered setup modem (mask &&& ~~~ setup.mExcludedMask) s' s'') :
      Opened setup modem mask s (s'', true)
  | unchecked {s' : System Adapter Request} (closed : s.clientHandle = none) (opens : modem.opens = true)
      (supportChecked : modem.supportChecked = false) (sent : Sent { s with clientHandle := some 0 } s') :
      Opened setup modem mask s (s', true)
  | failed (closed : s.clientHandle = none) (opens : modem.opens = false) :
      Opened setup modem mask s ({ s with clientHandle := none, mMask := 0, mQmiMask := 0 }, false)

namespace System

variable {s : System Adapter Request} {setup : Setup Adapter} {modem : Modem Request} {req : SyncReq Request}

theorem register_of_not_registered {mask : Mask} {accepted : Bool} (refused : s.registered accepted = false) :
    s.register mask accepted = s := by
  rw [register]
  cases accepted with
  | false => rfl
  | true =>
    have closed : s.clientHandle = none := by simpa [registered] using refused
    cases s
    cases closed
    rfl

theorem register_of_registered {mask : Mask} {accepted : Bool} (taken : s.registered accepted = true) :
    s.register mask accepted = { s with clientHandle := some mask } := by
  obtain ⟨accepts, opened⟩ := (Bool.and_eq_true _ _).mp taken
  obtain ⟨old, handle⟩ := Option.isSome_iff_exists.mp opened
  rw [register, if_pos accepts, handle, Option.map_some]

theorem locSyncSendReq_of_not_busy (free : req.busy = false) : s.locSyncSendReq req = s := by
  rw [locSyncSendReq, free, Bool.false_and, if_neg Bool.false_ne_true]

theorem informWifi_of_not_busy {maskDiff mask : Mask} (free : modem.wifiStatus.busy = false) :
    s.informWifi modem maskDiff mask = s := by
  rw [informWifi, locSyncSendReq_of_not_busy free, ite_self]

theorem setConstellation_of_not_busy {maskDiff : Mask} (free : modem.constellation.busy = false) :
    s.setConstellation setup modem maskDiff = s := by
  rw [setConstellation, locSyncSendReq_of_not_busy free, ite_self]

theorem registerEventMask_registered (mask : Mask) :
    Registered setup modem mask s (s.registerEventMask setup modem mask) := by
  rw [registerEventMask]
  generalize adjusted : s.adjustMaskIfNoSessionOrEngineOff (convertMask setup.batchedBreach mask) = wanted
  dsimp only
  split_ifs with other taken
  · rw [register_of_registered taken]
    have sent : Sent { s with clientHandle := some wanted }
        ((informWifi modem (wanted ^^^ s.mQmiMask) wanted { s with clientHandle := some wanted }).setConstellation setup
          modem (wanted ^^^ s.mQmiMask)) := (informWifi_sent _).trans (setConstellation_sent _)
    have result : Registered setup modem mask s _ :=
      .taken adjusted other ((Bool.and_eq_true _ _).mp taken).2 sent fun wifi constellation => by
        rw [informWifi_of_not_busy wifi, setConstellation_of_not_busy constellation]
    exact result
  · have refused := Bool.eq_false_iff.mpr taken
    rw [register_of_not_registered refused]
    exact .kept (.inr refused)
  · exact .kept (.inl (adjusted.trans (not_not.mp other)))

theorem openClient_opened (mask : Mask) : Opened setup modem mask s (s.openClient setup modem mask) := by
  rw [openClient]
  cases handle : s.clientHandle with
  | some old =>
    exact .already (by rw [handle]; rfl) (registerEventMask_registered _)
  | none =>
    dsimp only
    split_ifs with opens supportChecked
    · exact .checked handle opens supportChecked (checks_sent _) (registerEventMask_registered _)
    · exact .unchecked handle opens (Bool.eq_false_iff.mpr supportChecked) (checks_sent _)
    · exact .failed handle (Bool.eq_false_iff.mpr opens)

end System

/-- The request of a call that sends it again. -/
def Output.resent? : Output Adapter Request → Option Request
  | .resend request => some request
  | _ => none

/-- What a message comes to, and the requests that are sent again for it. -/
inductive Handled (setup : Setup Adapter) (modem : Modem Request) (s : System Adapter Request) :
    LocMsg Adapter Request → System Adapter Request → List Request → Prop
  | opened {mAdapter : Option Adapter} {opening : System Adapter Request × Bool}
      (opens : Opened setup modem (s.getEvtMask setup) s opening) : Handled setup modem s (.open mAdapter) opening.1 []
  | restarted {opening : System Adapter Request × Bool}
      (opens : Opened setup modem (s.closeClient.getEvtMask setup) s.closeClient opening) :
      Handled setup modem s .ssr opening.1 []
  | closed : Handled setup modem s .close s.closeClient []
  | started {setOperationMode : SyncReq Request} {s' s'' : System Adapter Request}
      (registered : Registered setup modem s.mMask { s with mInSession := true } s') (sent : Sent s' s'') :
      Handled setup modem s (.startTimeBasedTracking setOperationMode) s'' []
  | stopped {msg : LocMsg Adapter Request} {s' : System Adapter Request}
      (stops : msg = .stopFix ∨ msg = .stopTimeBasedTracking) (off : s.mEngineOn = false)
      (registered : Registered setup modem s.mMask { s with mInSession := false } s') : Handled setup modem s msg s' []
  | stoppedOn {msg : LocMsg Adapter Request} (stops : msg = .stopFix ∨ msg = .stopTimeBasedTracking)
      (on : s.mEngineOn = true) : Handled setup modem s msg { s with mInSession := false } []
  | notStopped : Handled setup modem s .stopTimeBasedTracking s []
  | engineOn {s' : System Adapter Request}
      (registered : Registered setup modem s.mMask { s with mEngineOn := true } s') :
      Handled setup modem s (.updateEngineState true) s' []
  | engineOff {s' : System Adapter Request}
      (registered : Registered setup modem s.mMask { s with mEngineOn := false } s') :
      Handled setup modem s (.updateEngineState false) { s' with mResenders := [] } s'.mResenders
  | sent {req : SyncReq Request} {s' : System Adapter Request} (sent : Sent s s') :
      Handled setup modem s (.send req) s' []

section Handled

variable {s : System Adapter Request} {setup : Setup Adapter} {modem : Modem Request}

theorem resent_forM {α : Type} (out : α → Output Adapter Request) (elements : List α) (s : System Adapter Request) :
    ((elements.forM fun element => (Emit.emit (out element) : LocApiM Adapter Request Unit)).emitted
      s).filterMap Output.resent? = elements.filterMap fun element => (out element).resent? := by
  rw [Emit.emitted_forM _ (fun element => [out element]) (fun _ _ => rfl), ← List.map_eq_flatMap, List.filterMap_map]
  rfl

theorem System.stopSession_handled {msg : LocMsg Adapter Request}
    (stops : msg = .stopFix ∨ msg = .stopTimeBasedTracking) :
    Handled setup modem s msg (s.stopSession setup modem) [] := by
  rw [stopSession]
  dsimp only
  split_ifs with off
  · exact .stopped stops (by simpa using off) (registerEventMask_registered _)
  · exact .stoppedOn stops (by simpa using off)

theorem LocMsg.next_open (mAdapter : Option Adapter) : ((LocMsg.open mAdapter).proc setup modem).next s =
    (s.openClient setup modem (s.getEvtMask setup)).1 := by
  cases mAdapter with
  | none => rfl
  | some adapter => simp [LocMsg.proc]

theorem LocMsg.next_ssr : ((LocMsg.ssr : LocMsg Adapter Request).proc setup modem).next s =
    (s.closeClient.openClient setup modem (s.closeClient.getEvtMask setup)).1 := by
  let opening := s.closeClient.openClient setup modem (s.closeClient.getEvtMask setup)
  let report : LocApiM Adapter Request Unit :=
    if opening.2 then s.closeClient.adapters.forM fun adapter => Emit.emit (.handleEngineUpEvent adapter) else pure ()
  change report.next opening.1 = opening.1
  simp only [report, Emit.next_ite, Emit.next_forM, Emit.next_emit, List.foldl_fixed, Emit.next_pure, ite_self]

theorem LocMsg.next_engineOff : ((LocMsg.updateEngineState false).proc setup modem).next s =
    { System.registerEventMask setup modem s.mMask { s with mEngineOn := false } with mResenders := [] } := by
  let asked := System.registerEventMask setup modem s.mMask { s with mEngineOn := false }
  let resend : LocApiM Adapter Request Unit := asked.mResenders.forM fun request => Emit.emit (.resend request)
  have left : resend.next asked = asked := by
    simp only [resend, Emit.next_forM, Emit.next_emit, List.foldl_fixed]
  change { resend.next asked with mResenders := [] } = { asked with mResenders := [] }
  rw [left]

theorem LocMsg.proc_handled (msg : LocMsg Adapter Request) : Handled setup modem s msg ((msg.proc setup modem).next s)
    (((msg.proc setup modem).emitted s).filterMap Output.resent?) := by
  cases msg with
  | «open» mAdapter =>
    have silent : (((LocMsg.open mAdapter).proc setup modem).emitted s).filterMap Output.resent? = [] := by
      cases mAdapter with
      | none => rfl
      | some adapter => simp [LocMsg.proc, apply_ite, Output.resent?]
    rw [LocMsg.next_open, silent]
    exact .opened (System.openClient_opened _)
  | ssr =>
    let opening := s.closeClient.openClient setup modem (s.closeClient.getEvtMask setup)
    let report : LocApiM Adapter Request Unit :=
      if opening.2 then s.closeClient.adapters.forM fun adapter => Emit.emit (.handleEngineUpEvent adapter) else pure ()
    have silent : (report.emitted opening.1).filterMap Output.resent? = [] := by
      simp only [report, Emit.emitted_ite, Emit.emitted_pure]
      split_ifs
      · exact (resent_forM _ _ _).trans (List.filterMap_eq_nil_iff.mpr fun _ _ => rfl)
      · rfl
    change Handled setup modem s .ssr ((LocMsg.ssr.proc setup modem).next s)
      ((report.emitted opening.1).filterMap Output.resent?)
    rw [LocMsg.next_ssr, silent]
    exact .restarted (System.openClient_opened _)
  | close => exact .closed
  | startTimeBasedTracking setOperationMode =>
    exact .started (System.registerEventMask_registered _) System.locSyncSendReq_sent
  | stopFix => exact System.stopSession_handled (.inl rfl)
  | stopTimeBasedTracking =>
    change Handled setup modem s .stopTimeBasedTracking (if modem.stops then s.stopSession setup modem else s) []
    split_ifs
    · exact System.stopSession_handled (.inr rfl)
    · exact .notStopped
  | updateEngineState engineOn =>
    have registered : Registered setup modem s.mMask { s with mEngineOn := engineOn } _ :=
      System.registerEventMask_registered s.mMask
    cases engineOn with
    | true => exact .engineOn registered
    | false =>
      let asked := System.registerEventMask setup modem s.mMask { s with mEngineOn := false }
      let resend : LocApiM Adapter Request Unit := asked.mResenders.forM fun request => Emit.emit (.resend request)
      have sends : (resend.emitted asked).filterMap Output.resent? = asked.mResenders :=
        (resent_forM _ _ _).trans List.filterMap_some
      change Handled setup modem s (.updateEngineState false)
        (((LocMsg.updateEngineState false).proc setup modem).next s)
        ((resend.emitted asked ++ []).filterMap Output.resent?)
      rw [LocMsg.next_engineOff, List.append_nil, sends]
      exact .engineOff registered
  | send req => exact .sent System.locSyncSendReq_sent

variable {s' : System Adapter Request} {mask : Mask} {opening : System Adapter Request × Bool}
  {msg : LocMsg Adapter Request} {resent : List Request}

theorem Registered.frame (registered : Registered setup modem mask s s') : Frame s s' := by
  cases registered with
  | kept why => exact ⟨⟨rfl, rfl, rfl⟩, rfl, rfl, rfl⟩
  | taken adjusted other opened sent quiet =>
    exact ⟨⟨sent.frame.table, sent.frame.masks, sent.frame.msgs⟩, by rw [opened]; exact sent.frame.opened,
      sent.frame.session, sent.frame.engine⟩

theorem Registered.mMask (registered : Registered setup modem mask s s') : s'.mMask = mask := by
  cases registered with
  | kept | taken => rfl

theorem Registered.kept_requests (registered : Registered setup modem mask s s') :
    ∃ requests, s'.mResenders = s.mResenders ++ requests := by
  cases registered with
  | kept why => exact ⟨[], (List.append_nil _).symm⟩
  | taken adjusted other opened sent quiet => exact sent.kept

theorem Opened.untouched (opens : Opened setup modem mask s opening) : Untouched s opening.1 := by
  cases opens with
  | already opened registered => exact registered.frame.toUntouched
  | checked closed opens supportChecked sent registered =>
    exact .trans ⟨sent.frame.table, sent.frame.masks, sent.frame.msgs⟩ registered.frame.toUntouched
  | unchecked closed opens supportChecked sent => exact ⟨sent.frame.table, sent.frame.masks, sent.frame.msgs⟩
  | failed closed opens => exact ⟨rfl, rfl, rfl⟩

theorem Handled.untouched (handled : Handled setup modem s msg s' resent) : Untouched s s' := by
  cases handled with
  | opened opens => exact opens.untouched
  | restarted opens => exact ⟨opens.untouched.table, opens.untouched.masks, opens.untouched.msgs⟩
  | closed | stoppedOn | notStopped => exact ⟨rfl, rfl, rfl⟩
  | started registered sent =>
    refine Untouched.trans ⟨?_, ?_, ?_⟩ sent.frame.toUntouched
    · exact registered.frame.table
    · exact registered.frame.masks
    · exact registered.frame.msgs
  | stopped _ _ registered | engineOn registered | engineOff registered =>
    exact ⟨registered.frame.table, registered.frame.masks, registered.frame.msgs⟩
  | sent sent => exact sent.frame.toUntouched

/-- A client that is not open has not been asked for anything. -/
def System.Shut (s : System Adapter Request) : Prop := s.clientHandle = none → s.mMask = 0 ∧ s.mQmiMask = 0

theorem System.Shut.of_opened (opened : s.clientHandle.isSome = true) : s.Shut := by
  intro closed
  rw [closed] at opened
  cases opened

theorem Registered.shut (registered : Registered setup modem mask s s') (same : mask = s.mMask) (shut : s.Shut) :
    s'.Shut := by
  subst same
  intro closed
  have before : s.clientHandle = none := by
    rw [← Option.not_isSome_iff_eq_none, ← registered.frame.opened, closed]
    exact Bool.false_ne_true
  cases registered with
  | kept why => exact shut before
  | taken adjusted other opened sent quiet => cases (before ▸ opened : (none : Option Mask).isSome = true)

theorem Opened.shut (opens : Opened setup modem mask s opening) : opening.1.Shut := by
  cases opens with
  | already opened registered => exact .of_opened (registered.frame.opened.trans opened)
  | checked closed opens supportChecked sent registered =>
    exact .of_opened (registered.frame.opened.trans sent.frame.opened)
  | unchecked closed opens supportChecked sent => exact .of_opened sent.frame.opened
  | failed closed opens => exact fun _ => ⟨rfl, rfl⟩

theorem Sent.shut (sent : Sent s s') (shut : s.Shut) : s'.Shut := by
  intro closed
  have before : s.clientHandle = none := by
    rw [← Option.not_isSome_iff_eq_none, ← sent.frame.opened, closed]
    exact Bool.false_ne_true
  rw [sent.mask, sent.qmiMask]
  exact shut before

theorem Handled.shut (handled : Handled setup modem s msg s' resent) (shut : s.Shut) : s'.Shut := by
  cases handled with
  | opened opens | restarted opens => exact opens.shut
  | closed => exact fun _ => ⟨rfl, rfl⟩
  | started registered sent => exact sent.shut (registered.shut rfl shut)
  | stopped _ _ registered | engineOn registered => exact registered.shut rfl shut
  | engineOff registered =>
    have after := registered.shut rfl shut
    exact after
  | stoppedOn | notStopped => exact shut
  | sent sent => exact sent.shut shut

end Handled

section Table

variable {s s' : System Adapter Request} {setup : Setup Adapter} {adapter : Adapter}

/-- The table has the adapters in its first slots, each of them once. -/
structure System.Tabled (s : System Adapter Request) : Prop where
  packed : s.mLocAdapters = PackedTable.packed s.adapters (MAX_ADAPTERS - s.adapters.length)
  fits : s.adapters.length ≤ MAX_ADAPTERS
  nodup : s.adapters.Nodup

theorem System.Tabled.of_packed {l : List Adapter} {n : ℕ} (table : s.mLocAdapters = PackedTable.packed l n)
    (total : l.length + n = MAX_ADAPTERS) (nodup : l.Nodup) : s.adapters = l ∧ s.Tabled := by
  have same : s.adapters = l := by rw [System.adapters, table, PackedTable.filled_packed]
  refine ⟨same, ?_, ?_, same ▸ nodup⟩
  · rw [same, table, ← total, Nat.add_sub_cancel_left]
  · rw [same, ← total]
    exact Nat.le_add_right _ _

theorem System.tabled_initial : (System.initial Adapter Request).Tabled :=
  (System.Tabled.of_packed (l := []) (n := MAX_ADAPTERS) rfl rfl List.nodup_nil).2

theorem System.Tabled.of_same (tabled : s.Tabled) (table : s'.mLocAdapters = s.mLocAdapters) : s'.Tabled := by
  have same : s'.adapters = s.adapters := by rw [System.adapters, System.adapters, table]
  exact ⟨by rw [table, same]; exact tabled.packed, by rw [same]; exact tabled.fits, by rw [same]; exact tabled.nodup⟩

variable [DecidableEq Adapter]

/-- An adapter is added behind the others, and the client is opened for it. -/
theorem System.addAdapter_of_notMem (tabled : s.Tabled) (absent : adapter ∉ s.adapters)
    (room : s.adapters.length < MAX_ADAPTERS) : (s.addAdapter adapter).Tabled ∧
      (s.addAdapter adapter).adapters = s.adapters ++ [adapter] ∧
      s.addAdapter adapter = System.sendMsg { s with mLocAdapters := (s.addAdapter adapter).mLocAdapters }
        (.open (some adapter)) := by
  obtain ⟨n, free⟩ := Nat.exists_eq_add_of_lt room
  have entered : PackedTable.enter adapter s.mLocAdapters =
      (PackedTable.packed (s.adapters ++ [adapter]) n, true) := by
    rw [tabled.packed, PackedTable.enter_packed, if_neg absent]
    have rest : MAX_ADAPTERS - s.adapters.length = n + 1 := by omega
    rw [rest]
  have table : (s.addAdapter adapter).mLocAdapters = PackedTable.packed (s.adapters ++ [adapter]) n := by
    rw [addAdapter, entered]
    rfl
  have nodup : (s.adapters ++ [adapter]).Nodup :=
    List.nodup_append.mpr ⟨tabled.nodup, List.nodup_singleton adapter, by
      intro a member b only same
      rw [List.mem_singleton.mp only] at same
      exact absent (same ▸ member)⟩
  obtain ⟨same, tabled'⟩ := System.Tabled.of_packed table
    (by rw [List.length_append, List.length_singleton]; omega) nodup
  refine ⟨tabled', same, ?_⟩
  rw [addAdapter, entered]
  rfl

/-- An adapter that is there is not added again, and none is when the table is full. -/
theorem System.addAdapter_eq_self (tabled : s.Tabled)
    (kept : adapter ∈ s.adapters ∨ s.adapters.length = MAX_ADAPTERS) : s.addAdapter adapter = s := by
  have entered : PackedTable.enter adapter s.mLocAdapters = (s.mLocAdapters, false) := by
    rw [tabled.packed, PackedTable.enter_packed]
    split_ifs with member
    · rfl
    · rw [kept.resolve_left member, Nat.sub_self]
  rw [addAdapter, entered]
  rfl

theorem System.removeAdapter_eq_self (tabled : s.Tabled) (absent : adapter ∉ s.adapters) :
    s.removeAdapter adapter = s := by
  rw [removeAdapter, tabled.packed, PackedTable.find?_packed_of_notMem absent]

/-- An adapter is removed. The client is closed for the last of them, and opened again otherwise. -/
theorem System.removeAdapter_of_mem (tabled : s.Tabled) (member : adapter ∈ s.adapters) :
    (s.removeAdapter adapter).Tabled ∧ (s.removeAdapter adapter).adapters.Perm (s.adapters.erase adapter) ∧
      s.removeAdapter adapter = System.sendMsg { s with mLocAdapters := (s.removeAdapter adapter).mLocAdapters }
        (if (s.removeAdapter adapter).adapters = [] then .close else .open none) := by
  obtain ⟨front, back, split, first⟩ := List.eq_append_cons_of_mem member
  have count : front.length + (back.length + 1) = s.adapters.length := by
    rw [split, List.length_append, List.length_cons]
  obtain ⟨n, slots⟩ : ∃ n, MAX_ADAPTERS - s.adapters.length = n := ⟨_, rfl⟩
  have table : s.mLocAdapters = PackedTable.packed (front ++ adapter :: back) n := by
    rw [← split, ← slots]
    exact tabled.packed
  generalize moved : front ++ (back.getLast?.toList ++ back.dropLast) = left
  have perm : (adapter :: left).Perm s.adapters := by
    rw [← moved, split]
    exact PackedTable.perm_moved front back
  have removed : s.removeAdapter adapter = System.sendMsg { s with mLocAdapters := PackedTable.packed left (n + 1) }
      (if front.length + back.length = 0 then .close else .open none) := by
    rw [removeAdapter, table, PackedTable.find?_packed front back first]
    dsimp only
    rw [PackedTable.removeAt_packed, moved]
  have nodup := perm.nodup_iff.mpr tabled.nodup
  have length := perm.length_eq
  rw [List.length_cons] at length
  have fits := tabled.fits
  obtain ⟨same, tabled'⟩ := System.Tabled.of_packed (s := s.removeAdapter adapter) (l := left) (n := n + 1)
    (by rw [removed]; rfl) (by omega) (List.nodup_cons.mp nodup).2
  refine ⟨tabled', ?_, ?_⟩
  · rw [same]
    have erased := perm.erase adapter
    rwa [List.erase_cons_head] at erased
  · have empty : front.length + back.length = 0 ↔ left = [] := by
      rw [← List.length_eq_zero_iff]
      omega
    rw [same, removed]
    simp only [empty, System.sendMsg]

variable {msg : LocMsg Adapter Request} {rest : List (LocMsg Adapter Request)} {modem : Modem Request}

/-- The messages that open the client. -/
def LocMsg.Opens (msg : LocMsg Adapter Request) : Prop := msg = .ssr ∨ ∃ mAdapter, msg = .open mAdapter

/-- The events that only send messages. -/
def Event.Sends : Event Adapter Request → Prop
  | .addAdapter _ | .removeAdapter _ | .proc _ => False
  | _ => True

/-- What an event does, and the requests that are sent again then. The modem's events and the calls of the adapters only
send messages, one that opens the client when the masks change. -/
inductive Change (setup : Setup Adapter) (s : System Adapter Request) :
    Event Adapter Request → System Adapter Request → List Request → Prop
  | posted {e : Event Adapter Request} {mEvtMask : Adapter → Mask} {added : List (LocMsg Adapter Request)}
      (asks : System.getEvtMask setup { s with mEvtMask := mEvtMask } = s.getEvtMask setup ∨ ∃ msg ∈ added, msg.Opens)
      (noClose : .close ∉ added) (sends : e.Sends) :
      Change setup s e { s with mEvtMask := mEvtMask, msgs := s.msgs ++ added } []
  | notAdded {adapter : Adapter} (kept : adapter ∈ s.adapters ∨ s.adapters.length = MAX_ADAPTERS) :
      Change setup s (.addAdapter adapter) s []
  | added {adapter : Adapter} {s' : System Adapter Request} (absent : adapter ∉ s.adapters)
      (room : s.adapters.length < MAX_ADAPTERS) (tabled : s'.Tabled) (adapters : s'.adapters = s.adapters ++ [adapter])
      (same : s' = System.sendMsg { s with mLocAdapters := s'.mLocAdapters } (.open (some adapter))) :
      Change setup s (.addAdapter adapter) s' []
  | notRemoved {adapter : Adapter} (absent : adapter ∉ s.adapters) : Change setup s (.removeAdapter adapter) s []
  | removed {adapter : Adapter} {s' : System Adapter Request} (member : adapter ∈ s.adapters) (tabled : s'.Tabled)
      (adapters : s'.adapters.Perm (s.adapters.erase adapter))
      (same : s' = System.sendMsg { s with mLocAdapters := s'.mLocAdapters }
        (if s'.adapters = [] then .close else .open none)) : Change setup s (.removeAdapter adapter) s' []
  | idle {modem : Modem Request} (empty : s.msgs = []) : Change setup s (.proc modem) s []
  | handled {modem : Modem Request} {msg : LocMsg Adapter Request} {rest : List (LocMsg Adapter Request)}
      {s' : System Adapter Request} {resent : List Request} (head : s.msgs = msg :: rest)
      (handled : Handled setup modem { s with msgs := rest } msg s' resent) : Change setup s (.proc modem) s' resent

theorem Change.shut {e : Event Adapter Request} {resent : List Request} (change : Change setup s e s' resent)
    (shut : s.Shut) : s'.Shut := by
  cases change with
  | posted | notAdded | notRemoved | idle => exact shut
  | added absent room tabled adapters same | removed member tabled adapters same =>
    rw [same]
    exact shut
  | handled head handled => exact handled.shut shut

theorem Change.tabled {e : Event Adapter Request} {resent : List Request} (change : Change setup s e s' resent)
    (tabled : s.Tabled) : s'.Tabled := by
  cases change with
  | posted => exact tabled.of_same rfl
  | notAdded | notRemoved | idle => exact tabled
  | added absent room tabled' | removed member tabled' => exact tabled'
  | handled head handled => exact tabled.of_same handled.untouched.table

theorem Change.proc (modem : Modem Request) : Change setup s (.proc modem) (s.step setup (.proc modem))
    ((((Event.proc modem).happen setup).emitted s).filterMap Output.resent?) := by
  change Change setup s (.proc modem) ((System.runTask setup modem).next s)
    (((System.runTask setup modem).emitted s).filterMap Output.resent?)
  rw [System.runTask, Emit.next_get_bind, Emit.emitted_get_bind]
  cases head : s.msgs with
  | nil => exact .idle head
  | cons msg rest => exact .handled head (LocMsg.proc_handled msg)

/-- A message that does not close the client is sent. -/
theorem Change.send {e : Event Adapter Request} {msg : LocMsg Adapter Request} (sends : e.Sends)
    (noClose : msg ≠ .close) : Change setup s e (s.sendMsg msg) [] := by
  have posted : Change setup s e { s with mEvtMask := s.mEvtMask, msgs := s.msgs ++ [msg] } [] := by
    refine .posted (.inl rfl) ?_ sends
    exact fun member => noClose (List.mem_singleton.mp member).symm
  exact posted

/-- Nothing is sent. -/
theorem Change.silent {e : Event Adapter Request} {mEvtMask : Adapter → Mask}
    (sends : e.Sends) (same : System.getEvtMask setup { s with mEvtMask := mEvtMask } = s.getEvtMask setup) :
    Change setup s e { s with mEvtMask := mEvtMask } [] := by
  have posted : Change setup s e { s with mEvtMask := mEvtMask, msgs := s.msgs ++ [] } [] :=
    .posted (.inl same) List.not_mem_nil sends
  rwa [List.append_nil] at posted

/-- The mask of an adapter that is not called does not count. -/
theorem System.getEvtMask_update (absent : adapter ∉ s.adapters) (mask : Mask) :
    System.getEvtMask setup { s with mEvtMask := Function.update s.mEvtMask adapter mask } = s.getEvtMask setup := by
  have fold (l : List Adapter) (out : Mask) (apart : adapter ∉ l) :
      l.foldl (fun out a => out ||| Function.update s.mEvtMask adapter mask a) out =
        l.foldl (fun out a => out ||| s.mEvtMask a) out := by
    refine List.foldl_ext _ _ out fun out a member => ?_
    rw [Function.update_of_ne]
    rintro rfl
    exact apart member
  exact congrArg (· &&& ~~~ setup.mExcludedMask) (fold s.adapters 0 absent)

theorem System.step_change (tabled : s.Tabled) (e : Event Adapter Request) :
    Change setup s e (s.step setup e) (((e.happen setup).emitted s).filterMap Output.resent?) := by
  cases e with
  | construct adapter mask =>
    change Change setup s (.construct adapter mask)
      (if adapter ∈ s.adapters then s else { s with mEvtMask := Function.update s.mEvtMask adapter mask }) []
    split_ifs with member
    · exact .silent trivial rfl
    · exact .silent trivial (getEvtMask_update member mask)
  | addAdapter adapter =>
    change Change setup s (.addAdapter adapter) (s.addAdapter adapter) []
    by_cases kept : adapter ∈ s.adapters ∨ s.adapters.length = MAX_ADAPTERS
    · rw [addAdapter_eq_self tabled kept]
      exact .notAdded kept
    · obtain ⟨absent, full⟩ := not_or.mp kept
      have room := lt_of_le_of_ne tabled.fits full
      obtain ⟨tabled', adapters, same⟩ := addAdapter_of_notMem tabled absent room
      exact .added absent room tabled' adapters same
  | removeAdapter adapter =>
    change Change setup s (.removeAdapter adapter) (s.removeAdapter adapter) []
    by_cases member : adapter ∈ s.adapters
    · obtain ⟨tabled', adapters, same⟩ := removeAdapter_of_mem tabled member
      exact .removed member tabled' adapters same
    · rw [removeAdapter_eq_self tabled member]
      exact .notRemoved member
  | updateEvtMask adapter event status =>
    exact .posted (.inr ⟨_, List.mem_singleton_self _, .inr ⟨none, rfl⟩⟩) (by simp) trivial
  | reportEngineState engineOn =>
    change Change setup s (.reportEngineState engineOn)
      (if s.hearsEngineState then s.sendMsg (.updateEngineState engineOn) else s) []
    split_ifs
    · exact .send trivial (by simp)
    · exact .silent trivial rfl
  | serviceUnavailable =>
    let report : LocApiM Adapter Request Unit := (s.sendMsg .ssr).adapters.forM fun adapter =>
      Emit.emit (.handleEngineDownEvent adapter)
    have left : report.next (s.sendMsg .ssr) = s.sendMsg .ssr := by
      simp only [report, Emit.next_forM, Emit.next_emit, List.foldl_fixed]
    have silent : (report.emitted (s.sendMsg .ssr)).filterMap Output.resent? = [] :=
      (resent_forM _ _ _).trans (List.filterMap_eq_nil_iff.mpr fun _ _ => rfl)
    change Change setup s .serviceUnavailable (report.next (s.sendMsg .ssr))
      ((report.emitted (s.sendMsg .ssr)).filterMap Output.resent?)
    rw [left, silent]
    exact .send trivial (by simp)
  | startTimeBasedTracking | stopFix | stopTimeBasedTracking | send => exact .send trivial (by simp)
  | proc modem => exact .proc modem

end Table

end Cypfr.LocApi
