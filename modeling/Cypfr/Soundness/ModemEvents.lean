import Cypfr.Soundness.AdapterMasks
import Cypfr.ToMathlib.BitMask

/-! # No adapter misses an event

What the modem is registered for changes with the masks of the adapters, with the session and with the state of its
engine. As long as it takes each registration and is not busy with the requests that go with it, the adapters get what
they asked for, as far as the session lets it through, and the modem reports nothing that nobody asked for.
-/

namespace Cypfr.LocApi

open Machine

/-- All events. -/
def QmiEvent.all : List QmiEvent :=
  [.positionReport, .gnssSvInfo, .nmea, .niNotifyVerifyReq, .injectTimeReq, .injectPredictedOrbitsReq,
    .injectPositionReq, .engineState, .wifiReq, .sensorStreamingReadyStatus, .timeSyncReq, .setSpiStreamingReport,
    .locationServerConnectionReq, .niGeofenceNotification, .geofenceGenAlert, .geofenceBreachNotification,
    .pedometerControl, .motionDataControl, .batchFullNotification, .liveBatchedPositionReport, .injectWifiApDataReq,
    .geofenceBatchBreachNotification, .gnssMeasurementReport, .gnssSvPolynomialReport, .gdtUploadBeginReq,
    .gdtUploadEndReq, .geofenceBatchDwellNotification, .getTimeZoneReq, .batchingStatus, .injectSrnApDataReq,
    .fdclServiceReq, .unpropagatedPositionReport, .bsObsDataServiceReq, .ephemerisReport, .nextLsInfoReport,
    .gnssNhzMeasurementReport, .gnssEventReport, .latencyInformationReport]

/-- Each event has a bit of its own. -/
theorem QmiEvent.numbering : BitMask.Numbering QmiEvent.mask := by
  have complete (event : QmiEvent) : event ∈ QmiEvent.all := by cases event <;> decide
  refine .of_nodup complete (by decide) fun event => ?_
  cases event <;> decide

/-- A mask has an event. -/
def Has (mask : Mask) (event : QmiEvent) : Prop := mask &&& event.mask ≠ 0

theorem has_mask_iff {event event' : QmiEvent} : Has event.mask event' ↔ event = event' :=
  QmiEvent.numbering.and_value_ne_zero_iff

theorem has_convertMask_iff {batchedBreach : Bool} {mask : Mask} {event : QmiEvent} :
    Has (convertMask batchedBreach mask) event ↔
      ∃ conversion ∈ conversions batchedBreach, mask &&& conversion.1.mask ≠ 0 ∧ event ∈ conversion.2 := by
  have fold (l : List (AdapterBit × List QmiEvent)) (out : Mask) :
      Has (l.foldl (fun eventMask conversion =>
        if mask &&& conversion.1.mask ≠ 0 then
          conversion.2.foldl (fun eventMask event => eventMask ||| event.mask) eventMask
        else eventMask) out) event ↔
      Has out event ∨ ∃ conversion ∈ l, mask &&& conversion.1.mask ≠ 0 ∧ event ∈ conversion.2 := by
    induction l generalizing out with
    | nil => simp
    | cons conversion l ih =>
      rw [List.foldl_cons, ih, List.exists_mem_cons_iff, ← or_assoc]
      refine or_congr_left ?_
      split_ifs with asked
      · rw [and_iff_right asked, Has, BitMask.foldl_or_and_ne_zero_iff]
        refine or_congr_right ⟨?_, fun member => ⟨event, member, has_mask_iff.mpr rfl⟩⟩
        rintro ⟨other, member, shared⟩
        exact has_mask_iff.mp shared ▸ member
      · rw [or_iff_left fun both => asked both.1]
  refine (fold (conversions batchedBreach) 0).trans (or_iff_right ?_)
  exact not_not_intro BitVec.zero_and

theorem has_or_iff {mask mask' : Mask} {event : QmiEvent} :
    Has (mask ||| mask') event ↔ Has mask event ∨ Has mask' event :=
  BitMask.or_and_ne_zero_iff

/-- A mask without some events has the others. -/
theorem has_and_not_iff {mask cleared : Mask} {event : QmiEvent} :
    Has (mask &&& ~~~cleared) event ↔ Has mask event ∧ ¬ Has cleared event := by
  obtain ⟨k, own⟩ := QmiEvent.numbering.self_ne_zero event
  have inside := BitVec.lt_of_getLsbD own
  simp only [Has, QmiEvent.numbering.and_ne_zero_iff own, BitVec.getLsbD_and, BitVec.getLsbD_not, inside, decide_true,
    Bool.true_and, Bool.and_eq_true, Bool.not_eq_true', Bool.not_eq_true]

variable {Adapter Request : Type} {setup : Setup Adapter} {s s' : System Adapter Request} {modem : Modem Request}
  {mask : Mask} {event : QmiEvent}

namespace System

/-- The session lets an event through. -/
def LetsThrough (s : System Adapter Request) (event : QmiEvent) : Prop :=
  if s.mInSession = true then s.mEngineOn = true ∨ event ≠ .nmea else ¬ Has sessionEvents event

theorem has_adjust_iff :
    Has (s.adjustMaskIfNoSessionOrEngineOff mask) event ↔ Has mask event ∧ s.LetsThrough event := by
  rw [adjustMaskIfNoSessionOrEngineOff, LetsThrough]
  cases s.mInSession with
  | false => exact has_and_not_iff
  | true =>
    cases s.mEngineOn with
    | false =>
      refine has_and_not_iff.trans (and_congr_right fun _ => ?_)
      rw [has_mask_iff]
      simp [eq_comm]
    | true => simp

/-- An adapter asked for an event that is not left to others. -/
def Wanted (setup : Setup Adapter) (s : System Adapter Request) (event : QmiEvent) : Prop :=
  ∃ adapter ∈ s.adapters, ∃ conversion ∈ conversions setup.batchedBreach,
    s.mEvtMask adapter &&& ~~~ setup.mExcludedMask &&& conversion.1.mask ≠ 0 ∧ event ∈ conversion.2

theorem has_getEvtMask_iff :
    Has (convertMask setup.batchedBreach (s.getEvtMask setup)) event ↔ s.Wanted setup event := by
  have asked (bit : Mask) : s.getEvtMask setup &&& bit ≠ 0 ↔
      ∃ adapter ∈ s.adapters, s.mEvtMask adapter &&& ~~~ setup.mExcludedMask &&& bit ≠ 0 := by
    rw [getEvtMask, BitVec.and_assoc, BitMask.foldl_or_and_ne_zero_iff]
    refine (or_iff_right (not_not_intro BitVec.zero_and)).trans ?_
    simp only [BitVec.and_assoc]
  simp only [has_convertMask_iff, asked, Wanted]
  constructor
  · rintro ⟨conversion, listed, ⟨adapter, member, own⟩, stands⟩
    exact ⟨adapter, member, conversion, listed, own, stands⟩
  · rintro ⟨adapter, member, conversion, listed, own, stands⟩
    exact ⟨conversion, listed, ⟨adapter, member, own⟩, stands⟩

/-- What the modem is registered for is what is remembered, with the state of its engine perhaps. -/
def Registers (s : System Adapter Request) : Prop :=
  ∀ m, s.clientHandle = some m → m = s.mQmiMask ∨ m = s.mQmiMask ||| QmiEvent.mask .engineState

/-- What is remembered fits what is asked for, or what was asked for while the session was on. -/
def Fits (setup : Setup Adapter) (s : System Adapter Request) : Prop :=
  s.mQmiMask = s.adjustMaskIfNoSessionOrEngineOff (convertMask setup.batchedBreach s.mMask) ∨
    s.mInSession = false ∧ s.mQmiMask = convertMask setup.batchedBreach s.mMask

theorem convertMask_zero (batchedBreach : Bool) : convertMask batchedBreach 0 = 0 := by
  cases batchedBreach <;> decide

theorem adjust_zero : s.adjustMaskIfNoSessionOrEngineOff 0 = 0 := by
  rw [adjustMaskIfNoSessionOrEngineOff]
  split_ifs <;> simp

/-- The modem takes each registration and is not busy with the requests that go with it. -/
def Orderly (e : Event Adapter Request) : Prop :=
  ∀ modem, e = .proc modem →
    modem.registers = true ∧ modem.wifiStatus.busy = false ∧ modem.constellation.busy = false

/-- What the modem is registered for, and what is remembered of that. -/
structure InTouch (setup : Setup Adapter) (s : System Adapter Request) : Prop where
  registers : s.Registers
  fits : s.Fits setup

theorem inTouch_of_closed (closed : s.clientHandle = none) (mMask : s.mMask = 0) (mQmiMask : s.mQmiMask = 0) :
    s.InTouch setup := by
  refine ⟨fun m handle => ?_, .inl ?_⟩
  · rw [closed] at handle
    cases handle
  · rw [mMask, mQmiMask, convertMask_zero, adjust_zero]

end System

/-- A modem that takes a registration and is not busy then is registered for what is asked for. -/
theorem Registered.inTouch (registered : Registered setup modem mask s s') (takes : modem.registers = true)
    (wifi : modem.wifiStatus.busy = false) (constellation : modem.constellation.busy = false) (before : s.Registers)
    (closed : s.clientHandle = none → mask = 0 ∧ s.mQmiMask = 0) :
    s'.Registers ∧ s'.mQmiMask = s'.adjustMaskIfNoSessionOrEngineOff (convertMask setup.batchedBreach s'.mMask) := by
  have frame := registered.frame
  cases registered with
  | kept why =>
    refine ⟨before, ?_⟩
    rcases why with same | refused
    · exact same.symm
    · have shut : s.clientHandle = none := by simpa [System.registered, takes] using refused
      change s.mQmiMask = s.adjustMaskIfNoSessionOrEngineOff (convertMask setup.batchedBreach mask)
      rw [(closed shut).1, (closed shut).2, System.convertMask_zero, System.adjust_zero]
  | taken adjusted other opened sent quiet =>
    obtain rfl := quiet wifi constellation
    refine ⟨?_, ?_⟩
    · rintro m same
      exact .inl (Option.some.inj same).symm
    · exact adjusted.symm

theorem Sent.registers (sent : Sent s s') (before : s.Registers) : s'.Registers := by
  intro m handle
  rw [sent.qmiMask]
  rcases sent.handle with same | asked
  · exact before m (same ▸ handle)
  · obtain ⟨old, -, rfl⟩ := Option.map_eq_some_iff.mp (asked.symm.trans handle)
    exact .inr rfl

theorem Sent.inTouch (sent : Sent s s') (before : s.InTouch setup) : s'.InTouch setup := by
  refine ⟨sent.registers before.registers, ?_⟩
  rw [System.Fits, sent.qmiMask, sent.mask, sent.frame.adjust, sent.frame.session]
  exact before.fits

theorem Opened.inTouch {opening : System Adapter Request × Bool} (opens : Opened setup modem mask s opening)
    (takes : modem.registers = true) (wifi : modem.wifiStatus.busy = false)
    (constellation : modem.constellation.busy = false) (before : s.Registers) (shut : s.Shut) :
    opening.1.InTouch setup := by
  cases opens with
  | already opened registered =>
    have after := registered.inTouch takes wifi constellation before (fun closed => by simp [closed] at opened)
    exact ⟨after.1, .inl after.2⟩
  | @checked s' s'' closed opens supportChecked sent registered =>
    have opened : s'.Registers := sent.registers fun m handle => by
      rw [(shut closed).2]
      exact .inl (Option.some.inj handle).symm
    have after := registered.inTouch takes wifi constellation opened (fun none => by
      have some := sent.frame.opened
      simp [none] at some)
    exact ⟨after.1, .inl after.2⟩
  | @unchecked s' closed opens supportChecked sent =>
    have opened : System.InTouch setup { s with clientHandle := some 0 } := by
      refine ⟨fun m handle => ?_, .inl ?_⟩
      · change m = s.mQmiMask ∨ m = s.mQmiMask ||| _
        rw [(shut closed).2]
        exact .inl (Option.some.inj handle).symm
      · change s.mQmiMask = System.adjustMaskIfNoSessionOrEngineOff (convertMask setup.batchedBreach s.mMask) _
        rw [(shut closed).1, (shut closed).2, System.convertMask_zero, System.adjust_zero]
    exact sent.inTouch opened
  | failed closed opens => exact System.inTouch_of_closed rfl rfl rfl

theorem Handled.inTouch {msg : LocMsg Adapter Request} {resent : List Request}
    (handled : Handled setup modem s msg s' resent) (takes : modem.registers = true)
    (wifi : modem.wifiStatus.busy = false) (constellation : modem.constellation.busy = false)
    (before : s.InTouch setup) (shut : s.Shut) : s'.InTouch setup := by
  cases handled with
  | opened opens => exact opens.inTouch takes wifi constellation before.registers shut
  | restarted opens =>
    exact opens.inTouch takes wifi constellation (fun m handle => (by cases handle)) fun _ => ⟨rfl, rfl⟩
  | closed => exact System.inTouch_of_closed rfl rfl rfl
  | started registered sent =>
    have after := registered.inTouch takes wifi constellation before.registers shut
    exact sent.inTouch ⟨after.1, .inl after.2⟩
  | stopped _ _ registered | engineOn registered =>
    have after := registered.inTouch takes wifi constellation before.registers shut
    exact ⟨after.1, .inl after.2⟩
  | engineOff registered =>
    have after := registered.inTouch takes wifi constellation before.registers shut
    exact ⟨after.1, .inl after.2⟩
  | stoppedOn stops on =>
    refine ⟨before.registers, ?_⟩
    rcases before.fits with now | lasting
    · cases session : s.mInSession with
      | true =>
        refine .inr ⟨rfl, ?_⟩
        rw [System.adjustMaskIfNoSessionOrEngineOff, session, on] at now
        exact now
      | false =>
        refine .inl ?_
        rw [System.adjustMaskIfNoSessionOrEngineOff, session] at now
        exact now
    · exact .inr ⟨rfl, lasting.2⟩
  | notStopped => exact before
  | sent sent => exact sent.inTouch before

variable [DecidableEq Adapter]

theorem Change.inTouch {e : Event Adapter Request} {resent : List Request} (change : Change setup s e s' resent)
    (orderly : System.Orderly e) (before : s.InTouch setup) (shut : s.Shut) : s'.InTouch setup := by
  cases change with
  | posted => exact ⟨before.registers, before.fits⟩
  | notAdded | notRemoved | idle => exact before
  | added absent room tabled adapters same | removed member tabled adapters same =>
    rw [same]
    exact ⟨before.registers, before.fits⟩
  | @handled modem msg rest s' resent head handled =>
    obtain ⟨takes, wifi, constellation⟩ := orderly modem rfl
    exact handled.inTouch takes wifi constellation ⟨before.registers, before.fits⟩ shut

namespace System

/-- The modem is registered for what the adapters want, as far as the session lets it through, and for nothing that
nobody wants but the state of its engine. -/
def Subscribed (setup : Setup Adapter) (s : System Adapter Request) : Prop :=
  ∀ m, s.clientHandle = some m → ∀ event, (s.Wanted setup event → s.LetsThrough event → Has m event) ∧
    (Has m event → s.Wanted setup event ∨ event = .engineState)

omit [DecidableEq Adapter] in
theorem InTouch.subscribed_of_asked (inTouch : s.InTouch setup) (asked : s.mMask = s.getEvtMask setup) :
    s.Subscribed setup := by
  intro m handle event
  have remembered : (s.Wanted setup event → s.LetsThrough event → Has s.mQmiMask event) ∧
      (Has s.mQmiMask event → s.Wanted setup event) := by
    rw [← has_getEvtMask_iff, ← asked]
    rcases inTouch.fits with fits | ⟨-, fits⟩
    · rw [fits, has_adjust_iff]
      exact ⟨fun wanted lets => ⟨wanted, lets⟩, fun has => has.1⟩
    · rw [fits]
      exact ⟨fun wanted _ => wanted, fun has => has⟩
  rcases inTouch.registers m handle with rfl | rfl
  · exact ⟨remembered.1, fun has => .inl (remembered.2 has)⟩
  · rw [has_or_iff, has_mask_iff]
    exact ⟨fun wanted lets => .inl (remembered.1 wanted lets), fun has => has.imp remembered.2 Eq.symm⟩

/-- While the modem takes each registration and the last message that opens the client always succeeds, no adapter
misses an event that it asked for once that message is through. -/
theorem subscribed (setup : Setup Adapter) (events : List (Event Adapter Request))
    (orderly : EachStep (step setup) (fun _ e => Orderly e) (initial Adapter Request) events)
    (answered : EachStep (step setup) (Answered setup) (initial Adapter Request) events) :
    Throughout (step setup) (fun s => s.decisive = [] → s.Subscribed setup) (initial Adapter Request) events := by
  have settled := (settled_iff setup events).mpr answered
  have inTouch : Throughout (step setup) (fun s => s.Tabled ∧ s.Shut ∧ s.InTouch setup) (initial Adapter Request)
      events := by
    refine throughout_of_eachStep ⟨tabled_initial, fun _ => ⟨rfl, rfl⟩, inTouch_of_closed rfl rfl rfl⟩ ?_ orderly
    rintro s e ⟨tabled, shut, inTouch⟩ orderly
    have change : Change setup _ e _ _ := step_change tabled e
    exact ⟨change.tabled tabled, change.shut shut, change.inTouch orderly inTouch shut⟩
  intro done reached quiet m handle
  have opened : (done.foldl (step setup) (initial Adapter Request)).clientHandle.isSome = true := by rw [handle]; rfl
  exact (inTouch done reached).2.2.subscribed_of_asked ((settled done reached quiet).asked opened) m handle

section Examples

/-- A modem that does all that it is asked. -/
def willing : Modem Unit :=
  { opens := true, checks := [], supportChecked := true, registers := true, wifiStatus := ⟨(), false, true, true⟩,
    constellation := ⟨(), false, true, true⟩, stops := true }

/-- An adapter asks for satellites, and a session is started. -/
def tracked : List (Event ℕ Unit) :=
  [.construct 0 (AdapterBit.mask .reportSatellite), .addAdapter 0, .proc willing,
    .startTimeBasedTracking ⟨(), false, true, true⟩, .proc willing]

theorem willing_orderly : Orderly (.proc willing : Event ℕ Unit) := by
  rintro _ ⟨⟩
  exact ⟨rfl, rfl, rfl⟩

theorem willing_answered (setup : Setup ℕ) (s : System ℕ Unit) : s.Answered setup (.proc willing) := by
  rintro _ msg rest ⟨⟩ - - -
  exact .inl rfl

theorem subscribed_tracked :
    Throughout (step ⟨fun _ => true, 0, false⟩) (fun s => s.decisive = [] → s.Subscribed ⟨fun _ => true, 0, false⟩)
      (initial ℕ Unit) tracked := by
  refine subscribed _ _ ?_ ?_
  · exact eachStep_cons (by rintro _ ⟨⟩) (eachStep_cons (by rintro _ ⟨⟩) (eachStep_cons willing_orderly
      (eachStep_cons (by rintro _ ⟨⟩) (eachStep_cons willing_orderly eachStep_nil))))
  · exact eachStep_cons (by rintro _ _ _ ⟨⟩) (eachStep_cons (by rintro _ _ _ ⟨⟩) (eachStep_cons (willing_answered _ _)
      (eachStep_cons (by rintro _ _ _ ⟨⟩) (eachStep_cons (willing_answered _ _) eachStep_nil))))

/-- A modem that is busy when it is told of Wi-Fi is registered for what it was registered for before. -/
example : (run ⟨fun _ => true, 0, false⟩ [.construct (0 : ℕ) (AdapterBit.mask .requestWifi), .addAdapter 0,
    .proc { willing with wifiStatus := ⟨(), true, true, true⟩ }]).clientHandle =
      some (QmiEvent.mask .engineState) := by
  decide

end Examples

end System

end Cypfr.LocApi
