import Cypfr.Soundness.ModemEvents

/-! # Whether the modem says when its engine is off

A request that the modem is too busy for is sent again when it says that its engine is off. It is asked to say so when
the first such request is kept, but registering for the adapters' events takes that back.
-/

namespace Cypfr.LocApi

open Machine

variable {Adapter Request : Type} {setup : Setup Adapter} {modem : Modem Request} {s s' : System Adapter Request}
  {mask : Mask} {req : SyncReq Request}

namespace System

/-- The modem says when its engine is off. -/
def Hears (s : System Adapter Request) : Prop := ∃ m, s.clientHandle = some m ∧ Has m .engineState

/-- While a request is kept, the modem says when its engine is off. -/
def Awaited (s : System Adapter Request) : Prop := s.mResenders ≠ [] → s.Hears

/-- Registering for the events of the adapters finds no request kept, or nothing new to register for, or registers for
the state of the engine too. -/
def KeepsHearing (setup : Setup Adapter) (mask : Mask) (s : System Adapter Request) : Prop :=
  s.mResenders = [] ∨ s.adjustMaskIfNoSessionOrEngineOff (convertMask setup.batchedBreach mask) = s.mQmiMask ∨
    Has (s.adjustMaskIfNoSessionOrEngineOff (convertMask setup.batchedBreach mask)) .engineState

theorem Awaited.of_same (awaited : s.Awaited) (handle : s'.clientHandle = s.clientHandle)
    (kept : s'.mResenders = s.mResenders) : s'.Awaited := by
  rw [Awaited, Hears, handle, kept]
  exact awaited

theorem Awaited.of_nil (none : s.mResenders = []) : s.Awaited := fun some => absurd none some

/-- The modem says when its engine is off as soon as it is asked to. -/
theorem hears_registerEngineState (registers : s.Registers) (opened : s.clientHandle.isSome = true)
    (first : s.mResenders = []) : (s.registerEngineState true).Hears := by
  obtain ⟨m, handle⟩ := Option.isSome_iff_exists.mp opened
  rw [registerEngineState]
  split_ifs with asks
  · refine ⟨s.mQmiMask ||| QmiEvent.mask .engineState, ?_, has_or_iff.mpr (.inr (has_mask_iff.mpr rfl))⟩
    rw [register, if_pos rfl, handle, Option.map_some]
  · have already : Has s.mQmiMask .engineState := by simpa [first, Has] using asks
    refine ⟨m, handle, ?_⟩
    rcases registers m handle with rfl | rfl
    · exact already
    · exact has_or_iff.mpr (.inl already)

theorem Hears.registerEngineState {accepted : Bool} (hears : s.Hears) : (s.registerEngineState accepted).Hears := by
  obtain ⟨m, handle, has⟩ := hears
  rw [System.registerEngineState, register]
  split_ifs
  · refine ⟨s.mQmiMask ||| QmiEvent.mask .engineState, ?_, has_or_iff.mpr (.inr (has_mask_iff.mpr rfl))⟩
    rw [handle, Option.map_some]
  · exact ⟨m, handle, has⟩
  · exact ⟨m, handle, has⟩

/-- Asked when a request is about to be kept, it says so from then on. -/
theorem Awaited.hears_registerEngineState (awaited : s.Awaited) (registers : s.Registers)
    (opened : s.clientHandle.isSome = true) : (s.registerEngineState true).Hears := by
  by_cases first : s.mResenders = []
  · exact System.hears_registerEngineState registers opened first
  · exact (awaited first).registerEngineState

/-- Sending a request keeps it that way, when the modem takes the registration for the state of its engine. -/
theorem Awaited.locSyncSendReq (awaited : s.Awaited) (registers : s.Registers) (takes : req.registers = true) :
    (s.locSyncSendReq req).Awaited := by
  rw [System.locSyncSendReq, takes]
  split_ifs with busy copied
  · have hears := awaited.hears_registerEngineState registers ((Bool.and_eq_true _ _).mp busy).2
    exact fun _ => hears
  · have hears := awaited.hears_registerEngineState registers ((Bool.and_eq_true _ _).mp busy).2
    exact fun _ => hears
  · exact awaited

theorem Awaited.checks {checks : List (SyncReq Request)} (awaited : s.Awaited) (registers : s.Registers)
    (takes : ∀ req ∈ checks, req.registers = true) :
    (checks.foldl (fun s req => s.locSyncSendReq req) s).Awaited := by
  induction checks generalizing s with
  | nil => exact awaited
  | cons req rest ih =>
    exact ih (awaited.locSyncSendReq registers (takes req (List.mem_cons_self ..)))
      (locSyncSendReq_sent.registers registers) fun req member => takes req (List.mem_cons_of_mem _ member)

/-- What registering for the events of the adapters does to that. -/
theorem awaited_registerEventMask_iff (takes : modem.registers = true) (wifi : modem.wifiStatus.busy = false)
    (constellation : modem.constellation.busy = false) (awaited : s.Awaited) :
    (s.registerEventMask setup modem mask).Awaited ↔ s.KeepsHearing setup mask := by
  have registered : Registered setup modem mask s _ := registerEventMask_registered mask
  generalize s.registerEventMask setup modem mask = s' at registered
  cases registered with
  | kept why =>
    refine iff_of_true (awaited.of_same rfl rfl) ?_
    rcases why with same | refused
    · exact .inr (.inl same)
    · have shut : s.clientHandle = none := by simpa [System.registered, takes] using refused
      refine .inl ?_
      by_contra some
      obtain ⟨m, handle, -⟩ := awaited some
      cases shut.symm.trans handle
  | @taken wanted s' adjusted other opened sent quiet =>
    obtain rfl := quiet wifi constellation
    rw [KeepsHearing, adjusted, or_iff_right other]
    constructor
    · intro after
      by_cases none : s.mResenders = []
      · exact .inl none
      · obtain ⟨m, handle, has⟩ := after none
        cases handle
        exact .inr has
    · rintro (none | has)
      · exact .of_nil none
      · exact fun _ => ⟨wanted, rfl, has⟩

/-- The client after the requests that are sent while it is opened. -/
def opened (modem : Modem Request) (s : System Adapter Request) : System Adapter Request :=
  modem.checks.foldl (fun s req => s.locSyncSendReq req) { s with clientHandle := some 0 }

theorem awaited_openClient_iff (takes : modem.registers = true) (wifi : modem.wifiStatus.busy = false)
    (constellation : modem.constellation.busy = false) (checks : ∀ req ∈ modem.checks, req.registers = true)
    (shut : s.Shut) (awaited : s.Awaited) :
    (s.openClient setup modem mask).1.Awaited ↔
      if s.clientHandle.isSome then s.KeepsHearing setup (mask &&& ~~~ setup.mExcludedMask)
      else modem.opens = true → modem.supportChecked = true →
        (s.opened modem).KeepsHearing setup (mask &&& ~~~ setup.mExcludedMask) := by
  rw [openClient]
  cases handle : s.clientHandle with
  | some m => exact awaited_registerEventMask_iff takes wifi constellation awaited
  | none =>
    have none : s.mResenders = [] := by
      by_contra some
      obtain ⟨m, opened, -⟩ := awaited some
      cases handle.symm.trans opened
    have ready : (s.opened modem).Awaited := by
      refine Awaited.checks (.of_nil none) (fun m own => ?_) checks
      change m = s.mQmiMask ∨ m = s.mQmiMask ||| _
      rw [(shut handle).2]
      exact .inl (Option.some.inj own).symm
    dsimp only
    have notOpened : ¬ (Option.none : Option Mask).isSome = true := Bool.false_ne_true
    rw [if_neg notOpened]
    split_ifs with opens supportChecked
    · rw [forall_prop_of_true opens, forall_prop_of_true supportChecked]
      exact awaited_registerEventMask_iff takes wifi constellation ready
    · refine iff_of_true ready ?_
      exact fun _ checked => absurd checked supportChecked
    · exact iff_of_true (.of_nil none) fun opening => absurd opening opens

/-- Nothing is registered for a request that is not the first that is kept. -/
theorem locSyncSendReq_of_kept (req : SyncReq Request) (kept : s.mResenders ≠ []) :
    (s.locSyncSendReq req).clientHandle = s.clientHandle ∧ (s.locSyncSendReq req).mResenders ≠ [] := by
  have asked : s.registerEngineState req.registers = s := by
    rw [registerEngineState, List.isEmpty_eq_false_iff.mpr kept, Bool.false_and, if_neg Bool.false_ne_true]
  rw [locSyncSendReq, asked]
  split_ifs
  · exact ⟨rfl, List.append_ne_nil_of_left_ne_nil kept _⟩
  · exact ⟨rfl, kept⟩
  · exact ⟨rfl, kept⟩

theorem awaited_locSyncSendReq_iff (registers : s.Registers) (takes : req.registers = true) :
    (s.locSyncSendReq req).Awaited ↔ s.Awaited := by
  constructor
  · intro after kept
    obtain ⟨same, still⟩ := locSyncSendReq_of_kept req kept
    obtain ⟨m, handle, has⟩ := after still
    exact ⟨m, same.symm.trans handle, has⟩
  · exact fun awaited => awaited.locSyncSendReq registers takes

theorem checks_of_kept (checks : List (SyncReq Request)) (kept : s.mResenders ≠ []) :
    (checks.foldl (fun s req => s.locSyncSendReq req) s).clientHandle = s.clientHandle ∧
      (checks.foldl (fun s req => s.locSyncSendReq req) s).mResenders ≠ [] := by
  induction checks generalizing s with
  | nil => exact ⟨rfl, kept⟩
  | cons req rest ih =>
    obtain ⟨same, still⟩ := locSyncSendReq_of_kept req kept
    exact ⟨(ih still).1.trans same, (ih still).2⟩

/-- Registering while no session is on does not ask for the state of the engine. -/
theorem not_has_adjust_engineState (session : s.mInSession = false) :
    ¬ Has (s.adjustMaskIfNoSessionOrEngineOff mask) .engineState := by
  rw [has_adjust_iff, LetsThrough, session, if_neg Bool.false_ne_true]
  have among : sessionEvents &&& QmiEvent.mask .engineState ≠ 0 := by decide
  exact fun both => both.2 among

/-- A client that is closed while a request is kept does not hear of the engine when it is opened again. -/
theorem not_awaited_openClient (wifi : modem.wifiStatus.busy = false) (constellation : modem.constellation.busy = false)
    (closed : s.clientHandle = none) (kept : s.mResenders ≠ []) (session : s.mInSession = false) :
    ¬ (s.openClient setup modem mask).1.Awaited := by
  intro after
  obtain ⟨handle, still⟩ := checks_of_kept (s := { s with clientHandle := some 0 }) modem.checks kept
  have frame : Frame { s with clientHandle := some 0 } _ := (checks_sent modem.checks).frame
  generalize asked : modem.checks.foldl (fun s req => s.locSyncSendReq req) { s with clientHandle := some 0 } = s'
    at handle still frame
  rw [openClient, closed] at after
  simp only [asked] at after
  split_ifs at after
  · have registered : Registered setup modem (mask &&& ~~~ setup.mExcludedMask) s' _ :=
      registerEventMask_registered (mask &&& ~~~ setup.mExcludedMask)
    generalize s'.registerEventMask setup modem (mask &&& ~~~ setup.mExcludedMask) = s'' at registered after
    cases registered with
    | kept =>
      obtain ⟨m, own, has⟩ := after still
      cases handle.symm.trans own
      exact has BitVec.zero_and
    | @taken wanted s'' adjusted other opened sent quiet =>
      obtain rfl := quiet wifi constellation
      obtain ⟨m, own, has⟩ := after still
      cases own
      rw [← adjusted] at has
      exact not_has_adjust_engineState (frame.session.trans session) has
  · obtain ⟨m, own, has⟩ := after still
    cases handle.symm.trans own
    exact has BitVec.zero_and
  · obtain ⟨m, own, has⟩ := after kept
    cases own

/-- When a message keeps it that way. -/
def KeepsAwaiting (setup : Setup Adapter) (modem : Modem Request) :
    LocMsg Adapter Request → System Adapter Request → Prop
  | .open _, s =>
    if s.clientHandle.isSome then s.KeepsHearing setup (s.getEvtMask setup &&& ~~~ setup.mExcludedMask)
    else modem.opens = true → modem.supportChecked = true →
      (s.opened modem).KeepsHearing setup (s.getEvtMask setup &&& ~~~ setup.mExcludedMask)
  | .ssr, s =>
    s.mResenders = [] ∧ (modem.opens = true → modem.supportChecked = true →
      (s.closeClient.opened modem).KeepsHearing setup (s.getEvtMask setup &&& ~~~ setup.mExcludedMask))
  | .close, s => s.mResenders = []
  | .startTimeBasedTracking _, s => KeepsHearing setup s.mMask { s with mInSession := true }
  | .stopFix, s => s.mEngineOn = true ∨ KeepsHearing setup s.mMask { s with mInSession := false }
  | .stopTimeBasedTracking, s =>
    modem.stops = true → s.mEngineOn = true ∨ KeepsHearing setup s.mMask { s with mInSession := false }
  | .updateEngineState engineOn, s =>
    engineOn = true → KeepsHearing setup s.mMask { s with mEngineOn := true }
  | .send _, _ => True

/-- The modem takes the registrations that come with a message. -/
def Takes : LocMsg Adapter Request → Prop
  | .startTimeBasedTracking req | .send req => req.registers = true
  | _ => True

theorem awaited_proc_iff (msg : LocMsg Adapter Request) (takes : modem.registers = true)
    (wifi : modem.wifiStatus.busy = false) (constellation : modem.constellation.busy = false)
    (checks : ∀ req ∈ modem.checks, req.registers = true) (msgTakes : Takes msg) (shut : s.Shut)
    (inTouch : s.InTouch setup) (awaited : s.Awaited) :
    ((msg.proc setup modem).next s).Awaited ↔ KeepsAwaiting setup modem msg s := by
  have registering {s : System Adapter Request} (awaited : s.Awaited) :
      (s.registerEventMask setup modem s.mMask).Awaited ↔ s.KeepsHearing setup s.mMask :=
    awaited_registerEventMask_iff takes wifi constellation awaited
  have stopping : (s.stopSession setup modem).Awaited ↔
      s.mEngineOn = true ∨ KeepsHearing setup s.mMask { s with mInSession := false } := by
    rw [stopSession]
    cases on : s.mEngineOn with
    | true => exact iff_of_true awaited (.inl rfl)
    | false =>
      rw [or_iff_right Bool.false_ne_true]
      have stopped : Awaited { s with mInSession := false } := awaited
      simpa [on] using registering stopped
  cases msg with
  | «open» mAdapter =>
    rw [LocMsg.next_open]
    exact awaited_openClient_iff takes wifi constellation checks shut awaited
  | ssr =>
    rw [LocMsg.next_ssr]
    by_cases none : s.mResenders = []
    · have closed : s.closeClient.Shut := fun _ => ⟨rfl, rfl⟩
      have ready : s.closeClient.Awaited := .of_nil none
      exact (awaited_openClient_iff takes wifi constellation checks closed ready).trans (and_iff_right none).symm
    · refine iff_of_false (not_awaited_openClient wifi constellation rfl none rfl) fun both => none both.1
  | close =>
    constructor
    · intro after
      by_contra some
      obtain ⟨m, handle, -⟩ := after some
      cases handle
    · exact fun none => .of_nil none
  | startTimeBasedTracking req =>
    have started : Awaited { s with mInSession := true } := awaited
    have registered : Registered setup modem s.mMask { s with mInSession := true } _ := registerEventMask_registered _
    have registers := (registered.inTouch takes wifi constellation inTouch.registers shut).1
    exact (awaited_locSyncSendReq_iff registers msgTakes).trans (registering started)
  | stopFix => exact stopping
  | stopTimeBasedTracking =>
    change (if modem.stops then s.stopSession setup modem else s).Awaited ↔ _
    split_ifs with stops
    · exact stopping.trans ⟨fun keeps _ => keeps, fun keeps => keeps stops⟩
    · exact iff_of_true awaited fun stopping => absurd stopping stops
  | updateEngineState engineOn =>
    cases engineOn with
    | true =>
      have on : Awaited { s with mEngineOn := true } := awaited
      exact (registering on).trans ⟨fun keeps _ => keeps, fun keeps => keeps rfl⟩
    | false =>
      rw [LocMsg.next_engineOff]
      exact iff_of_true (.of_nil rfl) fun off => absurd off Bool.false_ne_true
  | send req => exact iff_of_true (awaited.locSyncSendReq inTouch.registers msgTakes) trivial

/-- The modem takes every registration, and is not busy with the requests that go with that for the adapters' events. -/
def Registering (s : System Adapter Request) (e : Event Adapter Request) : Prop :=
  Orderly e ∧ ∀ modem, e = .proc modem →
    (∀ req ∈ modem.checks, req.registers = true) ∧ ∀ msg rest, s.msgs = msg :: rest → Takes msg

/-- When a step keeps it that way. -/
def StepKeepsAwaiting (setup : Setup Adapter) (s : System Adapter Request) (e : Event Adapter Request) : Prop :=
  ∀ modem msg rest, e = .proc modem → s.msgs = msg :: rest → KeepsAwaiting setup modem msg { s with msgs := rest }

variable [DecidableEq Adapter]

/-- What the modem says of its engine then reaches the task. -/
theorem Awaited.reported (awaited : s.Awaited) (kept : s.mResenders ≠ []) (engineOn : Bool) :
    s.step setup (.reportEngineState engineOn) = s.sendMsg (.updateEngineState engineOn) := by
  obtain ⟨m, handle, has⟩ := awaited kept
  have hears : s.hearsEngineState = true := by
    rw [hearsEngineState, handle, Option.any_some]
    exact bne_iff_ne.mpr has
  change (if s.hearsEngineState then s.sendMsg (.updateEngineState engineOn) else s) = _
  exact if_pos hears

theorem awaited_step_iff {e : Event Adapter Request} (registering : s.Registering e) (tabled : s.Tabled)
    (shut : s.Shut) (inTouch : s.InTouch setup) (awaited : s.Awaited) :
    (s.step setup e).Awaited ↔ s.StepKeepsAwaiting setup e := by
  by_cases runs : ∃ modem, e = .proc modem
  · obtain ⟨modem, rfl⟩ := runs
    obtain ⟨⟨takes, wifi, constellation⟩, checks, head⟩ := And.imp (· modem rfl) (· modem rfl) registering
    cases msgs : s.msgs with
    | nil =>
      have idle : s.step setup (.proc modem) = s := by
        simp only [step, Event.happen, runTask, Emit.next_bind, Emit.next_get, Emit.result_get, msgs, Emit.next_pure]
      rw [idle]
      refine iff_of_true awaited fun _ _ _ _ some => ?_
      cases msgs.symm.trans some
    | cons msg rest =>
      have taken : s.step setup (.proc modem) = (msg.proc setup modem).next { s with msgs := rest } := by
        simp only [step, Event.happen, runTask, Emit.next_bind, Emit.next_get, Emit.result_get, msgs, Emit.next_modify]
      have before : Awaited { s with msgs := rest } := awaited
      have shut : Shut { s with msgs := rest } := shut
      have inTouch : InTouch setup { s with msgs := rest } := ⟨inTouch.registers, inTouch.fits⟩
      rw [taken, awaited_proc_iff msg takes wifi constellation checks (head msg rest msgs) shut inTouch before]
      constructor
      · rintro keeps _ _ _ ⟨⟩ same
        cases msgs.symm.trans same
        exact keeps
      · exact fun keeps => keeps modem msg rest rfl msgs
  · obtain ⟨resent, change⟩ : ∃ resent, Change setup s e (s.step setup e) resent := ⟨_, step_change tabled e⟩
    refine iff_of_true ?_ fun modem _ _ same => absurd ⟨modem, same⟩ runs
    generalize s.step setup e = s' at change
    cases change with
    | posted => exact awaited
    | notAdded | notRemoved => exact awaited
    | added absent room tabled adapters same | removed member tabled adapters same =>
      rw [same]
      exact awaited
    | @idle modem | @handled modem => exact absurd ⟨modem, rfl⟩ runs

/-- Throughout a run in which the modem takes every registration it says when its engine is off while a request is kept
exactly when no client is closed then and no registering for the events of the adapters takes that back. -/
theorem awaited_iff (setup : Setup Adapter) (events : List (Event Adapter Request))
    (registering : EachStep (step setup) Registering (initial Adapter Request) events) :
    Throughout (step setup) Awaited (initial Adapter Request) events ↔
      EachStep (step setup) (StepKeepsAwaiting setup) (initial Adapter Request) events := by
  have inTouch : (initial Adapter Request).InTouch setup := inTouch_of_closed rfl rfl rfl
  refine throughout_iff_eachStep_of (I := fun s => s.Tabled ∧ s.Shut ∧ s.InTouch setup) registering
    ⟨tabled_initial, fun _ => ⟨rfl, rfl⟩, inTouch⟩ ?_ (.of_nil rfl) ?_
  · rintro s e ⟨tabled, shut, inTouch⟩ registering
    have change : Change setup s e _ _ := step_change tabled e
    exact ⟨change.tabled tabled, change.shut shut, change.inTouch registering.1 inTouch shut⟩
  · rintro s e ⟨tabled, shut, inTouch⟩ registering awaited
    exact awaited_step_iff registering tabled shut inTouch awaited

section Examples

/-- A request is kept, and an adapter asks for Wi-Fi. -/
def forgotten : List (Event ℕ Unit) :=
  [.construct 0 0, .addAdapter 0, .proc willing, .send ⟨(), true, true, true⟩, .proc willing,
    .updateEvtMask 0 (AdapterBit.mask .requestWifi) .enabled, .proc willing]

theorem willing_registering {s : System ℕ Unit} {msg : LocMsg ℕ Unit} {rest : List (LocMsg ℕ Unit)}
    (head : s.msgs = msg :: rest) (takes : Takes msg) : s.Registering (.proc willing) := by
  refine ⟨willing_orderly, ?_⟩
  rintro _ ⟨⟩
  refine ⟨fun req member => absurd member List.not_mem_nil, fun msg' rest' same => ?_⟩
  cases head.symm.trans same
  exact takes

theorem not_awaited_forgotten :
    ¬ Throughout (step ⟨fun _ => true, 0, false⟩) Awaited (initial ℕ Unit) forgotten := by
  have silent {s : System ℕ Unit} {e : Event ℕ Unit} (sends : ∀ modem, e ≠ .proc modem) : s.Registering e :=
    ⟨fun modem same => absurd same (sends modem), fun modem same => absurd same (sends modem)⟩
  rw [awaited_iff]
  · intro each
    have last := each (forgotten.dropLast) (.proc willing) ⟨[], rfl⟩ willing _ _ rfl rfl
    rcases last with none | same | has
    · exact absurd none (by decide)
    · exact absurd same (by decide)
    · exact has (by decide)
  · exact eachStep_cons (silent (by rintro _ ⟨⟩)) (eachStep_cons (silent (by rintro _ ⟨⟩))
      (eachStep_cons (willing_registering rfl trivial) (eachStep_cons (silent (by rintro _ ⟨⟩))
        (eachStep_cons (willing_registering rfl rfl) (eachStep_cons (silent (by rintro _ ⟨⟩))
          (eachStep_cons (willing_registering rfl trivial) eachStep_nil))))))

end Examples

end System

end Cypfr.LocApi
