import Cypfr.Model.LocationClientApi
import Cypfr.Proofs.LocHalDaemon
import Cypfr.Proofs.LocationApiService

/-! # What the daemon is to a client

To its client the daemon is a peer that knows the client or not, runs a session for it or not, and has a mask of its
callbacks. What the daemon does with a message is what the peer does. With the messages that are still under way the
peer is ahead of the daemon: it is what the daemon will be once it has read them.
-/

namespace Cypfr.ClientApi

open Tracking HalDaemon LocationApiService LocHalDaemonClientHandler

/-- Options of a session but for the field of their size. -/
def sized (options : TrackingOptions) : TrackingOptions := { options with size := sizeofTrackingOptions }

/-- What the engines are asked for when a client asks the daemon for options. -/
def asked (mode : GnssSuplMode) (options : LocationOptions) : TrackingOptions :=
  supported (TrackingOptions.zero.setLocationOptions { overWire options with mode := mode })

theorem sized_supported (mode : GnssSuplMode) (options : LocationOptions) :
    sized (supported (ofLocationOptions { overWire options with mode := mode })) = asked mode options := rfl

/-- What is asked for depends on nothing else than what makes an update. -/
theorem asked_congr {mode : GnssSuplMode} {kept option : LocationOptions} (same : ¬ IsOptionUpdated kept option) :
    asked mode kept = asked mode option := by
  obtain ⟨interval, distance, engines⟩ : kept.minInterval = option.minInterval ∧ kept.minDistance = option.minDistance ∧
      kept.locReqEngTypeMask = option.locReqEngTypeMask := by
    simpa only [IsOptionUpdated, not_or, not_not, ne_eq] using same
  rw [asked, asked, overWire, overWire, interval, distance, engines]

theorem isPassive_congr {kept option : LocationOptions} (same : ¬ IsOptionUpdated kept option) :
    IsPassive kept ↔ IsPassive option := by
  obtain ⟨interval, distance, -⟩ : kept.minInterval = option.minInterval ∧ kept.minDistance = option.minDistance ∧
      kept.locReqEngTypeMask = option.locReqEngTypeMask := by
    simpa only [IsOptionUpdated, not_or, not_not, ne_eq] using same
  rw [IsPassive, IsPassive, interval, distance]

/-- The daemon as one client sees it. -/
structure Peer where
  registered : Bool
  session : Option TrackingOptions
  mask : UInt32
deriving DecidableEq

namespace Peer

/-- A daemon that does not know the client. -/
def stranger : Peer := ⟨false, none, 0⟩

/-- What a peer does with a message: one that does not know the client only takes its registration. A start leaves a
session that runs as it is, an update needs one. -/
def receive (mode : GnssSuplMode) (p : Peer) (msg : ClientMsg) : Peer :=
  match p.registered, msg with
  | false, .clientRegister => { p with registered := true }
  | false, _ | true, .clientRegister => p
  | true, .updateCallbacks mask => { p with mask := mask }
  | true, .startTracking options => { p with session := some (p.session.getD (asked mode options)) }
  | true, .updateTrackingOptions options => { p with session := p.session.map fun _ => asked mode options }
  | true, .stopTracking => { p with session := none, mask := p.mask &&& ~~~ LOCATION_SESSON_ALL_INFO_MASK }

variable {mode : GnssSuplMode} {p : Peer} {msg : ClientMsg} {msgs : List ClientMsg}

theorem receive_stranger (unknown : p.registered = false) (other : msg ≠ .clientRegister) : p.receive mode msg = p := by
  cases msg <;> simp only [receive, unknown] at other ⊢
  exact absurd rfl other

theorem receive_register : p.receive mode .clientRegister = { p with registered := true } := by
  cases p with
  | mk registered session mask => cases registered <;> rfl

/-- A peer that knows the client goes on to know it. -/
theorem registered_receive (known : p.registered = true) : (p.receive mode msg).registered = true := by
  cases msg <;> simp only [receive, known]

theorem registered_foldl (known : p.registered = true) : (msgs.foldl (receive mode) p).registered = true := by
  induction msgs generalizing p with
  | nil => exact known
  | cons msg rest ih => exact ih (registered_receive known)

end Peer

section Tasks

variable {impl impl' : LocationClientApiImpl} {outputs : List ClientOutput} {option : LocationOptions}

/-- What a start comes to: without the daemon it is only kept, without a session it is new; otherwise it is an update,
or nothing but an answer. -/
inductive Started (impl : LocationClientApiImpl) (option : LocationOptions) (impl' : LocationClientApiImpl)
    (sent : List ClientMsg) : Prop
  | kept (deaf : impl.mHalRegistered = false)
      (after : impl' = { impl with mLocationOptions := option, mSessionId := impl.mClientId }) (none : sent = [])
  | new (registered : impl.mHalRegistered = true) (idle : impl.mSessionId = 0)
      (after : impl' = { impl with mLocationOptions := option, mSessionId := impl.mClientId })
      (start : sent = if IsPassive option then [] else [.startTracking option])
  | updated (registered : impl.mHalRegistered = true) (runs : impl.mSessionId ≠ 0)
      (changed : IsOptionUpdated impl.mLocationOptions option)
      (after : impl' = { impl with mLocationOptions := option })
      (update : sent =
        if IsPassive option ∧ ¬ IsPassive impl.mLocationOptions then [.stopTracking]
        else if ¬ IsPassive option ∧ IsPassive impl.mLocationOptions then [.startTracking option]
        else [.updateTrackingOptions option])
  | same (registered : impl.mHalRegistered = true) (runs : impl.mSessionId ≠ 0)
      (unchanged : ¬ IsOptionUpdated impl.mLocationOptions option)
      (after : impl' = { impl with mPositionSessionResponseCbPending := false }) (none : sent = [])

theorem invokePositionSessionResponseCb_eq (impl : LocationClientApiImpl) (response : LocationResponse) :
    (LocationClientApiImpl.invokePositionSessionResponseCb response).next impl =
        { impl with mPositionSessionResponseCbPending := false } ∧
      sentMsgs ((LocationClientApiImpl.invokePositionSessionResponseCb response).emitted impl) = [] ∧
      postedTasks ((LocationClientApiImpl.invokePositionSessionResponseCb response).emitted impl) = [] := by
  rw [LocationClientApiImpl.invokePositionSessionResponseCb, Emit.next_get_bind, Emit.emitted_get_bind]
  by_cases pending : impl.mPositionSessionResponseCbPending = true
  · rw [if_pos pending]
    by_cases callback : impl.mResponseCb = true
    · rw [if_pos callback]
      exact ⟨rfl, rfl, rfl⟩
    · rw [if_neg callback]
      exact ⟨rfl, rfl, rfl⟩
  · rw [if_neg pending]
    refine ⟨?_, rfl, rfl⟩
    rw [Emit.next_pure, ← Bool.eq_false_of_not_eq_true pending]

theorem startTracking_started (impl : LocationClientApiImpl) (option : LocationOptions) :
    Started impl option ((LocationClientApiImpl.startTracking option).next impl)
        (sentMsgs ((LocationClientApiImpl.startTracking option).emitted impl)) ∧
      postedTasks ((LocationClientApiImpl.startTracking option).emitted impl) = [] := by
  rw [LocationClientApiImpl.startTracking, Emit.next_get_bind, Emit.emitted_get_bind]
  by_cases deaf : impl.mHalRegistered = false
  · rw [if_pos deaf]
    exact ⟨.kept deaf rfl rfl, rfl⟩
  · rw [if_neg deaf]
    have registered : impl.mHalRegistered = true := Bool.eq_true_of_not_eq_false deaf
    by_cases idle : impl.mSessionId = 0
    · rw [if_pos idle]
      by_cases passive : IsPassive option
      · rw [if_pos passive]
        exact ⟨.new registered idle rfl (if_pos passive).symm, rfl⟩
      · rw [if_neg passive]
        exact ⟨.new registered idle rfl (if_neg passive).symm, rfl⟩
    · rw [if_neg idle]
      by_cases changed : IsOptionUpdated impl.mLocationOptions option
      · rw [if_pos changed, LocationClientApiImpl.updateTrackingOptionsSync, Emit.next_get_bind, Emit.emitted_get_bind]
        by_cases stops : IsPassive option ∧ ¬ IsPassive impl.mLocationOptions
        · rw [if_pos stops]
          exact ⟨.updated registered idle changed rfl (if_pos stops).symm, rfl⟩
        · rw [if_neg stops]
          by_cases starts : ¬ IsPassive option ∧ IsPassive impl.mLocationOptions
          · rw [if_pos starts]
            exact ⟨.updated registered idle changed rfl ((if_neg stops).trans (if_pos starts)).symm, rfl⟩
          · rw [if_neg starts]
            exact ⟨.updated registered idle changed rfl ((if_neg stops).trans (if_neg starts)).symm, rfl⟩
      · rw [if_neg changed]
        obtain ⟨after, none, posted⟩ :=
          invokePositionSessionResponseCb_eq impl .LOCATION_RESPONSE_SUCCESS
        exact ⟨.same registered idle changed after none, posted⟩

/-- A message that leaves the session alone: it may change the callbacks, and tells a daemon that knows the client. -/
structure Subscribes (impl impl' : LocationClientApiImpl) (sent : List ClientMsg) : Prop where
  session : impl'.mSessionId = impl.mSessionId
  client : impl'.mClientId = impl.mClientId
  options : impl'.mLocationOptions = impl.mLocationOptions
  registered : impl'.mHalRegistered = impl.mHalRegistered
  told : sent = [] ∧ impl'.mCallbacksMask = impl.mCallbacksMask ∨
    sent = if impl.mHalRegistered then [.updateCallbacks impl'.mCallbacksMask] else []

/-- A session of the client that the daemon has been told of. -/
def Told (impl : LocationClientApiImpl) : Prop :=
  impl.mSessionId = impl.mClientId ∧ impl.mHalRegistered = true ∧ ¬ IsPassive impl.mLocationOptions

instance (impl : LocationClientApiImpl) : Decidable (Told impl) := inferInstanceAs (Decidable (_ ∧ _))

/-- The client after a stop. -/
def stopped (impl : LocationClientApiImpl) : LocationClientApiImpl :=
  if impl.mSessionId = impl.mClientId then
    { impl with
      mLocationOptions := { impl.mLocationOptions with minInterval := 0, minDistance := 0 }
      mCallbacksMask := if impl.mLocationSysInfoCb then E_LOC_CB_SYSTEM_INFO_BIT else 0
      mSessionId := 0 }
  else
    { impl with mSessionId := 0 }

/-- What a message of the client's task comes to. -/
inductive Effect (impl : LocationClientApiImpl) : Task → LocationClientApiImpl → List ClientMsg → List Task → Prop
  | start {option : TrackingOptions} {impl' : LocationClientApiImpl} {sent : List ClientMsg}
      (started : Started impl option.toLocationOptions impl' sent) : Effect impl (.startTracking option) impl' sent []
  | stop : Effect impl .stopTracking (stopped impl) (if Told impl then [.stopTracking] else []) []
  | functions (responsecb locationcb : Bool) {impl' : LocationClientApiImpl} (plain : Subscribes impl impl' []) :
      Effect impl (.updateCallbackFunctions responsecb locationcb) impl' [] []
  | callbacks (callbacks : LocationCallbacks) {impl' : LocationClientApiImpl} {sent : List ClientMsg}
      (plain : Subscribes impl impl' sent) : Effect impl (.updateCallbacks callbacks) impl' sent []
  | listener (sysInfoCb : Bool) {impl' : LocationClientApiImpl} {sent : List ClientMsg}
      (plain : Subscribes impl impl' sent) : Effect impl (.updateLocationSystemInfoListener sysInfoCb) impl' sent []
  | response (msgId : ELocMsgID) (err : LocationError) {impl' : LocationClientApiImpl}
      (plain : Subscribes impl impl' []) : Effect impl (.genericResp msgId err) impl' [] []
  | register : Effect impl .clientRegister impl [.clientRegister] []
  | capabilities : Effect impl .capabilities { impl with mHalRegistered := true, mSessionId := 0 }
      (if impl.mCallbacksMask ≠ 0 then [.updateCallbacks impl.mCallbacksMask] else [])
      (if impl.mSessionId ≠ 0 then [.startTracking (TrackingOptions.zero.setLocationOptions impl.mLocationOptions)]
       else [])
  | halReady : Effect impl .halReady { impl with mHalRegistered := false } [] [.clientRegister]

/-- Send to the daemon if the client is registered. -/
theorem sendIfRegistered_eq (impl : LocationClientApiImpl) (msg : LocationClientApiImpl → ClientMsg) :
    (LocationClientApiImpl.sendIfRegistered msg).next impl = impl ∧
      sentMsgs ((LocationClientApiImpl.sendIfRegistered msg).emitted impl) =
        (if impl.mHalRegistered then [msg impl] else []) ∧
      postedTasks ((LocationClientApiImpl.sendIfRegistered msg).emitted impl) = [] := by
  rw [LocationClientApiImpl.sendIfRegistered, Emit.next_get_bind, Emit.emitted_get_bind]
  by_cases registered : impl.mHalRegistered = true
  · rw [if_pos registered, if_pos registered]
    exact ⟨rfl, rfl, rfl⟩
  · rw [if_neg registered, if_neg registered]
    exact ⟨rfl, rfl, rfl⟩

theorem updateCallbacks_subscribes (impl : LocationClientApiImpl) (callbacks : LocationCallbacks) :
    Subscribes impl ((LocationClientApiImpl.updateCallbacks callbacks).next impl)
        (sentMsgs ((LocationClientApiImpl.updateCallbacks callbacks).emitted impl)) ∧
      postedTasks ((LocationClientApiImpl.updateCallbacks callbacks).emitted impl) = [] := by
  let pending : LocationClientApiImpl := { impl with mPositionSessionResponseCbPending := true }
  rw [LocationClientApiImpl.updateCallbacks, Emit.next_bind, Emit.emitted_bind, Emit.emitted_modify, List.nil_append,
    Emit.next_modify, Emit.next_get_bind, Emit.emitted_get_bind]
  by_cases changed : pending.mCallbacksMask ≠ pending.callBacksMask callbacks
  · rw [if_pos changed, Emit.next_bind, Emit.emitted_bind, Emit.emitted_modify, List.nil_append, Emit.next_modify]
    obtain ⟨after, sent, posted⟩ := sendIfRegistered_eq
      { pending with mCallbacksMask := pending.callBacksMask callbacks } fun impl =>
        .updateCallbacks impl.mCallbacksMask
    refine ⟨?_, posted⟩
    rw [after, sent]
    exact ⟨rfl, rfl, rfl, rfl, .inr rfl⟩
  · rw [if_neg changed]
    exact ⟨⟨rfl, rfl, rfl, rfl, .inl ⟨rfl, rfl⟩⟩, rfl⟩

theorem updateLocationSystemInfoListener_subscribes (impl : LocationClientApiImpl) (sysInfoCb : Bool) :
    Subscribes impl ((LocationClientApiImpl.updateLocationSystemInfoListener sysInfoCb).next impl)
        (sentMsgs ((LocationClientApiImpl.updateLocationSystemInfoListener sysInfoCb).emitted impl)) ∧
      postedTasks ((LocationClientApiImpl.updateLocationSystemInfoListener sysInfoCb).emitted impl) = [] := by
  rw [LocationClientApiImpl.updateLocationSystemInfoListener, Emit.next_get_bind, Emit.emitted_get_bind]
  by_cases changed : sysInfoCb ≠ impl.mLocationSysInfoCb
  · rw [if_pos changed, Emit.next_bind, Emit.emitted_bind, Emit.emitted_modify, List.nil_append, Emit.next_modify]
    obtain ⟨after, sent, posted⟩ := sendIfRegistered_eq
      { impl with
        mCallbacksMask :=
          if sysInfoCb then impl.mCallbacksMask ||| E_LOC_CB_SYSTEM_INFO_BIT
          else impl.mCallbacksMask &&& ~~~ E_LOC_CB_SYSTEM_INFO_BIT
        mLocationSysInfoCb := sysInfoCb } fun impl => .updateCallbacks impl.mCallbacksMask
    refine ⟨?_, posted⟩
    rw [after, sent]
    exact ⟨rfl, rfl, rfl, rfl, .inr rfl⟩
  · rw [if_neg changed]
    exact ⟨⟨rfl, rfl, rfl, rfl, .inl ⟨rfl, rfl⟩⟩, rfl⟩

theorem stopTracking_eq (impl : LocationClientApiImpl) : LocationClientApiImpl.stopTracking.next impl = stopped impl ∧
    sentMsgs (LocationClientApiImpl.stopTracking.emitted impl) = (if Told impl then [.stopTracking] else []) ∧
    postedTasks (LocationClientApiImpl.stopTracking.emitted impl) = [] := by
  rw [LocationClientApiImpl.stopTracking, Emit.next_get_bind, Emit.emitted_get_bind, stopped]
  by_cases own : impl.mSessionId = impl.mClientId
  · rw [if_pos own, if_pos own]
    by_cases told : impl.mHalRegistered = true ∧ ¬ IsPassive impl.mLocationOptions
    · rw [if_pos told, if_pos (show Told impl from ⟨own, told⟩)]
      exact ⟨rfl, rfl, rfl⟩
    · rw [if_neg told, if_neg (show ¬ Told impl from fun holds => told holds.2)]
      exact ⟨rfl, rfl, rfl⟩
  · rw [if_neg own, if_neg own, if_neg (show ¬ Told impl from fun holds => own holds.1)]
    exact ⟨rfl, rfl, rfl⟩

theorem capabilitesCallback_eq (impl : LocationClientApiImpl) : LocationClientApiImpl.capabilitesCallback.next impl =
      { impl with mHalRegistered := true, mSessionId := 0 } ∧
    sentMsgs (LocationClientApiImpl.capabilitesCallback.emitted impl) =
      (if impl.mCallbacksMask ≠ 0 then [.updateCallbacks impl.mCallbacksMask] else []) ∧
    postedTasks (LocationClientApiImpl.capabilitesCallback.emitted impl) =
      (if impl.mSessionId ≠ 0 then [.startTracking (TrackingOptions.zero.setLocationOptions impl.mLocationOptions)] else
        []) := by
  rw [LocationClientApiImpl.capabilitesCallback, Emit.next_bind, Emit.emitted_bind, Emit.emitted_modify,
    List.nil_append, Emit.next_modify, Emit.next_get_bind, Emit.emitted_get_bind]
  by_cases runs : impl.mSessionId ≠ 0
  · rw [if_pos runs, if_pos runs]
    by_cases mask : impl.mCallbacksMask ≠ 0
    · rw [if_pos mask, if_pos mask]
      exact ⟨rfl, rfl, rfl⟩
    · rw [if_neg mask, if_neg mask]
      exact ⟨rfl, rfl, rfl⟩
  · rw [if_neg runs, if_neg runs]
    have idle : impl.mSessionId = 0 := not_not.mp runs
    by_cases mask : impl.mCallbacksMask ≠ 0
    · rw [if_pos mask, if_pos mask, ← idle]
      exact ⟨rfl, rfl, rfl⟩
    · rw [if_neg mask, if_neg mask, ← idle]
      exact ⟨rfl, rfl, rfl⟩

theorem proc_effect (impl : LocationClientApiImpl) (task : Task) :
    Effect impl task (task.proc.next impl) (sentMsgs (task.proc.emitted impl))
    (postedTasks (task.proc.emitted impl)) := by
  cases task with
  | updateCallbackFunctions responsecb locationcb =>
    exact .functions responsecb locationcb ⟨rfl, rfl, rfl, rfl, .inl ⟨rfl, rfl⟩⟩
  | updateCallbacks callbacks =>
    obtain ⟨plain, posted⟩ := updateCallbacks_subscribes impl callbacks
    exact posted ▸ .callbacks callbacks plain
  | updateLocationSystemInfoListener sysInfoCb =>
    obtain ⟨plain, posted⟩ := updateLocationSystemInfoListener_subscribes impl sysInfoCb
    exact posted ▸ .listener sysInfoCb plain
  | startTracking option =>
    obtain ⟨started, posted⟩ := startTracking_started impl option.toLocationOptions
    exact posted ▸ .start started
  | stopTracking =>
    obtain ⟨after, sent, posted⟩ := stopTracking_eq impl
    rw [Task.proc, after, sent, posted]
    exact .stop
  | clientRegister => exact .register
  | capabilities =>
    obtain ⟨after, sent, posted⟩ := capabilitesCallback_eq impl
    rw [Task.proc, after, sent, posted]
    exact .capabilities
  | halReady => exact .halReady
  | genericResp msgId err =>
    by_cases stop : msgId = .E_LOCAPI_STOP_TRACKING_MSG_ID
    · rw [Task.proc, if_pos stop]
      exact .response msgId err ⟨rfl, rfl, rfl, rfl, .inl ⟨rfl, rfl⟩⟩
    · obtain ⟨after, sent, posted⟩ := invokePositionSessionResponseCb_eq impl (parseLocationError err)
      rw [Task.proc, if_neg stop, after, sent, posted]
      exact .response msgId err ⟨rfl, rfl, rfl, rfl, .inl ⟨rfl, rfl⟩⟩

end Tasks

section Handlers

variable {h : LocHalDaemonClientHandler} {session : Option TrackingOptions} {mode : GnssSuplMode} {id : UInt32}

/-- What the service does with the handler of a client for a message of its own. -/
def ClientMsg.handle (mode : GnssSuplMode) (id : UInt32) : ClientMsg → HandlerM Unit
  | .clientRegister => pure ()
  | .updateCallbacks locationCallbacks => updateSubscription locationCallbacks
  | .startTracking locOptions => startTrackingHandler { overWire locOptions with mode := mode } id
  | .updateTrackingOptions locOptions => updateTrackingOptionsHandler { overWire locOptions with mode := mode }
  | .stopTracking => stopTrackingHandler

/-- The handler uses `LocationAPI`, and has an identifier of the session that this runs for it. -/
structure Tied (h : LocHalDaemonClientHandler) (session : Option TrackingOptions) : Prop where
  api : h.mLocationApi = true
  running : h.mSessionId ≠ 0 ↔ session.isSome = true

/-- A handler and its session as the client sees them. -/
def ofHandler (h : LocHalDaemonClientHandler) (session : Option TrackingOptions) : Peer :=
  ⟨true, session.map sized, h.mSubscriptionMask⟩

/-- A program on a handler keeps it tied to its session and does with both what a peer does with a message. -/
def Answers (mode : GnssSuplMode) (msg : ClientMsg) (p : HandlerM Unit) (h : LocHalDaemonClientHandler)
    (session : Option TrackingOptions) : Prop :=
  Tied (p.next h) ((p.emitted h).foldl apiSession session) ∧
    ofHandler (p.next h) ((p.emitted h).foldl apiSession session) = (ofHandler h session).receive mode msg

theorem answers_of_eq {p : HandlerM Unit} {msg : ClientMsg} {h' : LocHalDaemonClientHandler}
    {outputs : List HandlerOutput}
    (session' : Option TrackingOptions) (ran : p h = ((), h', outputs)) (after : outputs.foldl apiSession session =
    session')
    (tied : Tied h' session') (same : ofHandler h' session' = (ofHandler h session).receive mode msg) :
    Answers mode msg p h session := by
  rw [Answers, Emit.next, Emit.emitted, ran, after]
  exact ⟨tied, same⟩

theorem answers_startTracking {options : LocationOptions} (tied : Tied h session) (nonzero : id ≠ 0) :
    Answers mode (.startTracking options) ((ClientMsg.startTracking options).handle mode id) h session := by
  by_cases idle : h.mSessionId = 0
  · have started := startTrackingWith_of_start { overWire options with mode := mode } id ⟨idle, tied.api⟩
    have none : session = none := by
      rw [← Option.not_isSome_iff_eq_none, ← tied.running, not_not]
      exact idle
    subst none
    refine answers_of_eq _ (startTrackingHandler_of_ne_zero started nonzero) rfl ⟨tied.api, iff_of_true nonzero rfl⟩ ?_
    rfl
  · have repeated := startTrackingWith_of_not { overWire options with mode := mode } id fun starts => idle starts.1
    obtain ⟨running, rfl⟩ := Option.isSome_iff_exists.mp (tied.running.mp idle)
    refine answers_of_eq _ (startTrackingHandler_of_ne_zero repeated idle) rfl ⟨tied.api, iff_of_true idle rfl⟩ ?_
    rfl

theorem answers_updateTrackingOptions {options : LocationOptions} (tied : Tied h session) :
    Answers mode (.updateTrackingOptions options) ((ClientMsg.updateTrackingOptions options).handle mode id) h
    session := by
  by_cases idle : h.mSessionId = 0
  · have kept := updateTrackingOptions_of_not { overWire options with mode := mode } fun runs => runs.1 idle
    have none : session = none := by
      rw [← Option.not_isSome_iff_eq_none, ← tied.running, not_not]
      exact idle
    subst none
    exact answers_of_eq _ (updateTrackingOptionsHandler_eq kept) rfl ⟨tied.api, tied.running⟩ rfl
  · have updated := updateTrackingOptions_of_running { overWire options with mode := mode } ⟨idle, tied.api⟩
    obtain ⟨running, rfl⟩ := Option.isSome_iff_exists.mp (tied.running.mp idle)
    exact answers_of_eq _ (updateTrackingOptionsHandler_eq updated) rfl ⟨tied.api, iff_of_true idle rfl⟩ rfl

theorem answers_stopTracking (tied : Tied h session) :
    Answers mode .stopTracking (ClientMsg.stopTracking.handle mode id) h session := by
  have api := tied.api
  by_cases idle : h.mSessionId = 0
  · have stopped := stopTracking_of_not (h := untracked h) fun runs => runs.1 idle
    have none : session = none := by
      rw [← Option.not_isSome_iff_eq_none, ← tied.running, not_not]
      exact idle
    subst none
    refine answers_of_eq none (stopTrackingHandler_eq stopped) ?_ ⟨api, tied.running⟩ rfl
    rw [api]
    rfl
  · have stopped := stopTracking_of_running (h := untracked h) ⟨idle, api⟩
    refine answers_of_eq none (stopTrackingHandler_eq stopped) ?_ ⟨api, iff_of_false (not_not.mpr rfl) nofun⟩ rfl
    rw [api]
    rfl

theorem answers_updateCallbacks {mask : UInt32} (tied : Tied h session) :
    Answers mode (.updateCallbacks mask) ((ClientMsg.updateCallbacks mask).handle mode id) h session := by
  refine answers_of_eq session (updateSubscription_eq mask) ?_ ⟨tied.api, tied.running⟩ rfl
  rw [tied.api]
  rfl

/-- The handler does with a message of its client what a peer does. -/
theorem answers_handle (mode : GnssSuplMode) (msg : ClientMsg) (tied : Tied h session) (nonzero : id ≠ 0) :
    Answers mode msg (msg.handle mode id) h session := by
  cases msg with
  | clientRegister => exact answers_of_eq _ rfl rfl tied rfl
  | updateCallbacks mask => exact answers_updateCallbacks tied
  | startTracking options => exact answers_startTracking tied nonzero
  | updateTrackingOptions options => exact answers_updateTrackingOptions tied
  | stopTracking => exact answers_stopTracking tied

end Handlers

/-- A client with the daemon as it sees it: what the task of the client and the daemon have yet to take, and whether the
capabilities are owed. -/
structure Link where
  impl : LocationClientApiImpl
  tasks : List Task
  toDaemon : List ClientMsg
  peer : Peer
  owed : Bool

/-- What may happen to one client and the daemon. -/
inductive Move where
  | call (c : UserCall)
  | proc
  | read
  | capabilities
  | answer (responses : List (ELocMsgID × LocationError))
  | restart
  | elsewhere

namespace Link

variable (mode : GnssSuplMode)

/-- What the daemon will be to the client once it has read what is under way. -/
def ahead (l : Link) : Peer := l.toDaemon.foldl (Peer.receive mode) l.peer

def move (l : Link) : Move → Link
  | .call c => { l with tasks := l.tasks ++ [c.task] }
  | .proc =>
    match l.tasks with
    | [] => l
    | task :: rest =>
      { l with
        impl := task.proc.next l.impl
        tasks := rest ++ postedTasks (task.proc.emitted l.impl)
        toDaemon := l.toDaemon ++ sentMsgs (task.proc.emitted l.impl) }
  | .read =>
    match l.toDaemon with
    | [] => l
    | msg :: rest =>
      { l with
        toDaemon := rest
        peer := l.peer.receive mode msg
        owed := l.owed || (msg == .clientRegister && !l.peer.registered) }
  | .capabilities =>
    if l.peer.registered then { l with tasks := l.tasks ++ [.capabilities], owed := false } else l
  | .answer responses => { l with tasks := l.tasks ++ responses.map fun r => .genericResp r.1 r.2 }
  | .restart => { l with tasks := l.tasks ++ [.halReady], toDaemon := [], peer := .stranger, owed := false }
  | .elsewhere => l

variable {mode} {l : Link} {task : Task} {msg : ClientMsg}

theorem move_proc_nil (head : l.tasks = []) : l.move mode .proc = l := by rw [move, head]

theorem move_proc_cons {rest : List Task} (head : l.tasks = task :: rest) : l.move mode .proc =
    { l with
      impl := task.proc.next l.impl
      tasks := rest ++ postedTasks (task.proc.emitted l.impl)
      toDaemon := l.toDaemon ++ sentMsgs (task.proc.emitted l.impl) } := by
  rw [move, head]

theorem move_read_nil (head : l.toDaemon = []) : l.move mode .read = l := by rw [move, head]

theorem move_read_cons {rest : List ClientMsg} (head : l.toDaemon = msg :: rest) : l.move mode .read =
    { l with
      toDaemon := rest
      peer := l.peer.receive mode msg
      owed := l.owed || (msg == .clientRegister && !l.peer.registered) } := by
  rw [move, head]

end Link

section System

variable {Client : Type} [DecidableEq Client]

namespace System

/-- The daemon as a client sees it. -/
def peer (s : System Client) (client : Client) : Peer :=
  (s.service.getClient client).elim .stranger fun h => ofHandler h (s.session client)

def link (s : System Client) (client : Client) : Link :=
  ⟨s.impl client, s.tasks client, s.toDaemon client, s.peer client, s.owed client⟩

/-- The handler of the client is tied to its session; without a handler there is none. -/
def Served (s : System Client) (client : Client) : Prop :=
  (s.service.getClient client).elim (s.session client = none) fun h => Tied h (s.session client)

/-- The answers that a client gets when `LocationAPI` answers its handler. -/
def responses (s : System Client) (client : Client) (err : LocationError) : List (ELocMsgID × LocationError) :=
  ((s.service.getClient client).elim [] fun h => (onResponseCb err).emitted h).filterMap fun
    | .genericResp msgId err => some (msgId, err)
    | _ => none

/-- What a step of the system is to one client. -/
def moveOf (s : System Client) (client : Client) : Event Client → Move
  | .call other c => if other = client then .call c else .elsewhere
  | .proc other => if other = client then .proc else .elsewhere
  | .read other _ => if other = client then .read else .elsewhere
  | .capabilities other => if other = client then .capabilities else .elsewhere
  | .answer other err => if other = client then .answer (s.responses client err) else .elsewhere
  | .restart => .restart

variable {s : System Client} {client other : Client} {h : LocHalDaemonClientHandler} {msg : ClientMsg} {id : UInt32}

theorem peer_of_none (absent : s.service.getClient client = none) : s.peer client = .stranger := by
  rw [peer, absent, Option.elim_none]

theorem peer_of_some (present : s.service.getClient client = some h) :
    s.peer client = ofHandler h (s.session client) := by
  rw [peer, present, Option.elim_some]

theorem registered_peer : (s.peer client).registered = (s.service.getClient client).isSome := by
  cases present : s.service.getClient client with
  | none => rw [peer_of_none present]; rfl
  | some h => rw [peer_of_some present]; rfl

/-- A message other than the registration uses the handler of the client. -/
theorem serve_eq_onClient (s : System Client) (client : Client) (id : UInt32) (other : msg ≠ .clientRegister) :
    (msg.serve client id).next s.service =
        (onClient client (msg.handle s.service.mPositionMode id)).next s.service ∧
      (msg.serve client id).emitted s.service =
        (onClient client (msg.handle s.service.mPositionMode id)).emitted s.service := by
  cases msg with
  | clientRegister => exact absurd rfl other
  | updateCallbacks mask => exact ⟨rfl, List.append_nil _⟩
  | startTracking options => exact ⟨rfl, List.append_nil _⟩
  | updateTrackingOptions options => exact ⟨rfl, List.append_nil _⟩
  | stopTracking => exact ⟨rfl, List.append_nil _⟩

/-- The outputs of a handler act on the session of their client. -/
theorem foldl_clientSession (outputs : List HandlerOutput) (session : Option TrackingOptions) :
    (outputs.map (ServiceOutput.handler client)).foldl (clientSession client) session =
    outputs.foldl apiSession session := by
  rw [List.foldl_map]
  refine congrArg (fun f => outputs.foldl f session) ?_
  funext session output
  exact if_pos rfl

/-- After the daemon has read a message. -/
def served (s : System Client) (client : Client) (msg : ClientMsg) (id : UInt32) (rest : List ClientMsg) :
    System Client :=
  { s with
    toDaemon := Function.update s.toDaemon client rest
    service := (msg.serve client id).next s.service
    session := Function.update s.session client
      (((msg.serve client id).emitted s.service).foldl (clientSession client) (s.session client))
    owed := Function.update s.owed client
      (s.owed client || (msg == .clientRegister && (s.service.getClient client).isNone)) }

theorem read_cons {rest : List ClientMsg} (head : s.toDaemon client = msg :: rest) :
    s.read client id = s.served client msg id rest := by
  rw [read, head]
  rfl

/-- The daemon does with a message what the peer does. -/
theorem served_self (msg : ClientMsg) (rest : List ClientMsg) (served : s.Served client) (nonzero : id ≠ 0) :
    (s.served client msg id rest).Served client ∧
      (s.served client msg id rest).peer client = (s.peer client).receive s.service.mPositionMode msg := by
  have session : (s.served client msg id rest).session client =
      ((msg.serve client id).emitted s.service).foldl (clientSession client) (s.session client) :=
    Function.update_self ..
  cases present : s.service.getClient client with
  | none =>
    rw [Served, present, Option.elim_none] at served
    by_cases register : msg = .clientRegister
    · subst register
      have absent : client ∉ s.service.mClients := LocationApiService.getClient_eq_none.mp present
      have new : (s.served client .clientRegister id rest).service.getClient client =
          some (construct true) := by
        have inserted : ((newClient client true).next s.service).mClients =
            s.service.mClients.insert client (construct true) := congrArg LocationApiService.mClients (if_neg absent)
        exact (congrArg (AList.lookup client) inserted).trans (AList.lookup_insert _)
      have none : (s.served client .clientRegister id rest).session client = none := session.trans served
      rw [Served, peer_of_some new, new, Option.elim_some, none, peer_of_none present, Peer.receive_register]
      exact ⟨⟨rfl, iff_of_false (not_not.mpr rfl) nofun⟩, rfl⟩
    · obtain ⟨next, emitted⟩ := serve_eq_onClient s client id register
      have still : (s.served client msg id rest).service.getClient client = none := by
        refine (congrArg (LocationApiService.getClient · client) next).trans ?_
        rw [getClient_onClient_self, present, Option.map_none]
      have none : (s.served client msg id rest).session client = none := by
        rw [session, emitted, emitted_onClient, present]
        exact served
      rw [Served, still, Option.elim_none, none, peer_of_none still, peer_of_none present,
        Peer.receive_stranger rfl register]
      exact ⟨rfl, rfl⟩
  | some h =>
    rw [Served, present, Option.elim_some] at served
    by_cases register : msg = .clientRegister
    · subst register
      have among : client ∈ s.service.mClients := AList.lookup_isSome.mp (Option.isSome_iff_exists.mpr ⟨h, present⟩)
      have same : (s.served client .clientRegister id rest).service.getClient client = some h :=
        (congrArg (LocationApiService.getClient · client) (if_pos among)).trans present
      have kept : (s.served client .clientRegister id rest).session client = s.session client := session
      rw [Served, same, Option.elim_some, kept, peer_of_some same, kept, peer_of_some present, Peer.receive_register]
      exact ⟨served, rfl⟩
    · obtain ⟨next, emitted⟩ := serve_eq_onClient s client id register
      obtain ⟨tied, same⟩ := answers_handle s.service.mPositionMode msg served nonzero
      have used : (s.served client msg id rest).service.getClient client =
          some ((msg.handle s.service.mPositionMode id).next h) := by
        refine (congrArg (LocationApiService.getClient · client) next).trans ?_
        rw [getClient_onClient_self, present, Option.map_some]
      have after : (s.served client msg id rest).session client =
          ((msg.handle s.service.mPositionMode id).emitted h).foldl apiSession (s.session client) := by
        rw [session, emitted, emitted_onClient, present, Option.map_some, Option.elim_some, foldl_clientSession]
      rw [Served, used, Option.elim_some, after, peer_of_some used, after, peer_of_some present]
      exact ⟨tied, same⟩

theorem getClient_serve_of_ne (different : client ≠ other) :
    ((msg.serve other id).next s.service).getClient client = s.service.getClient client := by
  by_cases register : msg = .clientRegister
  · subst register
    change (LocationApiService.getClient (if other ∈ s.service.mClients then s.service else _) client) = _
    split
    · rfl
    · exact AList.lookup_insert_ne different
  · rw [(serve_eq_onClient s other id register).1]
    exact getClient_onClient_of_ne different

/-- A message of one client changes nothing for the others. -/
theorem served_of_ne (msg : ClientMsg) (id : UInt32) (rest : List ClientMsg) (different : client ≠ other) :
    ((s.served other msg id rest).Served client ↔ s.Served client) ∧
      (s.served other msg id rest).link client = s.link client := by
  have handler : (s.served other msg id rest).service.getClient client = s.service.getClient client :=
    getClient_serve_of_ne different
  have session : (s.served other msg id rest).session client = s.session client :=
    Function.update_of_ne different ..
  have under : (s.served other msg id rest).toDaemon client = s.toDaemon client := Function.update_of_ne different ..
  have owed : (s.served other msg id rest).owed client = s.owed client := Function.update_of_ne different ..
  rw [Served, Served, link, link, peer, peer, handler, session, under, owed]
  exact ⟨Iff.rfl, rfl⟩

/-- An answer only takes a message from the queue of the handler. -/
theorem next_onResponseCb_keeps (err : LocationError) :
    ((onResponseCb err).next h).mLocationApi = h.mLocationApi ∧ ((onResponseCb err).next h).mSessionId = h.mSessionId ∧
      ((onResponseCb err).next h).mSubscriptionMask = h.mSubscriptionMask := by
  by_cases sender : h.mIpcSender = true
  · rw [next_onResponseCb sender]
    exact ⟨rfl, rfl, rfl⟩
  · rw [onResponseCb, Emit.next_get_bind, if_neg sender]
    exact ⟨rfl, rfl, rfl⟩

/-- The handler of each client after an answer is as it was but for its queue. -/
theorem answer_keeps (s : System Client) (client other : Client) (err : LocationError) :
    ((s.answer other err).Served client ↔ s.Served client) ∧ (s.answer other err).peer client = s.peer client := by
  have next : (s.answer other err).service = (onClient other (onResponseCb err)).next s.service := rfl
  by_cases same : client = other
  · subst same
    have handler : (s.answer client err).service.getClient client =
        (s.service.getClient client).map (onResponseCb err).next := by rw [next, getClient_onClient_self]
    cases present : s.service.getClient client with
    | none =>
      rw [present, Option.map_none] at handler
      rw [Served, handler, Served, present, peer_of_none handler, peer_of_none present]
      exact ⟨Iff.rfl, rfl⟩
    | some h =>
      rw [present, Option.map_some] at handler
      obtain ⟨api, id, mask⟩ := next_onResponseCb_keeps (h := h) err
      have tied (session : Option TrackingOptions) : Tied ((onResponseCb err).next h) session ↔ Tied h session := by
        constructor
        · exact fun tied => ⟨api ▸ tied.api, id ▸ tied.running⟩
        · exact fun tied => ⟨api.trans tied.api, by rw [id]; exact tied.running⟩
      rw [Served, handler, Served, present, peer_of_some handler, peer_of_some present, ofHandler, ofHandler, mask]
      exact ⟨tied _, rfl⟩
  · have handler : (s.answer other err).service.getClient client = s.service.getClient client := by
      rw [next, getClient_onClient_of_ne same]
    rw [Served, Served, peer, peer, handler]
    exact ⟨Iff.rfl, rfl⟩

/-- The answers are those of the handler. -/
theorem answers_onClient (err : LocationError) :
    answers client ((onClient client (onResponseCb err)).emitted s.service) =
      (s.responses client err).map fun r => .genericResp r.1 r.2 := by
  rw [emitted_onClient, responses]
  cases s.service.getClient client with
  | none => rfl
  | some h =>
    rw [Option.map_some, Option.elim_some, Option.elim_some, answers, List.filterMap_map, List.map_filterMap]
    refine List.filterMap_congr fun output _ => ?_
    cases output <;> first | rfl | exact if_pos rfl

theorem tasks_answer (s : System Client) (client other : Client) (err : LocationError) :
    (s.answer other err).tasks client =
    if other = client then s.tasks client ++ (s.responses client err).map fun r => .genericResp r.1 r.2
    else s.tasks client := by
  have emitted : (do let _ ← onClient other (onResponseCb err) : ServiceM Client Unit).emitted s.service =
      (onClient other (onResponseCb err)).emitted s.service := List.append_nil _
  rw [answer, emitted, answers_onClient]
  by_cases same : other = client
  · subst same
    rw [if_pos rfl]
    exact Function.update_self ..
  · rw [if_neg same]
    exact Function.update_of_ne (Ne.symm same) ..

/-- A link is known from its parts. -/
theorem link_eq {l : Link} (impl : s.impl client = l.impl) (tasks : s.tasks client = l.tasks)
    (under : s.toDaemon client = l.toDaemon) (peer : s.peer client = l.peer) (owed : s.owed client = l.owed) :
    s.link client = l := by
  rw [link, impl, tasks, under, peer, owed]

theorem proc_cons {task : Task} {rest : List Task} (head : s.tasks client = task :: rest) : s.proc client =
    { s with
      impl := Function.update s.impl client (task.proc.next (s.impl client))
      tasks := Function.update s.tasks client (rest ++ postedTasks (task.proc.emitted (s.impl client)))
      toDaemon :=
        Function.update s.toDaemon client (s.toDaemon client ++ sentMsgs (task.proc.emitted (s.impl client))) } := by
  rw [proc, head]

theorem link_proc (client other : Client) :
    (s.proc other).link client =
      (s.link client).move s.service.mPositionMode (if other = client then .proc else .elsewhere) := by
  cases waiting : s.tasks other with
  | nil =>
    have still : s.proc other = s := by rw [proc, waiting]
    split
    · next same =>
      subst same
      rw [still, Link.move_proc_nil waiting]
    · rw [still]
      rfl
  | cons task rest =>
    rw [proc_cons waiting]
    split
    · next same =>
      subst same
      rw [Link.move_proc_cons waiting]
      exact link_eq (Function.update_self ..) (Function.update_self ..) (Function.update_self ..) rfl rfl
    · next different =>
      have apart : client ≠ other := Ne.symm different
      exact link_eq (Function.update_of_ne apart ..) (Function.update_of_ne apart ..) (Function.update_of_ne apart ..)
        rfl
        rfl

theorem link_read (client other : Client) (id : ValidId) (served : ∀ client, s.Served client) :
    (s.read other id.val).Served client ∧ (s.read other id.val).link client =
      (s.link client).move s.service.mPositionMode (if other = client then .read else .elsewhere) := by
  cases under : s.toDaemon other with
  | nil =>
    have still : s.read other id.val = s := by rw [read, under]
    rw [still]
    refine ⟨served client, ?_⟩
    split
    · next same =>
      subst same
      rw [Link.move_read_nil under]
    · rfl
  | cons msg rest =>
    rw [read_cons under]
    split
    · next same =>
      subst same
      obtain ⟨after, peer⟩ := served_self msg rest (served other) id.property
      rw [Link.move_read_cons under]
      refine ⟨after, link_eq rfl rfl (Function.update_self ..) peer ?_⟩
      refine (Function.update_self ..).trans ?_
      rw [link, registered_peer, Option.not_isSome]
    · next different =>
      obtain ⟨after, link⟩ := served_of_ne (s := s) msg id.val rest (Ne.symm different)
      exact ⟨after.mpr (served client), link⟩

theorem link_capabilities (client other : Client) : (s.capabilities other).link client =
    (s.link client).move s.service.mPositionMode (if other = client then .capabilities else .elsewhere) := by
  rw [capabilities, ← registered_peer]
  split
  · next present =>
    split
    · next same =>
      subst same
      rw [Link.move, if_pos (show (s.link other).peer.registered = true from present)]
      exact link_eq rfl (Function.update_self ..) rfl rfl (Function.update_self ..)
    · next different =>
      have apart : client ≠ other := Ne.symm different
      exact link_eq rfl (Function.update_of_ne apart ..) rfl rfl (Function.update_of_ne apart ..)
  · next absent =>
    split
    · next same =>
      subst same
      rw [Link.move, if_neg (show ¬ (s.link other).peer.registered = true from absent)]
    · rfl

/-- Each step of the system is a move of every client and its daemon. -/
theorem step_link (e : Event Client) (served : ∀ client, s.Served client) (client : Client) :
    (s.step e).Served client ∧
      (s.step e).link client = (s.link client).move s.service.mPositionMode (s.moveOf client e) := by
  cases e with
  | call other c =>
    refine ⟨served client, ?_⟩
    rw [moveOf]
    split
    · next same =>
      subst same
      exact link_eq rfl (Function.update_self ..) rfl rfl rfl
    · next different => exact link_eq rfl (Function.update_of_ne (Ne.symm different) ..) rfl rfl rfl
  | proc other =>
    refine ⟨?_, link_proc client other⟩
    have service : (s.proc other).service = s.service ∧ (s.proc other).session = s.session := by
      rw [proc]
      cases s.tasks other <;> exact ⟨rfl, rfl⟩
    rw [step, Served, service.1, service.2]
    exact served client
  | read other id => exact link_read client other id served
  | capabilities other =>
    refine ⟨?_, link_capabilities client other⟩
    have service : (s.capabilities other).service = s.service ∧ (s.capabilities other).session = s.session := by
      rw [capabilities]
      split <;> exact ⟨rfl, rfl⟩
    rw [step, Served, service.1, service.2]
    exact served client
  | answer other err =>
    obtain ⟨after, peer⟩ := answer_keeps s client other err
    refine ⟨after.mpr (served client), ?_⟩
    rw [moveOf]
    have tasks := tasks_answer s client other err
    split
    · next same => exact link_eq rfl (tasks.trans (if_pos same)) rfl peer rfl
    · next different => exact link_eq rfl (tasks.trans (if_neg different)) rfl peer rfl
  | restart => exact ⟨rfl, rfl⟩

/-- The position mode of the daemon stays as it is. -/
theorem mPositionMode_step (e : Event Client) : (s.step e).service.mPositionMode = s.service.mPositionMode := by
  have onClient_keeps {α : Type} {p : HandlerM α} {client : Client} :
      ((onClient client p).next s.service).mPositionMode = s.service.mPositionMode := by
    cases found : s.service.getClient client with
    | none => rw [Emit.next, onClient_of_none found]
    | some h => rw [Emit.next, onClient_of_some found]
  cases e with
  | call other c => rfl
  | proc other =>
    rw [step, proc]
    cases s.tasks other <;> rfl
  | read other id =>
    rw [step]
    cases under : s.toDaemon other with
    | nil => rw [read, under]
    | cons msg rest =>
      rw [read_cons under]
      by_cases register : msg = .clientRegister
      · subst register
        change (if other ∈ s.service.mClients then s.service else _).mPositionMode = _
        split <;> rfl
      · exact (congrArg LocationApiService.mPositionMode (serve_eq_onClient s other id.val register).1).trans
          onClient_keeps
  | capabilities other =>
    rw [step, capabilities]
    split <;> rfl
  | answer other err => exact onClient_keeps
  | restart => rfl

end System

end System

end Cypfr.ClientApi
