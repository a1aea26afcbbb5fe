import Cypfr.Machine.Run
import Cypfr.Proofs.LocHalDaemon
import Cypfr.Proofs.LocationApiService

/-! # Tracking while the device sleeps

A client that tracks has a session, but while the device is suspended or shut down. Power events and the deletion of
aiding data keep to this; a start does not look at the power state.
-/

namespace Cypfr.HalDaemon

open Tracking LocationApiService Machine

namespace LocHalDaemonClientHandler

/-- A client that tracks, or that has a session, has a `LocationAPI`. -/
structure Able (h : LocHalDaemonClientHandler) : Prop where
  tracking : h.mTracking = true → h.mLocationApi = true
  session : h.mSessionId ≠ 0 → h.mLocationApi = true

/-- The client has a session exactly when it tracks and the device is not down. -/
def Follows (down : Prop) (h : LocHalDaemonClientHandler) : Prop := h.mSessionId ≠ 0 ↔ h.mTracking = true ∧ ¬ down

variable {h : LocHalDaemonClientHandler} {down : Prop}

theorem Follows.idle (follows : Follows down h) (idle : h.mTracking = false) : h.mSessionId = 0 := by
  by_contra runs
  exact absurd (follows.mp runs).1 (by rw [idle]; decide)

/-- What a handler of a start comes to. -/
theorem startTrackingHandler_follows_iff (locOptions : LocationOptions) {id : UInt32} (able : h.Able)
    (follows : h.Follows down) (nonzero : id ≠ 0) :
    ((startTrackingHandler locOptions id).next h).Able ∧
      (((startTrackingHandler locOptions id).next h).Follows down ↔ (down → h.mLocationApi = false)) := by
  by_cases idle : h.mSessionId = 0
  · by_cases api : h.mLocationApi = true
    · have started := startTrackingWith_of_start locOptions id ⟨idle, api⟩
      rw [Emit.next, startTrackingHandler_of_ne_zero started nonzero]
      refine ⟨⟨fun _ => api, fun _ => api⟩, ?_⟩
      simp only [Follows, noted, ne_eq, nonzero, not_false_eq_true, true_and, true_iff, api, Bool.true_eq_false]
    · have failed := startTrackingWith_of_not locOptions id fun starts => api starts.2
      rw [idle] at failed
      rw [Emit.next, startTrackingHandler_of_zero failed]
      exact ⟨able, iff_of_true follows fun _ => Bool.eq_false_of_not_eq_true api⟩
  · have repeated := startTrackingWith_of_not locOptions id fun starts => idle starts.1
    rw [Emit.next, startTrackingHandler_of_ne_zero repeated idle]
    have up : ¬ down := (follows.mp idle).2
    exact ⟨⟨fun _ => able.session idle, fun _ => able.session idle⟩,
      iff_of_true (iff_of_true idle ⟨rfl, up⟩) fun asleep => absurd asleep up⟩

theorem stopTrackingHandler_follows (able : h.Able) :
    (stopTrackingHandler.next h).Able ∧ (stopTrackingHandler.next h).Follows down := by
  by_cases idle : h.mSessionId = 0
  · have stopped := stopTracking_of_not (h := untracked h) fun runs => runs.1 idle
    rw [Emit.next, stopTrackingHandler_eq stopped]
    exact ⟨⟨by rintro ⟨⟩, able.session⟩, iff_of_false (not_not.mpr idle) (by rintro ⟨⟨⟩, -⟩)⟩
  · have stopped := stopTracking_of_running (h := untracked h) ⟨idle, able.session idle⟩
    rw [Emit.next, stopTrackingHandler_eq stopped]
    exact ⟨⟨by rintro ⟨⟩, fun runs => absurd rfl runs⟩, iff_of_false (not_not.mpr rfl) (by rintro ⟨⟨⟩, -⟩)⟩

theorem updateTrackingOptionsHandler_follows {locOptions : LocationOptions} (able : h.Able) (follows : h.Follows down) :
    ((updateTrackingOptionsHandler locOptions).next h).Able ∧
      ((updateTrackingOptionsHandler locOptions).next h).Follows down := by
  by_cases idle : h.mSessionId = 0
  · have updated := updateTrackingOptions_of_not locOptions fun runs => runs.1 idle
    rw [Emit.next, updateTrackingOptionsHandler_eq updated]
    exact ⟨⟨able.tracking, able.session⟩, follows⟩
  · have updated := updateTrackingOptions_of_running locOptions ⟨idle, able.session idle⟩
    rw [Emit.next, updateTrackingOptionsHandler_eq updated]
    exact ⟨⟨able.tracking, able.session⟩, follows⟩

/-- A suspension leaves the client without a session, whatever is said of its power afterwards. -/
theorem suspendHandler_follows (able : h.Able) (follows : h.Follows down) :
    (suspendHandler.next h).Able ∧ (suspendHandler.next h).Follows True := by
  by_cases tracks : h.mTracking = true
  · by_cases idle : h.mSessionId = 0
    · rw [Emit.next, suspendHandler_of_tracking tracks (stopTracking_of_not fun runs => runs.1 idle)]
      exact ⟨⟨able.tracking, able.session⟩, iff_of_false (not_not.mpr idle) fun both => both.2 trivial⟩
    · rw [Emit.next, suspendHandler_of_tracking tracks (stopTracking_of_running ⟨idle, able.session idle⟩)]
      exact ⟨⟨able.tracking, fun runs => absurd rfl runs⟩, iff_of_false (not_not.mpr rfl) fun both => both.2 trivial⟩
  · have idle := Bool.eq_false_of_not_eq_true tracks
    rw [Emit.next, suspendHandler_of_idle idle]
    exact ⟨able, iff_of_false (not_not.mpr (follows.idle idle)) fun both => both.2 trivial⟩

/-- A resumption leaves a client that tracks with a session. -/
theorem resumeHandler_follows {id : UInt32} (able : h.Able) (follows : h.Follows down) (nonzero : id ≠ 0) :
    (resumeHandler id).result h = true ∧ ((resumeHandler id).next h).Able ∧
      ((resumeHandler id).next h).Follows False := by
  by_cases tracks : h.mTracking = true
  · have api := able.tracking tracks
    by_cases idle : h.mSessionId = 0
    · have started := startTracking_of_start id ⟨idle, api⟩
      rw [Emit.result, Emit.next, resumeHandler_of_tracking tracks started nonzero]
      exact ⟨rfl, ⟨fun _ => api, fun _ => api⟩, iff_of_true nonzero ⟨tracks, not_false⟩⟩
    · have repeated := startTracking_of_not id fun starts => idle starts.1
      rw [Emit.result, Emit.next, resumeHandler_of_tracking tracks repeated idle]
      exact ⟨rfl, ⟨fun _ => api, fun _ => api⟩, iff_of_true idle ⟨tracks, not_false⟩⟩
  · have idle := Bool.eq_false_of_not_eq_true tracks
    rw [Emit.result, Emit.next, resumeHandler_of_idle idle]
    exact ⟨rfl, able, iff_of_false (not_not.mpr (follows.idle idle)) fun both => tracks both.1⟩

end LocHalDaemonClientHandler

variable {Client : Type} [DecidableEq Client]

/-- What happens to the daemon. A start comes with what `LocationAPI` returns to it. -/
inductive PowerEvent (Client : Type) where
  | newClient (client : Client) (isClientApi : Bool)
  | deleteClient (client : Client)
  | startTracking (client : Client) (locOptions : LocationOptions) (id : UInt32)
  | stopTracking (client : Client)
  | updateTrackingOptions (client : Client) (locOptions : LocationOptions)
  | configAidingDataDeletion (ids : Client → UInt32)
  | onPowerEvent (powerState : PowerStateType) (ids : Client → UInt32)

def PowerEvent.run : PowerEvent Client → ServiceM Client Unit
  | .newClient client isClientApi => LocationApiService.newClient client isClientApi
  | .deleteClient client => LocationApiService.deleteClient client
  | .startTracking client locOptions id => LocationApiService.startTracking client locOptions id
  | .stopTracking client => LocationApiService.stopTracking client
  | .updateTrackingOptions client locOptions => LocationApiService.updateTrackingOptions client locOptions
  | .configAidingDataDeletion ids => LocationApiService.configAidingDataDeletion ids
  | .onPowerEvent powerState ids => LocationApiService.onPowerEvent powerState ids

/-- The service and the last power event. -/
structure Powered (Client : Type) where
  service : LocationApiService Client
  lastEvent : PowerStateType

namespace Powered

def initial (mode : GnssSuplMode) : Powered Client := ⟨.initial mode, .POWER_STATE_UNKNOWN⟩

def step (s : Powered Client) (e : PowerEvent Client) : Powered Client where
  service := e.run.next s.service
  lastEvent := match e with
    | .onPowerEvent powerState _ => powerState
    | _ => s.lastEvent

/-- Every start succeeds, and a power event is a suspend, a shutdown or a resume. -/
def Succeeds (_ : Powered Client) : PowerEvent Client → Prop
  | .startTracking _ _ id => id ≠ 0
  | .configAidingDataDeletion ids => ∀ client, ids client ≠ 0
  | .onPowerEvent powerState ids => powerState ≠ .POWER_STATE_UNKNOWN ∧ ∀ client, ids client ≠ 0
  | _ => True

/-- Every client has a session exactly when it tracks and the last power event is not a suspend or a shutdown. -/
def Follow (s : Powered Client) : Prop :=
  ∀ client h, s.service.getClient client = some h → h.Follows s.lastEvent.isDown

/-- No client that has a `LocationAPI` starts tracking after a suspend or a shutdown. -/
def MayTrack (s : Powered Client) : PowerEvent Client → Prop
  | .startTracking client _ _ =>
    s.lastEvent.isDown → ∀ h, s.service.getClient client = some h → h.mLocationApi = false
  | _ => True

/-- All clients are able to have what they have, and the service knows the last power event. -/
structure Knows (s : Powered Client) : Prop where
  able : AllClients LocHalDaemonClientHandler.Able s.service
  power : s.service.mPowerState = s.lastEvent

end Powered

section Clients

open LocHalDaemonClientHandler

variable {s : LocationApiService Client} {client : Client} {ids : Client → UInt32} {down : Prop}

/-- A client that is able to have what it has, and that has a session exactly when it should. -/
def Steady (down : Prop) (h : LocHalDaemonClientHandler) : Prop := h.Able ∧ h.Follows down

theorem Steady.congr {down' : Prop} {h : LocHalDaemonClientHandler} (steady : Steady down h) (same : down ↔ down') :
    Steady down' h := ⟨steady.1, steady.2.trans (and_congr_right' (not_congr same))⟩

theorem all_suspend (all : AllClients (Steady down) s) : AllClients (Steady True) (suspendAllTrackingSessions.next s) :=
  all.map (fun _ => getClient_suspendAllTrackingSessions) fun _ _ steady => suspendHandler_follows steady.1 steady.2

theorem all_resume (all : AllClients (Steady down) s) (nonzero : ∀ client, ids client ≠ 0) :
    AllClients (Steady False) ((resumeAllTrackingSessions ids).next s) := by
  have resumed (client : Client) (h : LocHalDaemonClientHandler) (steady : Steady down h) :=
    resumeHandler_follows steady.1 steady.2 (nonzero client)
  refine all.map (fun other => getClient_resumeAllTrackingSessions fun client h registered => ?_) fun client h steady =>
    (resumed client h steady).2
  exact (resumed client h (all client h registered)).1

theorem all_configAidingDataDeletion (all : AllClients (Steady s.mPowerState.isDown) s)
    (nonzero : ∀ client, ids client ≠ 0) :
    AllClients (Steady s.mPowerState.isDown) ((configAidingDataDeletion ids).next s) := by
  have suspended := all_suspend all
  rw [configAidingDataDeletion, Emit.next_bind, Emit.next_bind, Emit.next_get_bind, Emit.next_emit, Emit.next_ite,
    keeps_mPowerState_suspendAllTrackingSessions]
  split
  · next down => exact suspended.mono fun h steady => steady.congr (iff_of_true trivial down)
  · next up => exact (all_resume suspended nonzero).mono fun h steady => steady.congr (iff_of_false not_false up)

theorem all_onPowerEvent {powerState : PowerStateType} (all : AllClients (Steady down) s)
    (known : powerState ≠ .POWER_STATE_UNKNOWN) (nonzero : ∀ client, ids client ≠ 0) :
    AllClients (Steady powerState.isDown) ((onPowerEvent powerState ids).next s) := by
  have told : AllClients (Steady down) { s with mPowerState := powerState } := all
  rw [onPowerEvent, Emit.next_bind, Emit.next_bind, Emit.next_modify, Emit.next_emit, Emit.next_ite, Emit.next_ite]
  split
  · next asleep => exact (all_suspend told).mono fun h steady => steady.congr (iff_of_true trivial asleep)
  · next up =>
    have resumes : powerState = .POWER_STATE_RESUME := by
      revert known up
      cases powerState <;> decide
    rw [if_pos resumes]
    exact (all_resume told nonzero).mono fun h steady => steady.congr (iff_of_false not_false up)

theorem keeps_mPowerState_configAidingDataDeletion : (configAidingDataDeletion ids).Keeps mPowerState :=
  keeps_mPowerState_suspendAllTrackingSessions.bind fun _ => (Emit.keeps_emit _).bind fun _ =>
    Emit.keeps_get_bind fun _ => Emit.keeps_ite (Emit.keeps_pure ()) keeps_mPowerState_resumeAllTrackingSessions

theorem mPowerState_onPowerEvent {powerState : PowerStateType} :
    ((onPowerEvent powerState ids).next s).mPowerState = powerState := by
  have rest : ((if powerState.isDown then suspendAllTrackingSessions
      else if powerState = .POWER_STATE_RESUME then resumeAllTrackingSessions ids else pure ()) >>= fun _ =>
        Emit.emit (.updateSystemPowerState powerState) : ServiceM Client Unit).Keeps mPowerState :=
    (Emit.keeps_ite keeps_mPowerState_suspendAllTrackingSessions (Emit.keeps_ite
      keeps_mPowerState_resumeAllTrackingSessions (Emit.keeps_pure ()))).bind fun _ => Emit.keeps_emit _
  exact rest { s with mPowerState := powerState }

theorem construct_steady (isClientApi : Bool) : Steady down (construct isClientApi) :=
  ⟨⟨by rintro ⟨⟩, fun runs => absurd rfl runs⟩, iff_of_false (not_not.mpr rfl) (by rintro ⟨⟨⟩, -⟩)⟩

end Clients

namespace Powered

open LocHalDaemonClientHandler

variable {s : Powered Client} {e : PowerEvent Client}

theorem Knows.steady (knows : Knows s) (follow : Follow s) :
    AllClients (Steady s.service.mPowerState.isDown) s.service :=
  fun client h registered => ⟨knows.able client h registered, knows.power ▸ follow client h registered⟩

/-- The service knows the last power event after a step. -/
theorem Knows.power_step (knows : Knows s) (e : PowerEvent Client) :
    (s.step e).service.mPowerState = (s.step e).lastEvent := by
  cases e with
  | newClient client isClientApi =>
    refine Eq.trans ?_ knows.power
    change LocationApiService.mPowerState (if _ then _ else _) = _
    split <;> rfl
  | deleteClient client =>
    refine Eq.trans ?_ knows.power
    change LocationApiService.mPowerState (if _ then _ else _) = _
    split <;> rfl
  | startTracking client locOptions id => exact (keeps_mPowerState_onClient _).trans knows.power
  | stopTracking client => exact (keeps_mPowerState_onClient _).trans knows.power
  | updateTrackingOptions client locOptions => exact (keeps_mPowerState_onClient _).trans knows.power
  | configAidingDataDeletion ids => exact (keeps_mPowerState_configAidingDataDeletion _).trans knows.power
  | onPowerEvent powerState ids => exact mPowerState_onPowerEvent

/-- Every event but a start keeps all clients steady. -/
theorem step_steady (steady : AllClients (Steady s.lastEvent.isDown) s.service)
    (power : s.service.mPowerState = s.lastEvent)
    (succeeds : Succeeds s e) (other : ∀ client locOptions id, e ≠ .startTracking client locOptions id) :
    AllClients (Steady (s.step e).lastEvent.isDown) (s.step e).service := by
  cases e with
  | newClient client isClientApi => exact steady.newClient (construct_steady isClientApi)
  | deleteClient client => exact steady.deleteClient
  | startTracking client locOptions id => exact absurd rfl (other client locOptions id)
  | stopTracking client => exact steady.onClient fun h holds => stopTrackingHandler_follows holds.1
  | updateTrackingOptions client locOptions =>
    exact steady.onClient fun h holds => updateTrackingOptionsHandler_follows holds.1 holds.2
  | configAidingDataDeletion ids =>
    have deleted := all_configAidingDataDeletion (s := s.service) (power ▸ steady) succeeds
    exact deleted.mono fun h holds => holds.congr (by rw [power]; rfl)
  | onPowerEvent powerState ids => exact all_onPowerEvent steady succeeds.1 succeeds.2

/-- A start keeps all clients able, and steady exactly when it is not one after a suspend or a shutdown. -/
theorem step_startTracking {client : Client} {locOptions : LocationOptions} {id : UInt32} (knows : Knows s)
    (follow : Follow s) (nonzero : id ≠ 0) :
    AllClients Able (s.step (.startTracking client locOptions id)).service ∧
      (Follow (s.step (.startTracking client locOptions id)) ↔ MayTrack s (.startTracking client locOptions id)) := by
  have started {h : LocHalDaemonClientHandler} (steady : Steady s.lastEvent.isDown h) :=
    startTrackingHandler_follows_iff { locOptions with mode := s.service.mPositionMode } steady.1
      steady.2 nonzero
  have steady : AllClients (Steady s.lastEvent.isDown) s.service :=
    fun other h registered => ⟨knows.able other h registered, follow other h registered⟩
  refine ⟨steady.onClient_mono (fun h holds => (started holds).1) fun h holds =>
    holds.1, fun after asleep h registered => ?_, fun may other h' registered' => ?_⟩
  · refine (started (steady client h registered)).2.mp (after client _ ?_) asleep
    exact getClient_onClient_self.trans (congrArg _ registered)
  · by_cases same : other = client
    · subst same
      obtain ⟨h, before, rfl⟩ := Option.map_eq_some_iff.mp (getClient_onClient_self.symm.trans registered')
      exact (started (steady other h before)).2.mpr fun asleep => may asleep h before
    · exact (steady other h' ((getClient_onClient_of_ne same).symm.trans registered')).2

theorem mayTrack_of_ne (other : ∀ client locOptions id, e ≠ .startTracking client locOptions id) : MayTrack s e := by
  cases e with
  | startTracking client locOptions id => exact absurd rfl (other client locOptions id)
  | _ => trivial

/-- A step keeps all clients able, and steady exactly when it is not a start after a suspend or a shutdown. -/
theorem step_follow_iff (knows : Knows s) (follow : Follow s) (succeeds : Succeeds s e) :
    AllClients Able (s.step e).service ∧ (Follow (s.step e) ↔ MayTrack s e) := by
  by_cases start : ∃ client locOptions id, e = .startTracking client locOptions id
  · obtain ⟨client, locOptions, id, rfl⟩ := start
    exact step_startTracking knows follow succeeds
  · have other (client : Client) (locOptions : LocationOptions) (id : UInt32) :
      e ≠ .startTracking client locOptions id :=
      fun same => start ⟨client, locOptions, id, same⟩
    have steady := step_steady (fun client h registered => ⟨knows.able client h registered, follow client h registered⟩)
      knows.power succeeds other
    exact ⟨steady.mono fun h holds => holds.1,
      iff_of_true (fun client h registered => (steady client h registered).2) (mayTrack_of_ne other)⟩

/-- Every client has a session exactly when it should throughout a run in which every start succeeds exactly when no
client starts tracking after a suspend or a shutdown. -/
theorem follow_iff_mayTrack (mode : GnssSuplMode) (events : List (PowerEvent Client))
    (succeeds : EachStep step Succeeds (initial mode) events) :
    Throughout step Follow (initial mode) events ↔ EachStep step MayTrack (initial mode) events := by
  have nobody (client : Client) (h : LocHalDaemonClientHandler) :
      (initial mode : Powered Client).service.getClient client ≠ some h := by rintro ⟨⟩
  refine throughout_iff_eachStep_while (I := Knows) succeeds ?_ (fun s e knows follow met => ?_) ?_
    fun s e knows met follow => (step_follow_iff knows follow met).2
  · exact ⟨fun client h registered => absurd registered (nobody client h), rfl⟩
  · exact ⟨(step_follow_iff knows follow met).1, knows.power_step e⟩
  · exact fun client h registered => absurd registered (nobody client h)

/-- One client that starts tracking before the device sleeps, and is resumed when it wakes up. -/
theorem follow_sleep_and_wake :
    Throughout step Follow (initial .standalone)
      [.newClient 0 true, .startTracking 0 TrackingOptions.zero.toLocationOptions 5,
        .onPowerEvent .POWER_STATE_SUSPEND fun _ => 6, .configAidingDataDeletion fun _ => 7,
        .onPowerEvent .POWER_STATE_RESUME fun _ => 8] := by
  refine (follow_iff_mayTrack .standalone _ ?_).mpr ?_
  · refine eachStep_cons trivial
      (eachStep_cons ?_ (eachStep_cons ?_ (eachStep_cons ?_ (eachStep_cons ?_ eachStep_nil))))
    · exact (by decide : (5 : UInt32) ≠ 0)
    · exact ⟨by decide, fun _ => (by decide : (6 : UInt32) ≠ 0)⟩
    · exact fun _ => (by decide : (7 : UInt32) ≠ 0)
    · exact ⟨by decide, fun _ => (by decide : (8 : UInt32) ≠ 0)⟩
  · refine eachStep_cons trivial (eachStep_cons ?_ (eachStep_cons trivial (eachStep_cons trivial
      (eachStep_cons trivial eachStep_nil))))
    exact fun asleep => absurd asleep (by decide)

/-- A client that starts tracking while the device is suspended gets a session. -/
theorem tracks_while_suspended :
    ¬ ∀ (mode : GnssSuplMode) (events : List (PowerEvent ℕ)), EachStep step Succeeds (initial mode) events →
        Throughout step Follow (initial mode) events := by
  intro follows
  let asleep : List (PowerEvent ℕ) := [.newClient 0 true, .onPowerEvent .POWER_STATE_SUSPEND fun _ => 6]
  let start : PowerEvent ℕ := .startTracking 0 TrackingOptions.zero.toLocationOptions 5
  have follow := follows .standalone (asleep ++ [start]) ?_ (asleep ++ [start]) List.prefix_rfl 0 _ rfl
  · exact absurd (follow.mp (by decide)).2 (by decide)
  · refine eachStep_cons trivial (eachStep_cons ⟨by decide, fun _ => (by decide : (6 : UInt32) ≠ 0)⟩
      (eachStep_cons ?_ eachStep_nil))
    exact (by decide : (5 : UInt32) ≠ 0)

end Powered

end Cypfr.HalDaemon
