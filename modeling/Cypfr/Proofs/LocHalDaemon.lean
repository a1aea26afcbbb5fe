import Cypfr.Model.LocationApiService

/-! # Requests and answers of one client of the daemon

A request notes its message in the queue of the client, and may use `LocationAPI`. What a request does to the
session, to the queue and to the calls that are to be answered depends on whether a session runs.
-/

namespace Cypfr.HalDaemon

open Tracking Batching LocationApiService

/-- A request of a client for its tracking or its batching; a start comes with what `LocationAPI` returns to it. -/
inductive Request where
  | startTracking (locOptions : LocationOptions) (id : UInt32)
  | stopTracking
  | updateTrackingOptions (locOptions : LocationOptions)
  | startBatching (intervalInMs distanceInMeters : ℕ) (batchingMode : BatchingMode) (id : UInt32)
  | stopBatching
  | updateBatchingOptions (intervalInMs distanceInMeters : ℕ) (batchingMode : BatchingMode)
deriving DecidableEq

namespace Request

def run : Request → HandlerM Unit
  | .startTracking locOptions id => startTrackingHandler locOptions id
  | .stopTracking => stopTrackingHandler
  | .updateTrackingOptions locOptions => updateTrackingOptionsHandler locOptions
  | .startBatching interval distance batchingMode id => startBatchingHandler interval distance batchingMode id
  | .stopBatching => stopBatchingHandler
  | .updateBatchingOptions interval distance batchingMode => updateBatchingOptionsHandler interval distance batchingMode

def msgId : Request → ELocMsgID
  | .startTracking .. => .E_LOCAPI_START_TRACKING_MSG_ID
  | .stopTracking => .E_LOCAPI_STOP_TRACKING_MSG_ID
  | .updateTrackingOptions .. => .E_LOCAPI_UPDATE_TRACKING_OPTIONS_MSG_ID
  | .startBatching .. => .E_LOCAPI_START_BATCHING_MSG_ID
  | .stopBatching => .E_LOCAPI_STOP_BATCHING_MSG_ID
  | .updateBatchingOptions .. => .E_LOCAPI_UPDATE_BATCHING_OPTIONS_MSG_ID

/-- The session that the request is about. -/
def session (h : LocHalDaemonClientHandler) : Request → UInt32
  | .startTracking .. | .stopTracking | .updateTrackingOptions .. => h.mSessionId
  | .startBatching .. | .stopBatching | .updateBatchingOptions .. => h.mBatchingId

/-- What `LocationAPI` returns to a start. -/
def started : Request → Option UInt32
  | .startTracking _ id | .startBatching _ _ _ id => some id
  | _ => none

/-- A start finds no session, and any other request finds one. -/
def Fits (h : LocHalDaemonClientHandler) (r : Request) : Prop :=
  if r.started.isSome then r.session h = 0 else r.session h ≠ 0

end Request

/-- The calls of `LocationAPI` that are answered with a response. -/
def HandlerOutput.isAnswered : HandlerOutput → Bool
  | .startTracking .. | .stopTracking .. | .updateTrackingOptions .. | .startBatching .. | .stopBatching ..
  | .updateBatchingOptions .. => true
  | _ => false

/-- A session needs a `LocationAPI`, and the client can be sent to. -/
structure LocHalDaemonClientHandler.Sound (h : LocHalDaemonClientHandler) : Prop where
  tracking : h.mSessionId ≠ 0 → h.mLocationApi = true
  batching : h.mBatchingId ≠ 0 → h.mLocationApi = true
  sender : h.mIpcSender = true

/-- The messages of the calls that are to be answered: a start to which `LocationAPI` returns no session is not. -/
def Request.calls (r : Request) (outputs : List HandlerOutput) : List ELocMsgID :=
  if r.started = some 0 then [] else (outputs.filter HandlerOutput.isAnswered).map fun _ => r.msgId

/-- What a request comes to: a start that fails is not noted; any other request is, but only when it fits the session
it makes a call that is answered. -/
inductive Effect (h : LocHalDaemonClientHandler) (r : Request) (h' : LocHalDaemonClientHandler) (outputs : List HandlerOutput) :
    Prop
  | failed (fits : r.Fits h) (pending : h'.mPendingMessages = h.mPendingMessages) (calls : r.calls outputs = [])
  | called (fits : r.Fits h) (pending : h'.mPendingMessages = h.mPendingMessages ++ [r.msgId])
      (calls : r.calls outputs = [r.msgId])
  | uncalled (unfit : ¬ r.Fits h) (pending : h'.mPendingMessages = h.mPendingMessages ++ [r.msgId])
      (calls : r.calls outputs = [])

/-- Of calls that are to be answered one after the other, a request makes the single one. -/
theorem Request.calls_of_ne_zero {r : Request} {outputs : List HandlerOutput} (nonzero : r.started ≠ some 0) :
    r.calls outputs = (outputs.filter HandlerOutput.isAnswered).map fun _ => r.msgId := if_neg nonzero

theorem Request.calls_updateCallbacks {r : Request} (api : Bool) (mask : UInt32) (outputs : List HandlerOutput) :
    r.calls ((if api then [.updateCallbacks mask] else []) ++ outputs) = r.calls outputs := by
  cases api <;> rfl

namespace LocHalDaemonClientHandler

variable {h : LocHalDaemonClientHandler}

section Tracking

variable (locOptions : LocationOptions) (id : UInt32)

theorem startTracking_of_start (starts : h.mSessionId = 0 ∧ h.mLocationApi = true) :
    startTracking id h = (id, { h with mSessionId := id }, [.startTracking h.mOptions]) := by
  refine Emit.get_bind_eq ?_
  rw [if_pos starts]
  rfl

theorem startTracking_of_not (stays : ¬ (h.mSessionId = 0 ∧ h.mLocationApi = true)) :
    startTracking id h = (h.mSessionId, h, []) := by
  refine Emit.get_bind_eq ?_
  rw [if_neg stays]
  rfl

theorem startTrackingWith_of_start (starts : h.mSessionId = 0 ∧ h.mLocationApi = true) :
    startTrackingWith locOptions id h =
      (id, { h with mOptions := supported (ofLocationOptions locOptions), mSessionId := id },
        [.startTracking (supported (ofLocationOptions locOptions))]) := by
  refine Emit.get_bind_eq ?_
  rw [if_pos starts]
  rfl

theorem startTrackingWith_of_not (stays : ¬ (h.mSessionId = 0 ∧ h.mLocationApi = true)) :
    startTrackingWith locOptions id h = (h.mSessionId, h, []) := by
  refine Emit.get_bind_eq ?_
  rw [if_neg stays]
  rfl

theorem stopTracking_of_running (runs : h.mSessionId ≠ 0 ∧ h.mLocationApi = true) :
    stopTracking h = ((), { h with mSessionId := 0 }, [.stopTracking h.mSessionId]) := by
  refine Emit.get_bind_eq ?_
  rw [if_pos runs]
  rfl

theorem stopTracking_of_not (idle : ¬ (h.mSessionId ≠ 0 ∧ h.mLocationApi = true)) : stopTracking h = ((), h, []) := by
  refine Emit.get_bind_eq ?_
  rw [if_neg idle]
  rfl

theorem updateTrackingOptions_of_running (runs : h.mSessionId ≠ 0 ∧ h.mLocationApi = true) :
    updateTrackingOptions locOptions h =
      ((), { h with mOptions := ofLocationOptions locOptions },
        [.updateTrackingOptions h.mSessionId (supported (TrackingOptions.zero.setLocationOptions locOptions))]) := by
  refine Emit.get_bind_eq ?_
  rw [if_pos runs]
  rfl

theorem updateTrackingOptions_of_not (idle : ¬ (h.mSessionId ≠ 0 ∧ h.mLocationApi = true)) :
    updateTrackingOptions locOptions h = ((), h, []) := by
  refine Emit.get_bind_eq ?_
  rw [if_neg idle]
  rfl

end Tracking

section Batching

variable (interval distance : ℕ) (batchingMode : BatchingMode) (id : UInt32)

theorem startBatching_of_start (starts : h.mBatchingId = 0 ∧ h.mLocationApi = true) :
    startBatching interval distance batchingMode id h =
      (id, { h with mBatchOptions := batchOptions h.mBatchOptions interval distance batchingMode, mBatchingId := id },
        [.startBatching (batchOptions h.mBatchOptions interval distance batchingMode)]) := by
  refine Emit.get_bind_eq ?_
  rw [if_pos starts]
  rfl

theorem startBatching_of_not (stays : ¬ (h.mBatchingId = 0 ∧ h.mLocationApi = true)) :
    startBatching interval distance batchingMode id h = (h.mBatchingId, h, []) := by
  refine Emit.get_bind_eq ?_
  rw [if_neg stays]
  rfl

theorem stopBatching_of_running (runs : h.mBatchingId ≠ 0 ∧ h.mLocationApi = true) :
    stopBatching h = ((), { h with mBatchingId := 0 }, [.stopBatching h.mBatchingId]) := by
  refine Emit.get_bind_eq ?_
  rw [if_pos runs]
  rfl

theorem stopBatching_of_not (idle : ¬ (h.mBatchingId ≠ 0 ∧ h.mLocationApi = true)) : stopBatching h = ((), h, []) := by
  refine Emit.get_bind_eq ?_
  rw [if_neg idle]
  rfl

theorem updateBatchingOptions_of_running (runs : h.mBatchingId ≠ 0 ∧ h.mLocationApi = true) :
    updateBatchingOptions interval distance batchingMode h =
      ((), { h with mBatchOptions := batchOptions h.mBatchOptions interval distance batchingMode },
        [.updateBatchingOptions h.mBatchingId (batchOptions h.mBatchOptions interval distance batchingMode)]) := by
  refine Emit.get_bind_eq ?_
  rw [if_pos runs]
  rfl

theorem updateBatchingOptions_of_not (idle : ¬ (h.mBatchingId ≠ 0 ∧ h.mLocationApi = true)) :
    updateBatchingOptions interval distance batchingMode h = ((), h, []) := by
  refine Emit.get_bind_eq ?_
  rw [if_neg idle]
  rfl

end Batching

/-- The queue with one more message. -/
def noted (h : LocHalDaemonClientHandler) (msgId : ELocMsgID) : LocHalDaemonClientHandler :=
  { h with mPendingMessages := h.mPendingMessages ++ [msgId] }

theorem updateSubscription_eq (mask : UInt32) :
    updateSubscription mask h =
      ((), { h with mSubscriptionMask := mask }, if h.mLocationApi then [.updateCallbacks mask] else []) := by
  refine Emit.bind_eq (v := []) (w := if h.mLocationApi then [HandlerOutput.updateCallbacks mask] else []) rfl
    (Emit.get_bind_eq ?_)
  by_cases api : h.mLocationApi = true
  · rw [if_pos api, if_pos api]
    rfl
  · rw [if_neg api, if_neg api]
    rfl

theorem next_onResponseCb (sender : h.mIpcSender = true) (err : LocationError) :
    (onResponseCb err).next h = { h with mPendingMessages := h.mPendingMessages.tail } := by
  rw [onResponseCb, Emit.next_get_bind, if_pos sender, Emit.next_bind, Emit.next_ite, Emit.next_emit, Emit.next_pure,
    ite_self, Emit.next_modify]

/-- A response is for the oldest message of the queue. -/
theorem mem_emitted_onResponseCb {err err' : LocationError} {msgId : ELocMsgID}
    (sent : .genericResp msgId err' ∈ (onResponseCb err).emitted h) :
    err' = err ∧ msgId = h.mPendingMessages.head?.getD .E_LOCAPI_UNDEFINED_MSG_ID := by
  rw [onResponseCb, Emit.emitted_get_bind, Emit.emitted_ite] at sent
  split at sent
  · rw [Emit.emitted_bind, Emit.emitted_modify, List.nil_append, Emit.emitted_ite] at sent
    split at sent
    · exact (HandlerOutput.genericResp.inj (List.mem_singleton.mp sent)).symm
    · exact absurd sent List.not_mem_nil
  · exact absurd sent List.not_mem_nil

theorem Sound.noted (sound : h.Sound) (msgId : ELocMsgID) : (h.noted msgId).Sound :=
  ⟨sound.tracking, sound.batching, sound.sender⟩

end LocHalDaemonClientHandler

section Handlers

open LocHalDaemonClientHandler

variable {h h' : LocHalDaemonClientHandler} {outputs : List HandlerOutput}

/-- A start that comes to no session is not noted. -/
theorem startTrackingHandler_of_zero {locOptions : LocationOptions} {id : UInt32}
    (failed : startTrackingWith locOptions id h = (0, h', outputs)) :
    startTrackingHandler locOptions id h = ((), h', outputs) :=
  (Emit.bind_eq (w := []) failed rfl).trans (by rw [List.append_nil])

theorem startTrackingHandler_of_ne_zero {locOptions : LocationOptions} {id sessionId : UInt32}
    (started : startTrackingWith locOptions id h = (sessionId, h', outputs)) (nonzero : sessionId ≠ 0) :
    startTrackingHandler locOptions id h =
      ((), { h' with mTracking := true }.noted .E_LOCAPI_START_TRACKING_MSG_ID, outputs) := by
  refine (Emit.bind_eq (w := []) started ?_).trans (by rw [List.append_nil])
  rw [if_neg nonzero]
  rfl

theorem startBatchingHandler_of_zero {interval distance : ℕ} {batchingMode : BatchingMode} {id : UInt32}
    (failed : LocHalDaemonClientHandler.startBatching interval distance batchingMode id h = (0, h', outputs)) :
    startBatchingHandler interval distance batchingMode id h = ((), h', outputs) :=
  (Emit.bind_eq (w := []) failed rfl).trans (by rw [List.append_nil])

theorem startBatchingHandler_of_ne_zero {interval distance : ℕ} {batchingMode : BatchingMode} {id batchingId : UInt32}
    (started : LocHalDaemonClientHandler.startBatching interval distance batchingMode id h = (batchingId, h', outputs))
    (nonzero : batchingId ≠ 0) :
    startBatchingHandler interval distance batchingMode id h =
      ((), { h' with mBatching := true, mBatchingMode := batchingMode }.noted .E_LOCAPI_START_BATCHING_MSG_ID,
        outputs) := by
  refine (Emit.bind_eq (w := []) started ?_).trans (by rw [List.append_nil])
  rw [if_neg nonzero]
  rfl

/-- The handler when a stop of tracking looks at its session. -/
def untracked (h : LocHalDaemonClientHandler) : LocHalDaemonClientHandler :=
  { h with mTracking := false, mSubscriptionMask := h.mSubscriptionMask &&& ~~~ LOCATION_SESSON_ALL_INFO_MASK }

theorem stopTrackingHandler_eq (stopped : LocHalDaemonClientHandler.stopTracking (untracked h) = ((), h', outputs)) :
    stopTrackingHandler h = ((), h'.noted .E_LOCAPI_STOP_TRACKING_MSG_ID,
      (if h.mLocationApi then [.updateCallbacks (untracked h).mSubscriptionMask] else []) ++ outputs) := by
  refine Emit.bind_eq (v := []) rfl (Emit.bind_eq (Emit.get_bind_eq (updateSubscription_eq _)) ?_)
  exact (Emit.bind_eq (w := []) stopped rfl).trans (by rw [List.append_nil]; rfl)

/-- The handler when a stop of batching looks at its session. -/
def unbatched (h : LocHalDaemonClientHandler) : LocHalDaemonClientHandler :=
  { h with mBatching := false, mBatchingMode := .noAutoReport, mSubscriptionMask := 0 }

theorem stopBatchingHandler_eq (stopped : LocHalDaemonClientHandler.stopBatching (unbatched h) = ((), h', outputs)) :
    stopBatchingHandler h = ((), h'.noted .E_LOCAPI_STOP_BATCHING_MSG_ID,
      (if h.mLocationApi then [.updateCallbacks 0] else []) ++ outputs) := by
  refine Emit.bind_eq (v := []) rfl (Emit.bind_eq (updateSubscription_eq _) ?_)
  exact (Emit.bind_eq (w := []) stopped rfl).trans (by rw [List.append_nil]; rfl)

theorem updateTrackingOptionsHandler_eq {locOptions : LocationOptions}
    (updated : LocHalDaemonClientHandler.updateTrackingOptions locOptions h = ((), h', outputs)) :
    updateTrackingOptionsHandler locOptions h =
      ((), h'.noted .E_LOCAPI_UPDATE_TRACKING_OPTIONS_MSG_ID, outputs) :=
  (Emit.bind_eq (w := []) updated rfl).trans (by rw [List.append_nil]; rfl)

theorem updateBatchingOptionsHandler_eq {interval distance : ℕ} {batchingMode : BatchingMode}
    (updated : LocHalDaemonClientHandler.updateBatchingOptions interval distance batchingMode h = ((), h', outputs)) :
    updateBatchingOptionsHandler interval distance batchingMode h =
      ((), h'.noted .E_LOCAPI_UPDATE_BATCHING_OPTIONS_MSG_ID, outputs) :=
  (Emit.bind_eq (w := []) updated rfl).trans (by rw [List.append_nil]; rfl)

end Handlers

section Power

open LocHalDaemonClientHandler

variable {h : LocHalDaemonClientHandler}

theorem suspendHandler_of_idle (idle : h.mTracking = false) : suspendHandler h = ((), h, []) :=
  Emit.get_bind_eq (by rw [if_neg (by simp only [idle, Bool.false_eq_true, not_false_eq_true])]; rfl)

theorem suspendHandler_of_tracking {h' : LocHalDaemonClientHandler} {outputs : List HandlerOutput}
    (tracks : h.mTracking = true) (stopped : LocHalDaemonClientHandler.stopTracking h = ((), h', outputs)) :
    suspendHandler h = ((), h'.noted .E_LOCAPI_STOP_TRACKING_MSG_ID, outputs) := by
  refine Emit.get_bind_eq ?_
  rw [if_pos tracks]
  exact (Emit.bind_eq (w := []) stopped rfl).trans (by rw [List.append_nil]; rfl)

theorem resumeHandler_of_idle {id : UInt32} (idle : h.mTracking = false) : resumeHandler id h = (true, h, []) :=
  Emit.get_bind_eq (by rw [if_neg (by simp only [idle, Bool.false_eq_true, not_false_eq_true])]; rfl)

theorem resumeHandler_of_tracking {h' : LocHalDaemonClientHandler} {outputs : List HandlerOutput}
    {id sessionId : UInt32}
    (tracks : h.mTracking = true) (started : LocHalDaemonClientHandler.startTracking id h = (sessionId, h', outputs))
    (nonzero : sessionId ≠ 0) :
    resumeHandler id h = (true, h'.noted .E_LOCAPI_START_TRACKING_MSG_ID, outputs) := by
  refine Emit.get_bind_eq ?_
  rw [if_pos tracks]
  refine (Emit.bind_eq (w := []) started ?_).trans (by rw [List.append_nil])
  rw [if_neg nonzero]
  rfl

theorem resumeHandler_of_failed {h' : LocHalDaemonClientHandler} {outputs : List HandlerOutput} {id : UInt32}
    (tracks : h.mTracking = true) (failed : LocHalDaemonClientHandler.startTracking id h = (0, h', outputs)) :
    resumeHandler id h = (false, h', outputs) := by
  refine Emit.get_bind_eq ?_
  rw [if_pos tracks]
  exact (Emit.bind_eq (w := []) failed rfl).trans (by rw [List.append_nil])

end Power

section Effect

open LocHalDaemonClientHandler

variable {h : LocHalDaemonClientHandler}

/-- What a request comes to, and that it leaves a sound handler. -/
def Comes (h : LocHalDaemonClientHandler) (r : Request) : Prop :=
  ∃ h' outputs, r.run h = ((), h', outputs) ∧ h'.Sound ∧ Effect h r h' outputs

theorem comes_startTracking (sound : h.Sound) (locOptions : LocationOptions) (id : UInt32) :
    Comes h (.startTracking locOptions id) := by
  by_cases idle : h.mSessionId = 0
  · by_cases api : h.mLocationApi = true
    · have started := startTrackingWith_of_start locOptions id ⟨idle, api⟩
      by_cases zero : id = 0
      · subst zero
        refine ⟨_, _, startTrackingHandler_of_zero started, ⟨fun _ => api, sound.batching, sound.sender⟩, ?_⟩
        exact .failed idle rfl rfl
      · refine ⟨_, _, startTrackingHandler_of_ne_zero started zero, ?_, .called idle rfl ?_⟩
        · exact ⟨fun _ => api, sound.batching, sound.sender⟩
        · exact Request.calls_of_ne_zero fun failed => zero (Option.some.inj failed)
    · have failed := startTrackingWith_of_not locOptions id fun starts => api starts.2
      rw [idle] at failed
      exact ⟨_, _, startTrackingHandler_of_zero failed, sound, .failed idle rfl (by simp [Request.calls])⟩
  · have repeated := startTrackingWith_of_not locOptions id fun starts => idle starts.1
    refine ⟨_, _, startTrackingHandler_of_ne_zero repeated idle, ?_, .uncalled idle rfl (by simp [Request.calls])⟩
    exact ⟨sound.tracking, sound.batching, sound.sender⟩

theorem comes_startBatching (sound : h.Sound) (interval distance : ℕ) (batchingMode : BatchingMode) (id : UInt32) :
    Comes h (.startBatching interval distance batchingMode id) := by
  by_cases idle : h.mBatchingId = 0
  · by_cases api : h.mLocationApi = true
    · have started := startBatching_of_start interval distance batchingMode
        id ⟨idle, api⟩
      by_cases zero : id = 0
      · subst zero
        refine ⟨_, _, startBatchingHandler_of_zero started, ⟨sound.tracking, fun _ => api, sound.sender⟩, ?_⟩
        exact .failed idle rfl rfl
      · refine ⟨_, _, startBatchingHandler_of_ne_zero started zero, ?_, .called idle rfl ?_⟩
        · exact ⟨sound.tracking, fun _ => api, sound.sender⟩
        · exact Request.calls_of_ne_zero fun failed => zero (Option.some.inj failed)
    · have failed := startBatching_of_not interval distance batchingMode
        id fun starts => api starts.2
      rw [idle] at failed
      exact ⟨_, _, startBatchingHandler_of_zero failed, sound, .failed idle rfl (by simp [Request.calls])⟩
  · have repeated := startBatching_of_not interval distance batchingMode
      id fun starts => idle starts.1
    refine ⟨_, _, startBatchingHandler_of_ne_zero repeated idle, ?_, .uncalled idle rfl (by simp [Request.calls])⟩
    exact ⟨sound.tracking, sound.batching, sound.sender⟩

/-- A request other than a start makes its call exactly when it finds a session. -/
theorem comes_of_running {r : Request} {h' : LocHalDaemonClientHandler} {outputs : List HandlerOutput}
    (ran : r.run h = ((), h', outputs)) (sound : h'.Sound) (pending : h'.mPendingMessages = h.mPendingMessages ++
    [r.msgId])
    (other : r.started = none)
    (calls : (r.session h ≠ 0 → r.calls outputs = [r.msgId]) ∧ (r.session h = 0 → r.calls outputs = [])) :
    Comes h r := by
  refine ⟨h', outputs, ran, sound, ?_⟩
  by_cases idle : r.session h = 0
  · exact .uncalled (by simp [Request.Fits, other, idle]) pending (calls.2 idle)
  · exact .called (by simp [Request.Fits, other, idle]) pending (calls.1 idle)

theorem comes_stopTracking (sound : h.Sound) : Comes h .stopTracking := by
  by_cases idle : h.mSessionId = 0
  · have stopped := stopTracking_of_not (h := untracked h) fun runs => runs.1 idle
    refine comes_of_running (stopTrackingHandler_eq stopped) ?_ rfl rfl ⟨fun runs => absurd idle runs, fun _ => ?_⟩
    · exact ⟨sound.tracking, sound.batching, sound.sender⟩
    · exact Request.calls_updateCallbacks ..
  · have stopped := stopTracking_of_running (h := untracked h) ⟨idle, sound.tracking idle⟩
    refine comes_of_running (stopTrackingHandler_eq stopped) ?_ rfl rfl ⟨fun _ => ?_, fun zero => absurd zero idle⟩
    · exact ⟨fun runs => absurd rfl runs, sound.batching, sound.sender⟩
    · exact Request.calls_updateCallbacks ..

theorem comes_stopBatching (sound : h.Sound) : Comes h .stopBatching := by
  by_cases idle : h.mBatchingId = 0
  · have stopped := stopBatching_of_not (h := unbatched h) fun runs => runs.1 idle
    refine comes_of_running (stopBatchingHandler_eq stopped) ?_ rfl rfl ⟨fun runs => absurd idle runs, fun _ => ?_⟩
    · exact ⟨sound.tracking, sound.batching, sound.sender⟩
    · exact Request.calls_updateCallbacks ..
  · have stopped := stopBatching_of_running (h := unbatched h) ⟨idle, sound.batching idle⟩
    refine comes_of_running (stopBatchingHandler_eq stopped) ?_ rfl rfl ⟨fun _ => ?_, fun zero => absurd zero idle⟩
    · exact ⟨sound.tracking, fun runs => absurd rfl runs, sound.sender⟩
    · exact Request.calls_updateCallbacks ..

theorem comes_updateTrackingOptions (sound : h.Sound) (locOptions : LocationOptions) :
    Comes h (.updateTrackingOptions locOptions) := by
  by_cases idle : h.mSessionId = 0
  · have updated := updateTrackingOptions_of_not locOptions fun runs => runs.1 idle
    refine comes_of_running (updateTrackingOptionsHandler_eq updated) (sound.noted _) rfl rfl ⟨?_, fun _ => rfl⟩
    exact fun runs => absurd idle runs
  · have updated := updateTrackingOptions_of_running locOptions ⟨idle, sound.tracking idle⟩
    refine comes_of_running (updateTrackingOptionsHandler_eq updated) ?_ rfl rfl ⟨fun _ => rfl, fun zero =>
      absurd zero idle⟩
    exact ⟨sound.tracking, sound.batching, sound.sender⟩

theorem comes_updateBatchingOptions (sound : h.Sound) (interval distance : ℕ) (batchingMode : BatchingMode) :
    Comes h (.updateBatchingOptions interval distance batchingMode) := by
  by_cases idle : h.mBatchingId = 0
  · have updated := updateBatchingOptions_of_not interval distance batchingMode fun runs => runs.1 idle
    refine comes_of_running (updateBatchingOptionsHandler_eq updated) (sound.noted _) rfl rfl ⟨?_, fun _ => rfl⟩
    exact fun runs => absurd idle runs
  · have updated := updateBatchingOptions_of_running interval distance batchingMode ⟨idle, sound.batching idle⟩
    refine comes_of_running (updateBatchingOptionsHandler_eq updated) ?_ rfl rfl ⟨fun _ => rfl, fun zero =>
      absurd zero idle⟩
    exact ⟨sound.tracking, sound.batching, sound.sender⟩

theorem comes (sound : h.Sound) (r : Request) : Comes h r := by
  cases r with
  | startTracking locOptions id => exact comes_startTracking sound locOptions id
  | stopTracking => exact comes_stopTracking sound
  | updateTrackingOptions locOptions => exact comes_updateTrackingOptions sound locOptions
  | startBatching interval distance batchingMode id => exact comes_startBatching sound interval distance batchingMode id
  | stopBatching => exact comes_stopBatching sound
  | updateBatchingOptions interval distance batchingMode =>
    exact comes_updateBatchingOptions sound interval distance batchingMode

end Effect

section Silent

open LocHalDaemonClientHandler Emit

/-- A request sends no response itself. -/
def IsCall (output : HandlerOutput) : Prop := ∀ msgId err, output ≠ .genericResp msgId err

theorem only_updateSubscription (mask : UInt32) : (updateSubscription mask).Only IsCall :=
  (only_modify _).bind fun _ => only_get_bind fun _ => only_ite (only_emit (by rintro _ _ ⟨⟩)) (only_pure ())

theorem only_stopTracking : LocHalDaemonClientHandler.stopTracking.Only IsCall :=
  only_get_bind fun _ => only_ite ((only_emit (by rintro _ _ ⟨⟩)).bind fun _ => only_modify _) (only_pure ())

theorem only_stopBatching : LocHalDaemonClientHandler.stopBatching.Only IsCall :=
  only_get_bind fun _ => only_ite ((only_emit (by rintro _ _ ⟨⟩)).bind fun _ => only_modify _) (only_pure ())

theorem only_run (r : Request) : r.run.Only IsCall := by
  have push (msgId : ELocMsgID) : (push msgId).Only IsCall := only_modify _
  have noted (f : LocHalDaemonClientHandler → LocHalDaemonClientHandler) (msgId : ELocMsgID) :
      (modify f >>= fun _ => LocHalDaemonClientHandler.push msgId : HandlerM Unit).Only IsCall :=
    (only_modify f).bind fun _ => push msgId
  cases r with
  | startTracking locOptions id =>
    refine Only.bind (only_get_bind fun _ => Only.bind (only_ite ?_ (only_pure ())) fun _ => ?_) fun _ => ?_
    · exact (only_emit (by rintro _ _ ⟨⟩)).bind fun _ => only_modify _
    · exact only_get_bind fun _ => only_pure _
    · exact only_ite (only_pure ()) (noted _ _)
  | startBatching interval distance batchingMode id =>
    refine Only.bind (only_get_bind fun _ => Only.bind (only_ite ?_ (only_pure ())) fun _ => ?_) fun _ => ?_
    · exact (only_emit (by rintro _ _ ⟨⟩)).bind fun _ => only_modify _
    · exact only_get_bind fun _ => only_pure _
    · exact only_ite (only_pure ()) (noted _ _)
  | stopTracking =>
    refine (only_modify _).bind fun _ => Only.bind (only_get_bind fun _ => only_updateSubscription _) fun _ => ?_
    exact only_stopTracking.bind fun _ => push _
  | stopBatching =>
    refine (only_modify _).bind fun _ => (only_updateSubscription _).bind fun _ => ?_
    exact only_stopBatching.bind fun _ => push _
  | updateTrackingOptions locOptions =>
    refine Only.bind (only_get_bind fun _ => only_ite ?_ (only_pure ())) fun _ => push _
    exact (only_emit (by rintro _ _ ⟨⟩)).bind fun _ => only_modify _
  | updateBatchingOptions interval distance batchingMode =>
    refine Only.bind (only_get_bind fun _ => only_ite ?_ (only_pure ())) fun _ => push _
    exact (only_modify _).bind fun _ => only_emit (by rintro _ _ ⟨⟩)

end Silent

end Cypfr.HalDaemon
