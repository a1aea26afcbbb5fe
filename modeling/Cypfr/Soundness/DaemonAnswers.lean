import Cypfr.Machine.Run
import Cypfr.Proofs.LocHalDaemon
import Cypfr.Proofs.LocationApiService

/-! # Answers of the daemon name their requests

The service notes every request of a client, while the handler decides whether a call is made. The queue of messages is
the list of the calls that are to be answered exactly as long as every start of the client finds no session, and every
stop and every update finds one.
-/

namespace Cypfr.HalDaemon

open Tracking LocationApiService Machine

variable {Client : Type} [DecidableEq Client]

namespace Request

/-- The request, as the service takes it from a client. -/
def ask (client : Client) : Request → ServiceM Client Unit
  | .startTracking locOptions id => LocationApiService.startTracking client locOptions id
  | .stopTracking => LocationApiService.stopTracking client
  | .updateTrackingOptions locOptions => LocationApiService.updateTrackingOptions client locOptions
  | .startBatching interval distance batchingMode id => LocationApiService.startBatching client interval distance batchingMode id
  | .stopBatching => LocationApiService.stopBatching client
  | .updateBatchingOptions interval distance batchingMode =>
    LocationApiService.updateBatchingOptions client interval distance batchingMode

/-- The request with the position mode of the service. -/
def withMode (mode : GnssSuplMode) : Request → Request
  | .startTracking locOptions id => .startTracking { locOptions with mode := mode } id
  | .updateTrackingOptions locOptions => .updateTrackingOptions { locOptions with mode := mode }
  | r => r

variable {r : Request} {client : Client} {s : LocationApiService Client}

theorem next_ask : (r.ask client).next s = (onClient client (r.withMode s.mPositionMode).run).next s := by
    cases r <;> rfl

theorem emitted_ask : (r.ask client).emitted s = (onClient client (r.withMode s.mPositionMode).run).emitted s := by
  cases r <;> exact List.append_nil _

theorem fits_withMode {h : LocHalDaemonClientHandler} {mode : GnssSuplMode} : (r.withMode mode).Fits h ↔ r.Fits h := by
  cases r <;> rfl

theorem msgId_withMode {mode : GnssSuplMode} : (r.withMode mode).msgId = r.msgId := by cases r <;> rfl

theorem calls_withMode {mode : GnssSuplMode} : (r.withMode mode).calls = r.calls := by cases r <;> rfl

end Request

/-- A client asks for something, or `LocationAPI` answers the oldest call that the client waits for. -/
inductive ClientEvent (Client : Type) where
  | request (client : Client) (r : Request)
  | answer (client : Client) (err : LocationError)

/-- The service and, for each client, the messages of the calls that are to be answered. -/
structure Daemon (Client : Type) where
  service : LocationApiService Client
  calls : Client → List ELocMsgID

/-- What the handler of a client does. -/
def ofClient (client : Client) (outputs : List (ServiceOutput Client)) : List HandlerOutput :=
  outputs.filterMap fun
    | .handler other output => if other = client then some output else none
    | _ => none

namespace Daemon

/-- An answer needs a call; without one nothing happens. -/
def program (s : Daemon Client) : ClientEvent Client → ServiceM Client Unit
  | .request client r => r.ask client
  | .answer client err =>
    if s.calls client = [] then pure ()
    else do
      let _ ← onClient client (LocHalDaemonClientHandler.onResponseCb err)

def step (s : Daemon Client) (e : ClientEvent Client) : Daemon Client where
  service := (s.program e).next s.service
  calls := match e with
    | .request client r =>
      Function.update s.calls client (s.calls client ++ r.calls (ofClient client ((s.program e).emitted s.service)))
    | .answer client _ => Function.update s.calls client (s.calls client).tail

/-- A response that is sent to the client while one of its calls is answered is for that call. -/
def RightAnswer (client : Client) (s : Daemon Client) (e : ClientEvent Client) : Prop :=
  ∀ msgId err, .handler client (.genericResp msgId err) ∈ (s.program e).emitted s.service →
    e = .answer client err ∧ (s.calls client).head? = some msgId

/-- Once the calls of the client are answered its queue is empty. -/
def Quiet (client : Client) (s : Daemon Client) : Prop :=
  s.calls client = [] → ∀ h, s.service.getClient client = some h → h.mPendingMessages = []

/-- A start finds the client without a session, a stop or an update finds it with one. -/
def MayAsk (client : Client) (s : Daemon Client) : ClientEvent Client → Prop
  | .request other r => other = client → ∀ h, s.service.getClient client = some h → r.Fits h
  | .answer .. => True

/-- The handler of the client is sound, and notes at least the messages of its calls, in their order. -/
def Notes (client : Client) (s : Daemon Client) : Prop :=
  ∃ h, s.service.getClient client = some h ∧ h.Sound ∧ (s.calls client).Sublist h.mPendingMessages

/-- The handler of the client notes exactly the messages of its calls. -/
def Exact (client : Client) (s : Daemon Client) : Prop :=
  ∀ h, s.service.getClient client = some h → h.mPendingMessages = s.calls client

section Steps

variable {client other : Client} {s : Daemon Client} {r : Request} {err : LocationError} {h : LocHalDaemonClientHandler}

theorem step_request_of_ne (different : client ≠ other) :
    (s.step (.request other r)).service.getClient client = s.service.getClient client ∧
      (s.step (.request other r)).calls client = s.calls client := by
  refine ⟨?_, Function.update_of_ne different ..⟩
  exact (congrArg (getClient · client) Request.next_ask).trans (getClient_onClient_of_ne different)

variable (err) in
theorem step_answer_of_ne (different : client ≠ other) :
    (s.step (.answer other err)).service.getClient client = s.service.getClient client ∧
      (s.step (.answer other err)).calls client = s.calls client := by
  refine ⟨?_, Function.update_of_ne different ..⟩
  change ((s.program (.answer other err)).next s.service).getClient client = _
  rw [program, Emit.next_ite]
  split
  · rfl
  · exact getClient_onClient_of_ne different

theorem ofClient_map (outputs : List HandlerOutput) : ofClient client (outputs.map (.handler client)) = outputs := by
  induction outputs with
  | nil => rfl
  | cons output rest ih =>
    refine (List.filterMap_cons_some ?_).trans (congrArg (output :: ·) ih)
    exact if_pos rfl

/-- What a request of the client does to its handler and to its calls. -/
theorem step_request_self (registered : s.service.getClient client = some h) (sound : h.Sound) :
    ∃ h' outputs, (s.step (.request client r)).service.getClient client = some h' ∧ h'.Sound ∧
      (s.step (.request client r)).calls client = s.calls client ++ r.calls outputs ∧ Effect h r h' outputs := by
  obtain ⟨h', outputs, ran, sound', effect⟩ := comes sound (r.withMode s.service.mPositionMode)
  refine ⟨h', outputs, ?_, sound', ?_, ?_⟩
  · refine (congrArg (getClient · client) Request.next_ask).trans ?_
    rw [getClient_onClient_self, registered, Option.map_some, Emit.next, ran]
  · refine (Function.update_self ..).trans ?_
    change _ ++ r.calls (ofClient client ((r.ask client).emitted s.service)) = _
    rw [Request.emitted_ask, emitted_onClient, registered, Option.map_some, Option.elim_some, Emit.emitted, ran,
      ofClient_map]
  · cases effect with
    | failed fits pending calls =>
      exact .failed (Request.fits_withMode.mp fits) pending (Request.calls_withMode (r := r) ▸ calls)
    | called fits pending calls =>
      rw [Request.msgId_withMode] at pending calls
      exact .called (Request.fits_withMode.mp fits) pending (Request.calls_withMode (r := r) ▸ calls)
    | uncalled unfit pending calls =>
      rw [Request.msgId_withMode] at pending
      exact .uncalled (fun fits => unfit (Request.fits_withMode.mpr fits)) pending
        (Request.calls_withMode (r := r) ▸ calls)

variable (err) in
/-- What the answer to a call of the client does to its handler and to its calls. -/
theorem step_answer_self (registered : s.service.getClient client = some h) (sound : h.Sound)
    (waits : s.calls client ≠ []) :
    (s.step (.answer client err)).service.getClient client =
        some { h with mPendingMessages := h.mPendingMessages.tail } ∧
      (s.step (.answer client err)).calls client = (s.calls client).tail := by
  refine ⟨?_, Function.update_self ..⟩
  change ((s.program (.answer client err)).next s.service).getClient client = _
  rw [program, if_neg waits]
  refine getClient_onClient_self.trans ?_
  rw [registered, Option.map_some, LocHalDaemonClientHandler.next_onResponseCb sound.sender]

theorem step_answer_of_nil (idle : s.calls client = []) : s.step (.answer client err) = s := by
  have same : Function.update s.calls client (s.calls client).tail = s.calls := by
    rw [idle, List.tail_nil, ← idle]
    exact Function.update_eq_self ..
  rw [step, same, program, if_pos idle]
  rfl

theorem program_answer (waits : s.calls client ≠ []) :
    (s.program (.answer client err)).emitted s.service =
      (onClient client (LocHalDaemonClientHandler.onResponseCb err)).emitted s.service := by
  rw [program, if_neg waits]
  exact List.append_nil _

/-- The daemon emits only what its service does, through the handler of the client that the event is about. -/
theorem mem_emitted_program {e : ClientEvent Client} {output : HandlerOutput}
    (sent : .handler client output ∈ (s.program e).emitted s.service) :
    (∃ r, e = .request client r ∧ IsCall output) ∨
      ∃ err, e = .answer client err ∧ s.calls client ≠ [] ∧ ∃ h, s.service.getClient client = some h ∧
        output ∈ (LocHalDaemonClientHandler.onResponseCb err).emitted h := by
  cases e with
  | request other r =>
    rw [program, Request.emitted_ask, emitted_onClient] at sent
    cases found : s.service.getClient other with
    | none =>
      rw [found] at sent
      exact absurd sent List.not_mem_nil
    | some h =>
      rw [found] at sent
      obtain ⟨output', among, same⟩ := List.mem_map.mp sent
      obtain ⟨rfl, rfl⟩ := ServiceOutput.handler.inj same
      exact .inl ⟨r, rfl, only_run _ h _ among⟩
  | answer other err =>
    by_cases waits : s.calls other = []
    · rw [program, if_pos waits] at sent
      exact absurd sent List.not_mem_nil
    · rw [program_answer waits, emitted_onClient] at sent
      cases found : s.service.getClient other with
      | none =>
        rw [found] at sent
        exact absurd sent List.not_mem_nil
      | some h =>
        rw [found] at sent
        obtain ⟨output', among, same⟩ := List.mem_map.mp sent
        obtain ⟨rfl, rfl⟩ := ServiceOutput.handler.inj same
        exact .inr ⟨err, rfl, waits, h, found, among⟩

theorem Exact.rightAnswer (exact : Exact client s) (e : ClientEvent Client) : RightAnswer client s e := by
  intro msgId err sent
  obtain ⟨r, -, call⟩ | ⟨err', rfl, waits, h, registered, among⟩ := mem_emitted_program sent
  · exact absurd rfl (call msgId err)
  · obtain ⟨rfl, oldest⟩ := LocHalDaemonClientHandler.mem_emitted_onResponseCb among
    obtain ⟨msgId', rest, calls⟩ := List.exists_cons_of_ne_nil waits
    rw [exact h registered, calls] at oldest
    exact ⟨rfl, by rw [calls, oldest]; rfl⟩

theorem Exact.quiet (exact : Exact client s) : Quiet client s := fun idle h registered =>
  (exact h registered).trans idle

/-- A step keeps that the queue notes at least the calls. -/
theorem Notes.step (notes : Notes client s) (e : ClientEvent Client) : Notes client (s.step e) := by
  obtain ⟨h, registered, sound, sublist⟩ := notes
  cases e with
  | request other r =>
    by_cases same : client = other
    · subst same
      obtain ⟨h', outputs, registered', sound', calls', effect⟩ := step_request_self (r := r) registered sound
      refine ⟨h', registered', sound', ?_⟩
      rw [calls']
      cases effect with
      | failed fits pending calls => rwa [calls, List.append_nil, pending]
      | called fits pending calls => exact calls ▸ pending ▸ sublist.append_right _
      | uncalled unfit pending calls =>
        rw [calls, List.append_nil, pending]
        exact sublist.trans (List.sublist_append_left ..)
    · obtain ⟨registered', calls'⟩ := step_request_of_ne (s := s) (r := r) same
      exact ⟨h, registered'.trans registered, sound, calls' ▸ sublist⟩
  | answer other err =>
    by_cases same : client = other
    · subst same
      by_cases idle : s.calls client = []
      · rw [step_answer_of_nil idle]
        exact ⟨h, registered, sound, sublist⟩
      · obtain ⟨registered', calls'⟩ := step_answer_self err registered sound idle
        refine ⟨_, registered', ⟨sound.tracking, sound.batching, sound.sender⟩, ?_⟩
        rw [calls']
        exact sublist.tail
    · obtain ⟨registered', calls'⟩ := step_answer_of_ne (s := s) err same
      exact ⟨h, registered'.trans registered, sound, calls' ▸ sublist⟩

theorem exact_iff (registered : s.service.getClient client = some h) :
    Exact client s ↔ h.mPendingMessages = s.calls client :=
  ⟨fun exact => exact h registered, fun same _ found => Option.some.inj (registered.symm.trans found) ▸ same⟩

/-- A request leaves the queue exact exactly when it was and the request fits. -/
theorem exact_of_effect {h' : LocHalDaemonClientHandler} {outputs : List HandlerOutput} {calls : List ELocMsgID}
    (effect : Effect h r h' outputs) (noted : calls.Sublist h.mPendingMessages) :
    h'.mPendingMessages = calls ++ r.calls outputs ↔ h.mPendingMessages = calls ∧ r.Fits h := by
  cases effect with
  | failed fits pending none => rw [pending, none, List.append_nil, and_iff_left fits]
  | called fits pending single => rw [pending, single, List.append_left_inj, and_iff_left fits]
  | uncalled unfit pending none =>
    rw [pending, none, List.append_nil]
    refine iff_of_false (fun same => ?_) fun both => unfit both.2
    have longer := noted.length_le
    rw [← same, List.length_append, List.length_singleton] at longer
    omega

/-- A step leaves the queue exact exactly when it was and the event fits. -/
theorem Notes.exact_step_iff (notes : Notes client s) (e : ClientEvent Client) :
    Exact client (s.step e) ↔ Exact client s ∧ MayAsk client s e := by
  obtain ⟨h, registered, sound, sublist⟩ := notes
  rw [exact_iff registered]
  cases e with
  | request other r =>
    by_cases same : client = other
    · subst same
      obtain ⟨h', outputs, registered', sound', calls', effect⟩ := step_request_self (r := r) registered sound
      have fits : MayAsk client s (.request client r) ↔ r.Fits h :=
        ⟨fun may => may rfl h registered, fun fits _ _ found => Option.some.inj (registered.symm.trans found) ▸ fits⟩
      rw [exact_iff registered', calls', fits]
      exact exact_of_effect effect sublist
    · obtain ⟨registered', calls'⟩ := step_request_of_ne (s := s) (r := r) same
      rw [exact_iff (registered'.trans registered), calls']
      exact (and_iff_left fun self => absurd self.symm same).symm
  | answer other err =>
    refine Iff.trans ?_ (and_iff_left trivial).symm
    by_cases same : client = other
    · subst same
      by_cases idle : s.calls client = []
      · rw [step_answer_of_nil idle, exact_iff registered]
      · obtain ⟨registered', calls'⟩ := step_answer_self err registered sound idle
        rw [exact_iff registered', calls']
        refine ⟨fun tails => ?_, congrArg List.tail⟩
        have shorter : 0 < (s.calls client).length := List.length_pos_iff.mpr idle
        have lengths := congrArg List.length tails
        rw [List.length_tail, List.length_tail] at lengths
        exact (sublist.eq_of_length_le (by omega)).symm
    · obtain ⟨registered', calls'⟩ := step_answer_of_ne (s := s) err same
      rw [exact_iff (registered'.trans registered), calls']

end Steps

open LocHalDaemonClientHandler

/-- For a client that has just registered: while its requests fit, every answer is for the call that is answered and
no message stays behind; and where none does until all calls are answered, its requests have fitted. -/
theorem right_answers_iff (client : Client) (isClientApi : Bool) (s : Daemon Client) (events : List (ClientEvent Client))
    (registered : s.service.getClient client = some (construct isClientApi)) (idle : s.calls client = []) :
    (EachStep step (MayAsk client) s events →
        EachStep step (RightAnswer client) s events ∧ Throughout step (Quiet client) s events) ∧
      ((events.foldl step s).calls client = [] → Throughout step (Quiet client) s events →
        EachStep step (MayAsk client) s events) := by
  have notes : Notes client s :=
    ⟨_, registered, ⟨fun runs => absurd rfl runs, fun runs => absurd rfl runs, rfl⟩, idle ▸ List.nil_sublist _⟩
  have exact : Exact client s := (exact_iff registered).mpr idle.symm
  constructor
  · intro each
    have always : Throughout step (fun s => Notes client s ∧ Exact client s) s events :=
      throughout_of_eachStep ⟨notes, exact⟩
        (fun s e holds may => ⟨holds.1.step e, (holds.1.exact_step_iff e).mpr ⟨holds.2, may⟩⟩) each
    refine ⟨fun done e reached => ?_, fun done reached => (always done reached).2.quiet⟩
    exact (always done ((List.prefix_append done [e]).trans reached)).2.rightAnswer e
  · intro answered quiet
    refine (final_iff_eachStep_of (D := fun _ _ => True) (fun _ _ _ => trivial) notes (fun s e notes _ => notes.step e)
      exact fun s e notes _ => notes.exact_step_iff e).mp fun h registered => ?_
    rw [answered]
    exact quiet events List.prefix_rfl answered h registered

/-- A daemon with one client, which has not asked for anything. -/
def oneClient : Daemon ℕ where
  service := (newClient 0 true).next (initial .standalone)
  calls := fun _ => []

theorem right_answers_start_stop :
    let events := [.request 0 (.startTracking TrackingOptions.zero.toLocationOptions 5), .answer 0 .success,
      .request 0 .stopTracking, .answer 0 .success]
    EachStep step (RightAnswer 0) oneClient events ∧ Throughout step (Quiet 0) oneClient events := by
  refine (right_answers_iff 0 true oneClient _ rfl rfl).1 ?_
  refine eachStep_cons ?_ (eachStep_cons trivial (eachStep_cons ?_ (eachStep_cons trivial eachStep_nil)))
  · rintro - h ⟨⟩
    rfl
  · rintro - h ⟨⟩
    exact (by decide : (5 : UInt32) ≠ 0)

/-- A client that stops tracking without a session and then starts it hears of the stop when its start is answered. -/
theorem stop_without_session :
    ¬ ∀ (client : ℕ) (isClientApi : Bool) (s : Daemon ℕ) (events : List (ClientEvent ℕ)),
        s.service.getClient client = some (construct isClientApi) → s.calls client = [] →
          EachStep step (RightAnswer client) s events ∧ Throughout step (Quiet client) s events := by
  intro right
  let asked : List (ClientEvent ℕ) :=
    [.request 0 .stopTracking, .request 0 (.startTracking TrackingOptions.zero.toLocationOptions 5)]
  have answered := (right 0 true oneClient (asked ++ [.answer 0 .success]) rfl rfl).1 asked (.answer 0 .success)
    List.prefix_rfl .E_LOCAPI_STOP_TRACKING_MSG_ID .success (by decide)
  exact absurd answered.2 (by decide)

end Daemon

end Cypfr.HalDaemon
