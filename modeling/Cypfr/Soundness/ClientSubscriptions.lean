import Cypfr.Soundness.ClientDaemon

/-! # The daemon has the callbacks that its client waits for

Once the daemon has read what is under way from a client that is registered, it reports all that the client has
callbacks for. Only a session that goes on to listen passively breaks this: the stop that the client sends then also takes the
callbacks of the session from the daemon, while the client keeps them.
-/

namespace Cypfr.ClientApi

open Tracking HalDaemon Machine

/-- A mask has all bits that are needed. -/
def Covers (mask need : UInt32) : Prop := need &&& mask = need

section Masks

variable {mask other need sub : UInt32}

theorem covers_self : Covers mask mask := UInt32.and_self

theorem covers_zero : Covers mask 0 := UInt32.zero_and

theorem Covers.trans (covers : Covers mask need) (within : Covers need sub) : Covers mask sub := by
  calc sub &&& mask = (sub &&& need) &&& mask := by rw [within]
    _ = sub &&& (need &&& mask) := UInt32.and_assoc ..
    _ = sub &&& need := by rw [covers]
    _ = sub := within

theorem Covers.or_left (covers : Covers mask need) : Covers (mask ||| other) need := by
  refine (?_ : Covers (mask ||| other) mask).trans covers
  refine UInt32.toBitVec_inj.mp (BitVec.eq_of_getLsbD_eq fun i _ => ?_)
  rw [UInt32.toBitVec_and, UInt32.toBitVec_or, BitVec.getLsbD_and, BitVec.getLsbD_or]
  cases mask.toBitVec.getLsbD i <;> rfl

theorem covers_or_right : Covers (mask ||| other) other := by
  rw [UInt32.or_comm]
  exact covers_self.or_left

/-- What is still needed after some bits were taken away is what had none of them. -/
theorem Covers.without_iff (covers : Covers mask need) : Covers (mask &&& ~~~ other) need ↔ need &&& other = 0 := by
  have same : need &&& (mask &&& ~~~ other) = need &&& ~~~ other := by rw [← UInt32.and_assoc, covers]
  rw [Covers, same]
  constructor
  · intro kept
    calc need &&& other = (need &&& ~~~ other) &&& other := by rw [kept]
      _ = need &&& (~~~ other &&& other) := UInt32.and_assoc ..
      _ = 0 := by rw [UInt32.not_and_self, UInt32.and_zero]
  · intro apart
    refine UInt32.toBitVec_inj.mp (BitVec.eq_of_getLsbD_eq fun i low => ?_)
    have none : (need &&& other).toBitVec.getLsbD i = false := by rw [apart]; exact BitVec.getLsbD_zero
    rw [UInt32.toBitVec_and, BitVec.getLsbD_and] at none
    rw [UInt32.toBitVec_and, UInt32.toBitVec_not, BitVec.getLsbD_and, BitVec.getLsbD_not, decide_eq_true low,
      Bool.true_and]
    cases set : need.toBitVec.getLsbD i with
    | false => rfl
    | true =>
      rw [set, Bool.true_and] at none
      rw [none]
      rfl

end Masks

/-- A client that listens for the system information has the bit of it. -/
def Listens (impl : LocationClientApiImpl) : Prop :=
  impl.mLocationSysInfoCb = true → Covers impl.mCallbacksMask E_LOC_CB_SYSTEM_INFO_BIT

/-- The daemon has the callbacks of a client that takes itself for registered and has no restart to hear of. -/
def Subscribed (impl : LocationClientApiImpl) (tasks : List Task) (p : Peer) : Prop :=
  impl.mHalRegistered = true → .halReady ∉ tasks → Covers p.mask impl.mCallbacksMask

/-- A session that goes on to listen passively has no callbacks of a session. -/
def KeepsMask (impl : LocationClientApiImpl) : List Task → Prop
  | .startTracking option :: rest =>
    impl.mHalRegistered = true → .halReady ∉ rest → impl.mSessionId ≠ 0 → IsPassive option.toLocationOptions →
      ¬ IsPassive impl.mLocationOptions → impl.mCallbacksMask &&& LOCATION_SESSON_ALL_INFO_MASK = 0
  | _ => True

section Tasks

variable {impl impl' : LocationClientApiImpl} {task : Task} {tasks rest more : List Task} {sent : List ClientMsg}
  {posted : List Task} {mode : GnssSuplMode} {p : Peer} {option : TrackingOptions}

theorem covers_callBacksMask (callbacks : LocationCallbacks) (listens : impl.mLocationSysInfoCb = true) :
    Covers (impl.callBacksMask callbacks) E_LOC_CB_SYSTEM_INFO_BIT := by
  rw [LocationClientApiImpl.callBacksMask, if_pos listens]
  exact covers_or_right.or_left.or_left.or_left

/-- Each message keeps the bit of the system information. -/
theorem Listens.proc (listens : Listens impl) (task : Task) : Listens (task.proc.next impl) := by
  cases task with
  | updateCallbackFunctions | clientRegister | halReady => exact listens
  | capabilities =>
    rw [Task.proc, (capabilitesCallback_eq impl).1]
    exact listens
  | updateCallbacks callbacks =>
    rw [Task.proc, LocationClientApiImpl.updateCallbacks, Emit.next_bind, Emit.next_modify, Emit.next_get_bind]
    split
    · rw [Emit.next_bind, Emit.next_modify, (sendIfRegistered_eq _ _).1]
      exact covers_callBacksMask callbacks
    · exact listens
  | updateLocationSystemInfoListener sysInfoCb =>
    rw [Task.proc, LocationClientApiImpl.updateLocationSystemInfoListener, Emit.next_get_bind]
    split
    · rw [Emit.next_bind, Emit.next_modify, (sendIfRegistered_eq _ _).1]
      intro set
      dsimp only at set
      subst set
      exact covers_or_right
    · exact listens
  | startTracking option =>
    obtain ⟨started, -⟩ := startTracking_started impl option.toLocationOptions
    rw [Task.proc]
    cases started with
    | kept _ after | new _ _ after | updated _ _ _ after | same _ _ _ after => rw [after]; exact listens
  | stopTracking =>
    rw [Task.proc, (stopTracking_eq impl).1, stopped]
    split
    · intro set
      dsimp only at set ⊢
      rw [if_pos set]
      exact covers_self
    · exact listens
  | genericResp msgId err =>
    rw [Task.proc]
    split
    · exact listens
    · rw [(invokePositionSessionResponseCb_eq impl _).1]
      exact listens

theorem mask_receive_startTracking (options : LocationOptions) :
    (p.receive mode (.startTracking options)).mask = p.mask := by
  cases p with
  | mk registered session mask => cases registered <;> rfl

theorem mask_receive_updateTrackingOptions (options : LocationOptions) :
    (p.receive mode (.updateTrackingOptions options)).mask = p.mask := by
  cases p with
  | mk registered session mask => cases registered <;> rfl

theorem mask_receive_updateCallbacks (known : p.registered = true) (mask : UInt32) :
    (p.receive mode (.updateCallbacks mask)).mask = mask := by
  obtain ⟨registered, session, old⟩ := p
  dsimp only at known
  subst known
  rfl

theorem mask_receive_stopTracking (known : p.registered = true) :
    (p.receive mode .stopTracking).mask = p.mask &&& ~~~ LOCATION_SESSON_ALL_INFO_MASK := by
  obtain ⟨registered, session, old⟩ := p
  dsimp only at known
  subst known
  rfl

/-- A message that changes the callbacks tells the daemon of them. -/
theorem covers_subscribes (plain : Subscribes impl impl' sent) (registered : impl.mHalRegistered = true)
    (known : p.registered = true) (covers : Covers p.mask impl.mCallbacksMask) :
    Covers (sent.foldl (Peer.receive mode) p).mask impl'.mCallbacksMask := by
  rcases plain.told with ⟨rfl, same⟩ | rfl
  · rw [same]
    exact covers
  · rw [if_pos registered, List.foldl_cons, List.foldl_nil, mask_receive_updateCallbacks known]
    exact covers_self

/-- A start keeps the callbacks at the daemon exactly when it does not stop a session that has some of its own. -/
theorem subscribed_start_iff (started : Started impl option.toLocationOptions impl' sent)
    (known : impl'.mHalRegistered = true → .halReady ∉ rest → p.registered = true)
    (covers : Subscribed impl (.startTracking option :: rest) p) :
    Subscribed impl' rest (sent.foldl (Peer.receive mode) p) ↔ KeepsMask impl (.startTracking option :: rest) := by
  have before (registered : impl.mHalRegistered = true) (heard : .halReady ∉ rest) :
      Covers p.mask impl.mCallbacksMask :=
    covers registered fun waits => heard ((List.mem_cons.mp waits).resolve_left (by rintro ⟨⟩))
  cases started with
  | kept deaf after =>
    refine iff_of_true (fun registered => ?_) fun registered => ?_
    · rw [after] at registered
      exact absurd (deaf.symm.trans registered) Bool.false_ne_true
    · exact absurd (deaf.symm.trans registered) Bool.false_ne_true
  | new registered idle after start =>
    refine iff_of_true (fun _ heard => ?_) fun _ _ runs => absurd idle runs
    have covers := before registered heard
    rw [start, after]
    split
    · exact covers
    · rw [List.foldl_cons, List.foldl_nil, mask_receive_startTracking]
      exact covers
  | updated registered runs changed after update =>
    rw [update, after]
    by_cases stops : IsPassive option.toLocationOptions ∧ ¬ IsPassive impl.mLocationOptions
    · rw [if_pos stops]
      have exactly (heard : .halReady ∉ rest) :
          Covers ([ClientMsg.stopTracking].foldl (Peer.receive mode) p).mask impl.mCallbacksMask ↔
            impl.mCallbacksMask &&& LOCATION_SESSON_ALL_INFO_MASK = 0 := by
        have knows : p.registered = true := known (by rw [after]; exact registered) heard
        rw [List.foldl_cons, List.foldl_nil, mask_receive_stopTracking knows]
        exact (before registered heard).without_iff
      constructor
      · exact fun holds _ heard _ _ _ => (exactly heard).mp (holds registered heard)
      · exact fun keeps _ heard => (exactly heard).mpr (keeps registered heard runs stops.1 stops.2)
    · refine iff_of_true (fun _ heard => ?_) fun _ _ _ passive was => absurd ⟨passive, was⟩ stops
      have covers := before registered heard
      rw [if_neg stops]
      split
      · rw [List.foldl_cons, List.foldl_nil, mask_receive_startTracking]
        exact covers
      · rw [List.foldl_cons, List.foldl_nil, mask_receive_updateTrackingOptions]
        exact covers
  | same registered runs unchanged after nothing =>
    rw [nothing, after]
    refine iff_of_true (fun _ heard => before registered heard) fun _ _ _ passive was => ?_
    exact absurd ((isPassive_congr unchanged).mpr passive) was

/-- A message keeps the callbacks at the daemon, but for a start as above. -/
theorem subscribed_proc_iff (aware : Aware impl (task :: rest) p) (listens : Listens impl)
    (effect : Effect impl task impl' sent posted) (covers : Subscribed impl (task :: rest) p) :
    Subscribed impl' (rest ++ posted) (sent.foldl (Peer.receive mode) p) ↔ KeepsMask impl (task :: rest) := by
  have known := aware.before effect
  have absent (registered : impl'.mHalRegistered = true) (heard : .halReady ∉ rest ++ posted) :
      .halReady ∉ task :: rest := Aware.not_mem_of_effect effect registered heard
  cases effect with
  | start started =>
    rw [List.append_nil] at known ⊢
    exact subscribed_start_iff started known covers
  | stop =>
    refine iff_of_true (fun registered heard => ?_) trivial
    have before : impl.mHalRegistered = true := by
      rw [stopped] at registered
      split at registered <;> exact registered
    have covers := covers before (absent registered heard)
    have within : Covers impl.mCallbacksMask (stopped impl).mCallbacksMask := by
      rw [stopped]
      split
      · dsimp only
        split
        · next listening => exact listens listening
        · exact covers_zero
      · exact covers_self
    split
    · next told =>
      rw [List.foldl_cons, List.foldl_nil, mask_receive_stopTracking (known registered heard)]
      refine (covers.trans within).without_iff.mpr ?_
      rw [stopped, if_pos told.1]
      dsimp only
      split
      · rfl
      · exact UInt32.zero_and
    · exact covers.trans within
  | functions _ _ plain | callbacks _ plain | listener _ plain | response _ _ plain =>
    refine iff_of_true (fun registered heard => ?_) trivial
    have before : impl.mHalRegistered = true := plain.registered.symm.trans registered
    exact covers_subscribes plain before (known registered heard) (covers before (absent registered heard))
  | register =>
    refine iff_of_true (fun registered heard => ?_) trivial
    rw [List.foldl_cons, List.foldl_nil, Peer.receive_register]
    exact covers registered (absent registered heard)
  | capabilities =>
    refine iff_of_true (fun registered heard => ?_) trivial
    split
    · rw [List.foldl_cons, List.foldl_nil, mask_receive_updateCallbacks (known registered heard)]
      exact covers_self
    · next empty =>
      dsimp only
      rw [not_not.mp empty]
      exact covers_zero
  | halReady => exact iff_of_true (by rintro ⟨⟩) trivial

theorem Subscribed.append (covers : Subscribed impl tasks p) : Subscribed impl (tasks ++ more) p :=
  fun registered heard => covers registered fun waits => heard (List.mem_append_left _ waits)

/-- Of the moves, only a message of the task can take callbacks from the daemon. -/
theorem subscribed_move_iff {l : Link} {m : Move} (aware : Aware l.impl l.tasks (l.ahead mode))
    (listens : Listens l.impl) (covers : Subscribed l.impl l.tasks (l.ahead mode)) :
    Subscribed (l.move mode m).impl (l.move mode m).tasks ((l.move mode m).ahead mode) ↔
      (m = .proc → KeepsMask l.impl l.tasks) := by
  cases m with
  | call c => exact iff_of_true covers.append (by rintro ⟨⟩)
  | proc =>
    refine Iff.trans ?_ (forall_prop_of_true rfl).symm
    cases head : l.tasks with
    | nil =>
      rw [Link.move_proc_nil head]
      exact iff_of_true covers trivial
    | cons task rest =>
      rw [Link.move_proc_cons head, Link.ahead_append]
      rw [head] at aware covers
      exact subscribed_proc_iff aware listens (proc_effect l.impl task) covers
  | read =>
    obtain ⟨ahead, tasks, impl⟩ := Link.ahead_read mode l
    rw [ahead, tasks, impl]
    exact iff_of_true covers (by rintro ⟨⟩)
  | capabilities =>
    refine iff_of_true ?_ (by rintro ⟨⟩)
    rw [Link.move]
    split
    · exact covers.append
    · exact covers
  | answer responses => exact iff_of_true covers.append (by rintro ⟨⟩)
  | restart =>
    refine iff_of_true (fun _ heard => ?_) (by rintro ⟨⟩)
    exact absurd (List.mem_append_right _ (List.mem_singleton_self _)) heard
  | elsewhere => exact iff_of_true covers (by rintro ⟨⟩)

theorem Listens.move (mode : GnssSuplMode) {l : Link} (listens : Listens l.impl) (m : Move) :
    Listens (l.move mode m).impl := by
  cases m with
  | proc =>
    cases head : l.tasks with
    | nil => rw [Link.move_proc_nil head]; exact listens
    | cons task rest => rw [Link.move_proc_cons head]; exact listens.proc task
  | read => rw [(Link.ahead_read mode l).2.2]; exact listens
  | capabilities =>
    rw [Link.move]
    split <;> exact listens
  | call | answer | restart | elsewhere => exact listens

end Tasks

namespace System

variable {Client : Type} [DecidableEq Client] {mode : GnssSuplMode} {clientId : Client → ValidId} {s : System Client}
  {events : List (Event Client)} {client : Client}

/-- Once it has read what is under way, the daemon has the callbacks of the client. -/
def HasCallbacks (client : Client) (s : System Client) : Prop :=
  Subscribed (s.impl client) (s.tasks client) ((s.link client).ahead s.service.mPositionMode)

/-- A step does not turn a session with callbacks of its own to passive listening. -/
def KeepsCallbacks (client : Client) (s : System Client) (e : Event Client) : Prop :=
  e = .proc client → KeepsMask (s.impl client) (s.tasks client)

theorem moveOf_eq_proc_iff (e : Event Client) : s.moveOf client e = .proc ↔ e = .proc client := by
  cases e with
  | proc other =>
    rw [moveOf]
    split
    · next same => exact iff_of_true rfl (congrArg Event.proc same)
    · next different => exact iff_of_false (by rintro ⟨⟩) fun same => different (Event.proc.inj same)
  | call other | read other | capabilities other | answer other =>
    refine iff_of_false ?_ (by rintro ⟨⟩)
    rw [moveOf]
    split <;> rintro ⟨⟩
  | restart => exact iff_of_false (by rintro ⟨⟩) (by rintro ⟨⟩)

/-- In every run in which the daemon does not restart while a client is in the midst of registering: once it has read
what is under way, the daemon reports all that the client has callbacks for, throughout, exactly when no step turns a
session with callbacks of its own to passive listening. -/
theorem hasCallbacks_iff (may : EachStep System.step MayRestart (initial mode clientId) events) :
    Throughout System.step (HasCallbacks client) (initial mode clientId) events ↔
      EachStep System.step (KeepsCallbacks client) (initial mode clientId) events := by
  refine throughout_iff_eachStep_of (D := MayRestart)
    (I := fun s => (∀ client, s.Served client) ∧ s.service.mPositionMode = mode ∧ Listens (s.impl client) ∧
      Aware (s.link client).impl (s.link client).tasks ((s.link client).ahead mode))
    may ⟨fun _ => rfl, rfl, (by rintro ⟨⟩), aware_initial⟩ ?_ (by rintro ⟨⟩) ?_
  · rintro s e ⟨served, rfl, listens, aware⟩ may
    have link := (step_link e served client).2
    refine ⟨fun other => (step_link e served other).1, mPositionMode_step e, ?_, ?_⟩
    · have moved : Listens ((s.link client).move s.service.mPositionMode (s.moveOf client e)).impl :=
        Listens.move _ listens _
      rw [← link] at moved
      exact moved
    · rw [link]
      exact aware.move (may client)
  · rintro s e ⟨served, rfl, listens, aware⟩ may covers
    have link := (step_link e served client).2
    have moved := subscribed_move_iff (m := s.moveOf client e) aware listens covers
    rw [← link, moveOf_eq_proc_iff] at moved
    rw [HasCallbacks, mPositionMode_step]
    exact moved

/-- A client with a callback for sentences starts a session and then goes on to listen passively. -/
def turnedPassive : List (Event Unit) :=
  let id : ValidId := ⟨7, seven_ne_zero⟩
  let sentences : LocationCallbacks :=
    { trackingCb := false, gnssLocationInfoCb := false, engineLocationsInfoCb := false, gnssMeasurementsCb := false,
      gnssDataCb := false, gnssSvCb := false, gnssNmeaCb := true, batchingCb := false, batchingStatusCb := false,
      geofenceBreachCb := false }
  [.proc (), .read () id, .capabilities (), .proc (), .call () (.updateCallbacks sentences), .proc (),
    .call () (.startTracking (every 1000)), .proc (), .call () (.startTracking .zero), .proc ()]

theorem hasCallbacks_iff_turnedPassive :
    ¬ Throughout System.step (HasCallbacks ()) (initial .msb fun _ => ⟨1, by decide⟩) turnedPassive := by
  have may : EachStep System.step MayRestart (initial .msb fun _ => ⟨1, by decide⟩) turnedPassive := by
    iterate 10 refine eachStep_cons (fun _ => trivial) ?_
    exact eachStep_nil
  rw [hasCallbacks_iff may]
  intro keeps
  have last := keeps (turnedPassive.take 9) (.proc ()) List.prefix_rfl rfl rfl List.not_mem_nil
    (by decide) ⟨rfl, rfl⟩ (by decide)
  exact absurd last (by decide)

end System

end Cypfr.ClientApi
