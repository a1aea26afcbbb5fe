import Cypfr.Soundness.DaemonAnswers
import Cypfr.Soundness.DaemonPower

/-! # The intervals that the daemon asks for

A start and an update pass an interval that the engines support. An update keeps the options as it got them, and a
resumption passes what is kept.
-/

namespace Cypfr.HalDaemon

open Tracking LocationApiService Machine

/-- The options that a call passes to `LocationAPI` for tracking. -/
def HandlerOutput.passed : HandlerOutput → Option TrackingOptions
  | .startTracking options => some options
  | .updateTrackingOptions _ options => some options
  | _ => none

namespace LocHalDaemonClientHandler

/-- The client tracks or has a session. -/
def Live (h : LocHalDaemonClientHandler) : Prop := h.mTracking = true ∨ h.mSessionId ≠ 0

/-- What a program passes to `LocationAPI` for tracking. -/
def passes {α : Type} (p : HandlerM α) (h : LocHalDaemonClientHandler) : List TrackingOptions :=
  (p.emitted h).filterMap HandlerOutput.passed

/-- A program that passes nothing, and keeps the options and that a client is not live. -/
structure Silent {α : Type} (p : HandlerM α) (h : LocHalDaemonClientHandler) : Prop where
  passes : passes p h = []
  mOptions : (p.next h).mOptions = h.mOptions
  live : (p.next h).Live → h.Live

variable {h h' : LocHalDaemonClientHandler} {locOptions : LocationOptions} {id : UInt32} {α : Type} {p : HandlerM α}
  {a : α} {outputs : List HandlerOutput}

theorem silent_of_eq (ran : p h = (a, h', outputs)) (none : outputs.filterMap HandlerOutput.passed = [])
    (kept : h'.mOptions = h.mOptions) (live : h'.Live → h.Live) : Silent p h where
  passes := by rw [LocHalDaemonClientHandler.passes, Emit.emitted, ran, none]
  mOptions := by rw [Emit.next, ran, kept]
  live := by
    rw [Emit.next, ran]
    exact live

theorem startTrackingHandler_of_start (starts : h.mSessionId = 0 ∧ h.mLocationApi = true) :
    passes (startTrackingHandler locOptions id) h = [supported (ofLocationOptions locOptions)] ∧
      ((startTrackingHandler locOptions id).next h).mOptions = supported (ofLocationOptions locOptions) := by
  have started := startTrackingWith_of_start locOptions id starts
  by_cases failed : id = 0
  · subst failed
    rw [passes, Emit.emitted, Emit.next, startTrackingHandler_of_zero started]
    exact ⟨rfl, rfl⟩
  · rw [passes, Emit.emitted, Emit.next, startTrackingHandler_of_ne_zero started failed]
    exact ⟨rfl, rfl⟩

theorem startTrackingHandler_silent (stays : ¬ (h.mSessionId = 0 ∧ h.mLocationApi = true)) :
    Silent (startTrackingHandler locOptions id) h := by
  have repeated := startTrackingWith_of_not locOptions id stays
  by_cases idle : h.mSessionId = 0
  · rw [idle] at repeated
    exact silent_of_eq (startTrackingHandler_of_zero repeated) rfl rfl fun live => live
  · exact silent_of_eq (startTrackingHandler_of_ne_zero repeated idle) rfl rfl fun _ => Or.inr idle

theorem stopTrackingHandler_silent : Silent stopTrackingHandler h := by
  by_cases runs : h.mSessionId ≠ 0 ∧ h.mLocationApi = true
  · refine silent_of_eq (stopTrackingHandler_eq (stopTracking_of_running (h := untracked h) runs)) ?_ rfl fun _ =>
      Or.inr runs.1
    rw [runs.2]
    rfl
  · refine silent_of_eq (stopTrackingHandler_eq (stopTracking_of_not (h := untracked h) runs)) ?_ rfl ?_
    · cases h.mLocationApi <;> rfl
    · rintro (tracks | session)
      · cases tracks
      · exact Or.inr session

theorem updateTrackingOptionsHandler_of_running (runs : h.mSessionId ≠ 0 ∧ h.mLocationApi = true) :
    passes (updateTrackingOptionsHandler locOptions) h =
        [supported (TrackingOptions.zero.setLocationOptions locOptions)] ∧
      ((updateTrackingOptionsHandler locOptions).next h).mOptions = ofLocationOptions locOptions := by
  have updated := updateTrackingOptions_of_running locOptions runs
  rw [passes, Emit.emitted, Emit.next, updateTrackingOptionsHandler_eq updated]
  exact ⟨rfl, rfl⟩

theorem updateTrackingOptionsHandler_silent (idle : ¬ (h.mSessionId ≠ 0 ∧ h.mLocationApi = true)) :
    Silent (updateTrackingOptionsHandler locOptions) h := by
  exact silent_of_eq (updateTrackingOptionsHandler_eq (updateTrackingOptions_of_not locOptions idle)) rfl rfl
    fun live => live

theorem suspendHandler_silent : Silent suspendHandler h := by
  by_cases tracks : h.mTracking = true
  · by_cases runs : h.mSessionId ≠ 0 ∧ h.mLocationApi = true
    · exact silent_of_eq (suspendHandler_of_tracking tracks (stopTracking_of_running runs)) rfl rfl fun _ =>
        Or.inl tracks
    · exact silent_of_eq (suspendHandler_of_tracking tracks (stopTracking_of_not runs)) rfl rfl fun _ => Or.inl tracks
  · exact silent_of_eq (suspendHandler_of_idle (Bool.eq_false_of_not_eq_true tracks)) rfl rfl fun live => live

/-- A client whose session is started again when it is resumed. -/
def Resumable (h : LocHalDaemonClientHandler) : Prop :=
  h.mTracking = true ∧ h.mSessionId = 0 ∧ h.mLocationApi = true

theorem resumeHandler_of_resumable (resumable : h.Resumable) : passes (resumeHandler id) h = [h.mOptions] ∧
    ((resumeHandler id).next h).mOptions = h.mOptions := by
  have started := startTracking_of_start id resumable.2
  by_cases failed : id = 0
  · subst failed
    rw [passes, Emit.emitted, Emit.next, resumeHandler_of_failed resumable.1 started]
    exact ⟨rfl, rfl⟩
  · rw [passes, Emit.emitted, Emit.next, resumeHandler_of_tracking resumable.1 started failed]
    exact ⟨rfl, rfl⟩

theorem resumeHandler_silent (stays : ¬ h.Resumable) : Silent (resumeHandler id) h := by
  by_cases tracks : h.mTracking = true
  · have repeated := startTracking_of_not id fun starts => stays ⟨tracks, starts⟩
    by_cases idle : h.mSessionId = 0
    · rw [idle] at repeated
      exact silent_of_eq (resumeHandler_of_failed tracks repeated) rfl rfl fun live => live
    · exact silent_of_eq (resumeHandler_of_tracking tracks repeated idle) rfl rfl fun _ => Or.inl tracks
  · exact silent_of_eq (resumeHandler_of_idle (Bool.eq_false_of_not_eq_true tracks)) rfl rfl fun live => live

/-- The resumption of a client lets those after it be resumed. -/
def GoesOn (id : UInt32) (h : LocHalDaemonClientHandler) : Prop :=
  h.mTracking = true → h.mSessionId ≠ 0 ∨ h.mLocationApi = true ∧ id ≠ 0

theorem result_resumeHandler : (resumeHandler id).result h = true ↔ h.GoesOn id := by
  by_cases tracks : h.mTracking = true
  · by_cases starts : h.mSessionId = 0 ∧ h.mLocationApi = true
    · have started := startTracking_of_start id starts
      by_cases failed : id = 0
      · subst failed
        rw [Emit.result, resumeHandler_of_failed tracks started]
        refine iff_of_false Bool.false_ne_true fun goes => ?_
        exact (goes tracks).elim (fun runs => runs starts.1) fun both => both.2 rfl
      · rw [Emit.result, resumeHandler_of_tracking tracks started failed]
        exact iff_of_true rfl fun _ => Or.inr ⟨starts.2, failed⟩
    · have repeated := startTracking_of_not id starts
      by_cases idle : h.mSessionId = 0
      · rw [idle] at repeated
        rw [Emit.result, resumeHandler_of_failed tracks repeated]
        refine iff_of_false Bool.false_ne_true fun goes => ?_
        exact (goes tracks).elim (fun runs => runs idle) fun both => starts ⟨idle, both.1⟩
      · rw [Emit.result, resumeHandler_of_tracking tracks repeated idle]
        exact iff_of_true rfl fun _ => Or.inl idle
  · rw [Emit.result, resumeHandler_of_idle (Bool.eq_false_of_not_eq_true tracks)]
    exact iff_of_true rfl fun tracks' => absurd tracks' tracks

end LocHalDaemonClientHandler

open LocHalDaemonClientHandler

variable {Client : Type} [DecidableEq Client] {client other : Client} {s s' : LocationApiService Client} {α β : Type}
  {h : LocHalDaemonClientHandler} {ids : Client → UInt32} {clients : List Client}

section Programs

/-- What a program passes to `LocationAPI` for the tracking of a client. -/
def passesOf (client : Client) (p : ServiceM Client α) (s : LocationApiService Client) : List TrackingOptions :=
  (ofClient client (p.emitted s)).filterMap HandlerOutput.passed

/-- A program that passes nothing for a client, and keeps its options and that it is not live. -/
structure SilentFor (client : Client) (p : ServiceM Client α) (s : LocationApiService Client) : Prop where
  passes : passesOf client p s = []
  kept : ∀ h', (p.next s).getClient client = some h' → h'.Live →
    ∃ h, s.getClient client = some h ∧ h.Live ∧ h'.mOptions = h.mOptions

/-- A program that passes some options for a client, and leaves it with some. -/
structure PassesFor (client : Client) (p : ServiceM Client α) (s : LocationApiService Client)
    (passed kept : TrackingOptions) : Prop where
  passes : passesOf client p s = [passed]
  kept : ∀ h', (p.next s).getClient client = some h' → h'.Live → h'.mOptions = kept

variable {p : ServiceM Client α} {f : α → ServiceM Client β} {passed kept : TrackingOptions} {q : HandlerM α}

theorem passesOf_bind :
    passesOf client (p >>= f) s = passesOf client p s ++ passesOf client (f (p.result s)) (p.next s) := by
  rw [passesOf, Emit.emitted_bind, ofClient, List.filterMap_append, List.filterMap_append]
  rfl

theorem SilentFor.bind (first : SilentFor client p s) (second : SilentFor client (f (p.result s)) (p.next s)) :
    SilentFor client (p >>= f) s where
  passes := by rw [passesOf_bind, first.passes, second.passes, List.append_nil]
  kept := by
    intro h'' registered live
    obtain ⟨h', before, live', same⟩ := second.kept h'' registered live
    obtain ⟨h, start, live'', same'⟩ := first.kept h' before live'
    exact ⟨h, start, live'', same.trans same'⟩

theorem PassesFor.bind_silent (first : PassesFor client p s passed kept)
    (second : SilentFor client (f (p.result s)) (p.next s)) : PassesFor client (p >>= f) s passed kept where
  passes := by rw [passesOf_bind, first.passes, second.passes, List.append_nil]
  kept := by
    intro h'' registered live
    obtain ⟨h', before, live', same⟩ := second.kept h'' registered live
    exact same.trans (first.kept h' before live')

theorem SilentFor.bind_passes (first : SilentFor client p s)
    (second : PassesFor client (f (p.result s)) (p.next s) passed kept) : PassesFor client (p >>= f) s passed kept where
  passes := by rw [passesOf_bind, first.passes, second.passes, List.nil_append]
  kept := second.kept

/-- A program that does nothing with the handler of the client. -/
theorem silentFor_of_keeps (none : ofClient client (p.emitted s) = [])
    (same : (p.next s).getClient client = s.getClient client) : SilentFor client p s where
  passes := by
    rw [passesOf, none]
    rfl
  kept := fun h' registered live => ⟨h', same ▸ registered, live, rfl⟩

theorem silentFor_pure (a : α) : SilentFor client (pure a) s := silentFor_of_keeps rfl rfl

theorem ofClient_map_of_ne (different : other ≠ client) (outputs : List HandlerOutput) :
    ofClient client (outputs.map (.handler other)) = [] := by
  rw [ofClient, List.filterMap_map, List.filterMap_eq_nil_iff]
  exact fun output _ => if_neg different

theorem silentFor_onClient_of_ne (different : other ≠ client) : SilentFor client (onClient other q) s := by
  refine silentFor_of_keeps ?_ (getClient_onClient_of_ne different.symm)
  rw [emitted_onClient]
  cases s.getClient other with
  | none => rfl
  | some h => exact ofClient_map_of_ne different (q.emitted h)

theorem passesOf_onClient (registered : s.getClient client = some h) :
    passesOf client (onClient client q) s = LocHalDaemonClientHandler.passes q h := by
  rw [passesOf, emitted_onClient, registered, Option.map_some, Option.elim_some, Daemon.ofClient_map,
    LocHalDaemonClientHandler.passes]

theorem silentFor_onClient (silent : ∀ h, s.getClient client = some h → Silent q h) :
    SilentFor client (onClient client q) s := by
  cases registered : s.getClient client with
  | none =>
    refine silentFor_of_keeps ?_ ?_
    · rw [emitted_onClient, registered]
      rfl
    · rw [getClient_onClient_self, registered]
      rfl
  | some h =>
    have quiet := silent h registered
    refine ⟨(passesOf_onClient registered).trans quiet.passes, fun h' after live => ?_⟩
    rw [getClient_onClient_self, registered, Option.map_some, Option.some_inj] at after
    subst after
    exact ⟨h, registered, quiet.live live, quiet.mOptions⟩

theorem passesFor_onClient (registered : s.getClient client = some h)
    (does : LocHalDaemonClientHandler.passes q h = [passed] ∧ (q.next h).mOptions = kept) :
    PassesFor client (onClient client q) s passed kept := by
  refine ⟨(passesOf_onClient registered).trans does.1, fun h' after _ => ?_⟩
  rw [getClient_onClient_self, registered, Option.map_some, Option.some_inj] at after
  exact after ▸ does.2

/-- A loop over clients that passes nothing for any of them. -/
theorem silentFor_forM (silent : ∀ h, Silent q h) :
    SilentFor client (clients.forM fun other => do let _ ← onClient other q) s := by
  induction clients generalizing s with
  | nil => exact silentFor_pure ()
  | cons first rest ih =>
    have body : SilentFor client (onClient first q) s := by
      by_cases same : first = client
      · exact same ▸ silentFor_onClient fun h _ => silent h
      · exact silentFor_onClient_of_ne same
    exact (body.bind (silentFor_pure ())).bind ih

theorem silentFor_get_bind {g : LocationApiService Client → ServiceM Client α} (rest : SilentFor client (g s) s) :
    SilentFor client (Emit.get >>= g) s := ⟨rest.passes, rest.kept⟩

theorem passesFor_get_bind {g : LocationApiService Client → ServiceM Client α}
    (rest : PassesFor client (g s) s passed kept) : PassesFor client (Emit.get >>= g) s passed kept :=
  ⟨rest.passes, rest.kept⟩

theorem silentFor_suspendAllTrackingSessions : SilentFor client suspendAllTrackingSessions s :=
  silentFor_get_bind (silentFor_forM fun _ => suspendHandler_silent)

end Programs

section Resume

/-- Among some clients that are resumed in turn one is started again: it can be, and those before it let it be. -/
def Restarts (ids : Client → UInt32) (client : Client) (clients : List Client) (s : LocationApiService Client) : Prop :=
  client ∈ clients ∧ (∃ h, s.getClient client = some h ∧ h.Resumable) ∧
    ∀ other ∈ clients.takeWhile (· ≠ client), ∀ h, s.getClient other = some h → h.GoesOn (ids other)

theorem restarts_cons_of_ne (different : other ≠ client) : Restarts ids client (other :: clients) s ↔
    Restarts ids client clients s ∧ ∀ h, s.getClient other = some h → h.GoesOn (ids other) := by
  have keeps : decide (other ≠ client) = true := decide_eq_true different
  rw [Restarts, Restarts, List.mem_cons, List.takeWhile_cons, if_pos keeps, or_iff_right different.symm,
    List.forall_mem_cons]
  tauto

theorem Restarts.congr (same : ∀ other ∈ clients, s'.getClient other = s.getClient other) :
    Restarts ids client clients s' ↔ Restarts ids client clients s := by
  refine and_congr_right fun member => and_congr (by rw [same client member]) (forall₂_congr fun other among => ?_)
  rw [same other (List.takeWhile_subset _ among)]

/-- A client that is no longer among them makes no difference. -/
theorem restarts_onClient (absent : other ∉ clients) :
    Restarts ids client clients ((onClient other (resumeHandler (ids other))).next s) ↔
      Restarts ids client clients s :=
  Restarts.congr fun _ among => getClient_onClient_of_ne fun equal => absent (equal ▸ among)

theorem goesOn_iff : (onClient other (resumeHandler (ids other))).result s ≠ some false ↔
    ∀ h, s.getClient other = some h → h.GoesOn (ids other) := by
  rw [result_onClient]
  cases registered : s.getClient other with
  | none => exact iff_of_true (Option.some_ne_none false).symm fun h found => absurd found.symm (Option.some_ne_none h)
  | some h =>
    rw [Option.map_some, ne_eq, Option.some_inj, Bool.not_eq_false, result_resumeHandler]
    exact ⟨fun goes h' found => Option.some_inj.mp found ▸ goes, fun each => each h rfl⟩

/-- The clients after the first are resumed if it lets them be. -/
theorem silentFor_rest (silent : SilentFor client (onClient other (resumeHandler (ids other))) s)
    (rest : (onClient other (resumeHandler (ids other))).result s ≠ some false →
      SilentFor client (resumeClients ids clients) ((onClient other (resumeHandler (ids other))).next s)) :
    SilentFor client (resumeClients ids (other :: clients)) s := by
  refine silent.bind ?_
  split_ifs with stops
  · exact silentFor_pure ()
  · exact rest stops

theorem silentFor_resumeClients_of_not_mem (absent : client ∉ clients) :
    SilentFor client (resumeClients ids clients) s := by
  induction clients generalizing s with
  | nil => exact silentFor_pure ()
  | cons first rest ih =>
    rw [List.mem_cons, not_or] at absent
    exact silentFor_rest (silentFor_onClient_of_ne (Ne.symm absent.1)) fun _ => ih absent.2

/-- A client that is not started again gets nothing from a resumption. -/
theorem silentFor_resumeClients (distinct : clients.Nodup) (stays : ¬ Restarts ids client clients s) :
    SilentFor client (resumeClients ids clients) s := by
  induction clients generalizing s with
  | nil => exact silentFor_pure ()
  | cons first rest ih =>
    obtain ⟨fresh, distinct⟩ := List.nodup_cons.mp distinct
    by_cases same : first = client
    · subst same
      refine silentFor_rest (silentFor_onClient fun h registered => resumeHandler_silent fun resumable => stays ?_)
        fun _ => silentFor_resumeClients_of_not_mem fresh
      have none : (first :: rest).takeWhile (· ≠ first) = [] := List.takeWhile_cons_of_neg (by simp)
      refine ⟨List.mem_cons_self, ⟨h, registered, resumable⟩, ?_⟩
      rw [none]
      exact fun other among => absurd among List.not_mem_nil
    · refine silentFor_rest (silentFor_onClient_of_ne same) fun goes => ih distinct fun restarts => stays ?_
      exact (restarts_cons_of_ne same).mpr ⟨(restarts_onClient fresh).mp restarts, goesOn_iff.mp goes⟩

/-- A client that is started again is so with the options that are kept. -/
theorem passesFor_resumeClients (distinct : clients.Nodup) (registered : s.getClient client = some h)
    (restarts : Restarts ids client clients s) :
    PassesFor client (resumeClients ids clients) s h.mOptions h.mOptions := by
  induction clients generalizing s with
  | nil => exact absurd restarts.1 List.not_mem_nil
  | cons first rest ih =>
    obtain ⟨fresh, distinct⟩ := List.nodup_cons.mp distinct
    by_cases same : first = client
    · subst same
      obtain ⟨h', found, resumable⟩ := restarts.2.1
      obtain rfl := Option.some_inj.mp (found.symm.trans registered)
      refine (passesFor_onClient registered (resumeHandler_of_resumable resumable)).bind_silent ?_
      split_ifs
      · exact silentFor_pure ()
      · exact silentFor_resumeClients_of_not_mem fresh
    · obtain ⟨later, goes⟩ := (restarts_cons_of_ne same).mp restarts
      refine (silentFor_onClient_of_ne same).bind_passes ?_
      rw [if_neg (goesOn_iff.mpr goes)]
      exact ih distinct ((getClient_onClient_of_ne (Ne.symm same)).trans registered) ((restarts_onClient fresh).mpr later)

end Resume

/-- A request of a client that is applied: a start of a session or an update of one. -/
inductive Applied where
  | start (locOptions : LocationOptions)
  | update (locOptions : LocationOptions)

namespace Applied

def interval : Applied → ℕ
  | start locOptions => locOptions.minInterval
  | update locOptions => locOptions.minInterval

/-- The options that the handler passes. -/
def passed : Applied → TrackingOptions
  | start locOptions => supported (ofLocationOptions locOptions)
  | update locOptions => supported (TrackingOptions.zero.setLocationOptions locOptions)

/-- The options that the handler keeps. -/
def kept : Applied → TrackingOptions
  | start locOptions => supported (ofLocationOptions locOptions)
  | update locOptions => ofLocationOptions locOptions

/-- The options that are kept are those that were passed. -/
def Same : Applied → Prop
  | start _ => True
  | update locOptions =>
    getSupportedTbf locOptions.minInterval = locOptions.minInterval ∧ locOptions.size = sizeofTrackingOptions

variable {a : Applied}

theorem minInterval_passed : a.passed.minInterval = getSupportedTbf a.interval := by cases a <;> rfl

theorem kept_eq_iff : a.kept = a.passed ↔ a.Same := by
  cases a with
  | start locOptions => exact iff_of_true rfl trivial
  | update locOptions =>
    refine ⟨fun same => ?_, fun same => ?_⟩
    · exact ⟨(congrArg (·.minInterval) same).symm, congrArg (·.size) same⟩
    · rw [kept, passed, supported, TrackingOptions.setLocationOptions, ofLocationOptions, same.1, ← same.2]
      rfl

end Applied

namespace PowerEvent

/-- The request of a client that an event applies: a start without a session, or an update with one. -/
def applied (client : Client) (s : LocationApiService Client) : PowerEvent Client → Option Applied
  | .startTracking other locOptions _ =>
    if other = client ∧ (s.getClient client).any fun h => h.mSessionId = 0 ∧ h.mLocationApi = true then
      some (.start { locOptions with mode := s.mPositionMode })
    else none
  | .updateTrackingOptions other locOptions =>
    if other = client ∧ (s.getClient client).any fun h => h.mSessionId ≠ 0 ∧ h.mLocationApi = true then
      some (.update { locOptions with mode := s.mPositionMode })
    else none
  | _ => none

/-- The session of a client is started again. -/
def Restarts (client : Client) (s : LocationApiService Client) : PowerEvent Client → Prop
  | .configAidingDataDeletion ids =>
    let suspended := suspendAllTrackingSessions.next s
    ¬ s.mPowerState.isDown ∧ HalDaemon.Restarts ids client suspended.mClients.keys suspended
  | .onPowerEvent powerState ids =>
    powerState = .POWER_STATE_RESUME ∧ HalDaemon.Restarts ids client s.mClients.keys s
  | _ => False

/-- What an event does for a client. -/
inductive Does (client : Client) (s : LocationApiService Client) (e : PowerEvent Client) : Prop
  | applies (a : Applied) (applied : e.applied client s = some a) (other : ¬ e.Restarts client s)
      (passes : PassesFor client e.run s a.passed a.kept)
  | restarts (h : LocHalDaemonClientHandler) (applied : e.applied client s = none) (restarts : e.Restarts client s)
      (registered : s.getClient client = some h) (live : h.Live)
      (passes : PassesFor client e.run s h.mOptions h.mOptions)
  | nothing (applied : e.applied client s = none) (other : ¬ e.Restarts client s) (silent : SilentFor client e.run s)

theorem does_startTracking (locOptions : LocationOptions) (id : UInt32) :
    Does client s (.startTracking other locOptions id) := by
  by_cases same : other = client
  · subst same
    by_cases starts : (s.getClient other).any fun h => h.mSessionId = 0 ∧ h.mLocationApi = true
    · obtain ⟨h, registered, may⟩ := (Option.any_eq_true _ _).mp starts
      refine .applies (.start { locOptions with mode := s.mPositionMode }) (if_pos ⟨rfl, starts⟩) not_false ?_
      refine passesFor_get_bind (PassesFor.bind_silent ?_ (silentFor_pure ()))
      exact passesFor_onClient registered (startTrackingHandler_of_start (of_decide_eq_true may))
    · refine .nothing (if_neg fun both => starts both.2) not_false
        (silentFor_get_bind (SilentFor.bind ?_ (silentFor_pure ())))
      refine silentFor_onClient fun h registered => startTrackingHandler_silent fun may => starts ?_
      exact (Option.any_eq_true _ _).mpr ⟨h, registered, decide_eq_true may⟩
  · exact .nothing (if_neg fun both => same both.1) not_false
      (silentFor_get_bind ((silentFor_onClient_of_ne same).bind (silentFor_pure ())))

theorem does_updateTrackingOptions (locOptions : LocationOptions) :
    Does client s (.updateTrackingOptions other locOptions) := by
  by_cases same : other = client
  · subst same
    by_cases runs : (s.getClient other).any fun h => h.mSessionId ≠ 0 ∧ h.mLocationApi = true
    · obtain ⟨h, registered, may⟩ := (Option.any_eq_true _ _).mp runs
      refine .applies (.update { locOptions with mode := s.mPositionMode }) (if_pos ⟨rfl, runs⟩) not_false ?_
      refine passesFor_get_bind (PassesFor.bind_silent ?_ (silentFor_pure ()))
      exact passesFor_onClient registered (updateTrackingOptionsHandler_of_running (of_decide_eq_true may))
    · refine .nothing (if_neg fun both => runs both.2) not_false
        (silentFor_get_bind (SilentFor.bind ?_ (silentFor_pure ())))
      refine silentFor_onClient fun h registered => updateTrackingOptionsHandler_silent fun may => runs ?_
      exact (Option.any_eq_true _ _).mpr ⟨h, registered, decide_eq_true may⟩
  · exact .nothing (if_neg fun both => same both.1) not_false
      (silentFor_get_bind ((silentFor_onClient_of_ne same).bind (silentFor_pure ())))

theorem does_configAidingDataDeletion (ids : Client → UInt32) : Does client s (.configAidingDataDeletion ids) := by
  have suspended : SilentFor client suspendAllTrackingSessions s := silentFor_suspendAllTrackingSessions
  have deleted (s : LocationApiService Client) : SilentFor client (Emit.emit .gnssDeleteAidingData) s :=
    silentFor_of_keeps rfl rfl
  have power : (suspendAllTrackingSessions.next s).mPowerState = s.mPowerState :=
    keeps_mPowerState_suspendAllTrackingSessions s
  by_cases down : s.mPowerState.isDown
  · refine .nothing rfl (fun both => both.1 down) (suspended.bind ((deleted _).bind (silentFor_get_bind ?_)))
    rw [if_pos (by rw [Emit.next_emit, power]; exact down)]
    exact silentFor_pure ()
  · have up : ¬ (suspendAllTrackingSessions.next s).mPowerState.isDown := by rwa [power]
    by_cases restarts : HalDaemon.Restarts ids client (suspendAllTrackingSessions.next s).mClients.keys
        (suspendAllTrackingSessions.next s)
    · obtain ⟨h', registered', resumable⟩ := restarts.2.1
      obtain ⟨h, registered, live, same⟩ := suspended.kept h' registered' (Or.inl resumable.1)
      have passes := passesFor_resumeClients (AList.keys_nodup _) registered' restarts
      rw [same] at passes
      refine .restarts h rfl ⟨down, restarts⟩ registered live
        (suspended.bind_passes ((deleted _).bind_passes (passesFor_get_bind ?_)))
      rw [Emit.next_emit, if_neg up]
      exact passesFor_get_bind passes
    · refine .nothing rfl (fun both => restarts both.2) (suspended.bind ((deleted _).bind (silentFor_get_bind ?_)))
      rw [Emit.next_emit, if_neg up]
      exact silentFor_get_bind (silentFor_resumeClients (AList.keys_nodup _) restarts)

theorem does_onPowerEvent (powerState : PowerStateType) (ids : Client → UInt32) :
    Does client s (.onPowerEvent powerState ids) := by
  have told : SilentFor client (Emit.modify fun s => { s with mPowerState := powerState } : ServiceM Client Unit) s :=
    silentFor_of_keeps rfl rfl
  have updated (s : LocationApiService Client) :
      SilentFor client (Emit.emit (.updateSystemPowerState powerState)) s := silentFor_of_keeps rfl rfl
  by_cases down : powerState.isDown
  · have asleep : powerState ≠ .POWER_STATE_RESUME := by
      rintro rfl
      exact absurd down (by decide)
    refine .nothing rfl (fun both => asleep both.1) (told.bind (SilentFor.bind ?_ (updated _)))
    rw [if_pos down]
    exact silentFor_suspendAllTrackingSessions
  · by_cases wakes : powerState = .POWER_STATE_RESUME
    · by_cases restarts : HalDaemon.Restarts ids client s.mClients.keys s
      · obtain ⟨h, registered, resumable⟩ := restarts.2.1
        refine .restarts h rfl ⟨wakes, restarts⟩ registered (Or.inl resumable.1)
          (told.bind_passes (PassesFor.bind_silent ?_ (updated _)))
        rw [if_neg down, if_pos wakes]
        exact passesFor_get_bind (passesFor_resumeClients (s := { s with mPowerState := powerState })
          (AList.keys_nodup _) registered restarts)
      · refine .nothing rfl (fun both => restarts both.2) (told.bind (SilentFor.bind ?_ (updated _)))
        rw [if_neg down, if_pos wakes]
        exact silentFor_get_bind (silentFor_resumeClients (s := { s with mPowerState := powerState })
          (AList.keys_nodup _) restarts)
    · refine .nothing rfl (fun both => wakes both.1) (told.bind (SilentFor.bind ?_ (updated _)))
      rw [if_neg down, if_neg wakes]
      exact silentFor_pure ()

theorem does_newClient (isClientApi : Bool) : Does client s (.newClient other isClientApi) := by
  refine .nothing rfl not_false ⟨rfl, fun h' registered live => ?_⟩
  change LocationApiService.getClient (if _ then _ else _) client = some h' at registered
  split at registered
  · exact ⟨h', registered, live, rfl⟩
  · by_cases same : client = other
    · subst same
      obtain rfl := Option.some.inj ((AList.lookup_insert s.mClients).symm.trans registered)
      exact absurd live (by rintro (⟨⟨⟩⟩ | session); exact session rfl)
    · exact ⟨h', (AList.lookup_insert_ne same).symm.trans registered, live, rfl⟩

theorem does_deleteClient : Does client s (.deleteClient other) := by
  refine .nothing rfl not_false ⟨rfl, fun h' registered live => ?_⟩
  change LocationApiService.getClient (if _ then _ else _) client = some h' at registered
  split at registered
  · by_cases same : client = other
    · subst same
      exact absurd ((AList.lookup_erase _ _).symm.trans registered) (Option.some_ne_none h').symm
    · exact ⟨h', (AList.lookup_erase_ne same).symm.trans registered, live, rfl⟩
  · exact ⟨h', registered, live, rfl⟩

theorem does (e : PowerEvent Client) : Does client s e := by
  cases e with
  | newClient other isClientApi => exact does_newClient isClientApi
  | deleteClient other => exact does_deleteClient
  | startTracking other locOptions id => exact does_startTracking locOptions id
  | stopTracking other =>
    refine .nothing rfl not_false (SilentFor.bind ?_ (silentFor_pure ()))
    by_cases same : other = client
    · exact same ▸ silentFor_onClient fun h _ => stopTrackingHandler_silent
    · exact silentFor_onClient_of_ne same
  | updateTrackingOptions other locOptions => exact does_updateTrackingOptions locOptions
  | configAidingDataDeletion ids => exact does_configAidingDataDeletion ids
  | onPowerEvent powerState ids => exact does_onPowerEvent powerState ids

end PowerEvent

/-- The service, and the last request of a client that was applied and the last options that were passed for it. -/
structure Intervals (Client : Type) where
  service : LocationApiService Client
  applied : Option Applied
  passed : Option TrackingOptions

namespace Intervals

def initial (mode : GnssSuplMode) : Intervals Client := ⟨.initial mode, none, none⟩

def step (client : Client) (s : Intervals Client) (e : PowerEvent Client) : Intervals Client where
  service := e.run.next s.service
  applied := (e.applied client s.service).or s.applied
  passed := (passesOf client e.run s.service).getLast?.or s.passed

/-- What is passed for the client has the interval that its last applied request comes to, and is what was last passed
if no request is applied. -/
def Keeps (client : Client) (s : Intervals Client) (e : PowerEvent Client) : Prop :=
  ∀ options ∈ passesOf client e.run s.service,
    (s.step client e).applied.map (fun a => getSupportedTbf a.interval) = some options.minInterval ∧
      (e.applied client s.service = none → s.passed = some options)

/-- A session is started again only if the last applied request left the options that it passed. -/
def MayRestart (client : Client) (s : Intervals Client) (e : PowerEvent Client) : Prop :=
  e.Restarts client s.service → ∀ a, s.applied = some a → a.Same

/-- A live client has what its last applied request left, and that is what was last passed for it. -/
def Follows (client : Client) (s : Intervals Client) : Prop :=
  ∀ h, s.service.getClient client = some h → h.Live →
    ∃ a, s.applied = some a ∧ h.mOptions = a.kept ∧ s.passed = some a.passed

variable {s : Intervals Client} {e : PowerEvent Client}

theorem applied_step_of_none (none : e.applied client s.service = none) : (s.step client e).applied = s.applied := by
  rw [step, none, Option.none_or]

/-- A step keeps to the last applied request exactly when it may start a session again. -/
theorem Follows.keeps_iff (follows : Follows client s) (e : PowerEvent Client) :
    Keeps client s e ↔ MayRestart client s e := by
  have does : e.Does client s.service := e.does
  cases does with
  | applies a applied other passes =>
    refine iff_of_true (fun options among => ?_) fun restarts => absurd restarts other
    rw [passes.passes, List.mem_singleton] at among
    rw [among, a.minInterval_passed, step, applied]
    exact ⟨rfl, fun none => absurd none (Option.some_ne_none a)⟩
  | restarts h applied restarts registered live passes =>
    obtain ⟨a, last, kept, passed⟩ := follows h registered live
    have keeps : Keeps client s e ↔ a.kept = a.passed := by
      rw [Keeps, passes.passes, List.forall_mem_singleton, applied_step_of_none applied, last, passed, kept,
        Option.map_some, Option.some_inj, Option.some_inj, imp_iff_right applied]
      refine ⟨fun both => both.2.symm, fun same => ⟨?_, same.symm⟩⟩
      rw [same, a.minInterval_passed]
    rw [keeps, a.kept_eq_iff, MayRestart, imp_iff_right restarts, last]
    exact ⟨fun same a' equal => Option.some_inj.mp equal ▸ same, fun each => each a rfl⟩
  | nothing applied other silent =>
    refine iff_of_true (fun options among => ?_) fun restarts => absurd restarts other
    rw [silent.passes] at among
    exact absurd among List.not_mem_nil

theorem Follows.step (follows : Follows client s) (may : MayRestart client s e) : Follows client (s.step client e) := by
  intro h' registered' live'
  have does : e.Does client s.service := e.does
  cases does with
  | applies a applied other passes =>
    refine ⟨a, ?_, passes.kept h' registered' live', ?_⟩
    · rw [Intervals.step, applied, Option.some_or]
    · rw [Intervals.step, passes.passes, List.getLast?_singleton, Option.some_or]
  | restarts h applied restarts registered live passes =>
    obtain ⟨a, last, kept, passed⟩ := follows h registered live
    refine ⟨a, (applied_step_of_none applied).trans last, (passes.kept h' registered' live').trans kept, ?_⟩
    rw [Intervals.step, passes.passes, List.getLast?_singleton, Option.some_or, kept,
      a.kept_eq_iff.mpr (may restarts a last)]
  | nothing applied other silent =>
    obtain ⟨h, registered, live, same⟩ := silent.kept h' registered' live'
    obtain ⟨a, last, kept, passed⟩ := follows h registered live
    refine ⟨a, (applied_step_of_none applied).trans last, same.trans kept, ?_⟩
    rw [Intervals.step, silent.passes, List.getLast?_nil, Option.none_or, passed]

/-- The daemon passes what the requests come to exactly as long as no session is started again after an update of an
interval that is not supported, or of options that are not of the size of those that are passed. -/
theorem keeps_iff_mayRestart (client : Client) (mode : GnssSuplMode) (events : List (PowerEvent Client)) :
    EachStep (step client) (Keeps client) (initial mode) events ↔
      EachStep (step client) (MayRestart client) (initial mode) events := by
  refine eachStep_iff_eachStep (I := Follows client) ?_ (fun s e follows may => follows.step may) fun s e follows =>
    follows.keeps_iff e
  rintro h ⟨⟩

/-- A client that updates its interval to one and a half seconds is resumed with that, and not with two seconds. -/
theorem resumes_unrounded : ¬ ∀ (client : ℕ) (mode : GnssSuplMode) (events : List (PowerEvent ℕ)),
    EachStep (step client) (Keeps client) (initial mode) events := by
  intro keeps
  let before : List (PowerEvent ℕ) := [.newClient 0 true, .startTracking 0 (every 1000).toLocationOptions 5,
    .updateTrackingOptions 0 (every 1500).toLocationOptions, .onPowerEvent .POWER_STATE_SUSPEND fun _ => 6]
  have kept := keeps 0 .standalone (before ++ [.onPowerEvent .POWER_STATE_RESUME fun _ => 7]) before _ List.prefix_rfl
    (ofLocationOptions (every 1500).toLocationOptions) (by decide)
  exact absurd kept.1 (by decide)

end Intervals

end Cypfr.HalDaemon
