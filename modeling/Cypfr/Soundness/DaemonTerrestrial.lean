import Cypfr.Machine.Run
import Cypfr.Proofs.LocationApiService

/-! # Single fixes of the network

The network location is started for the first client that waits for a fix and stopped with the fix. A timeout tests the
number of clients that still wait, but for one instead of none, and a client that leaves is not looked at.
-/

namespace Cypfr.HalDaemon

open Tracking LocationApiService LocHalDaemonClientHandler Machine

variable {Client : Type} [DecidableEq Client]

/-- What happens to the clients that wait for a fix. -/
inductive FixEvent (Client : Type) where
  | newClient (client : Client) (isClientApi : Bool)
  | deleteClient (client : Client)
  | getSingleTerrestrialPos (client : Client) (timeoutMsec : UInt32)
  | gtpFixRequestTimeout (client : Client)
  | onGtpWwanTrackingCallback (hasLatLong : Bool)
deriving DecidableEq

def FixEvent.run : FixEvent Client → ServiceM Client Unit
  | .newClient client isClientApi => LocationApiService.newClient client isClientApi
  | .deleteClient client => LocationApiService.deleteClient client
  | .getSingleTerrestrialPos client timeoutMsec => LocationApiService.getSingleTerrestrialPos client timeoutMsec
  | .gtpFixRequestTimeout client => LocationApiService.gtpFixRequestTimeout client
  | .onGtpWwanTrackingCallback hasLatLong => LocationApiService.onGtpWwanTrackingCallback hasLatLong

/-- The service, and whether the network location runs. -/
structure Network (Client : Type) where
  service : LocationApiService Client
  running : Bool

/-- Whether the network location runs after what the service did. -/
def runs (running : Bool) (outputs : List (ServiceOutput Client)) : Bool :=
  outputs.foldl (fun running output => match output with
    | .startNetworkLocation => true
    | .stopNetworkLocation => false
    | _ => running) running

def isAnswerTo (client : Client) : ServiceOutput Client → Bool
  | .handler other (.terrestrialFix _) => other = client
  | _ => false

namespace Network

abbrev reqs (s : Network Client) : UnorderedSet Client := s.service.mTerrestrialFixReqs

def step (s : Network Client) (e : FixEvent Client) : Network Client where
  service := e.run.next s.service
  running := runs s.running (e.run.emitted s.service)

/-- The network location runs exactly when a client waits, and only registered clients wait. -/
structure Kept (s : Network Client) : Prop where
  running : s.running = true ↔ ∃ client, client ∈ s.reqs
  registered : ∀ client ∈ s.reqs, client ∈ s.service.mClients

/-- A client whose request is removed, but not because the client leaves, gets one answer; no other client gets any,
and a handler that is not there is not used. -/
def Answered (s : Network Client) (e : FixEvent Client) : Prop :=
  .nullClient ∉ e.run.emitted s.service ∧
    ∀ client, (e.run.emitted s.service).countP (isAnswerTo client) =
      if client ∈ s.reqs ∧ client ∉ (s.step e).reqs ∧ e ≠ .deleteClient client then 1 else 0

/-- Only registered clients ask for a fix, no request times out unless at least two others wait, and the only client
that waits does not leave. -/
def MayStep (s : Network Client) : FixEvent Client → Prop
  | .deleteClient client => s.reqs.elems ≠ [client]
  | .getSingleTerrestrialPos client _ => client ∈ s.service.mClients
  | .gtpFixRequestTimeout client => client ∈ s.reqs → 3 ≤ s.reqs.elems.length
  | _ => True

end Network

section Operations

variable {s : LocationApiService Client} {client other : Client}

theorem sendTerrestrialFix_of_registered {err : LocationError} (registered : client ∈ s.mClients) :
    onClient client (sendTerrestrialFix err) s =
      (some (), (onClient client (sendTerrestrialFix err)).next s, [.handler client (.terrestrialFix err)]) := by
  obtain ⟨h, found⟩ := Option.isSome_iff_exists.mp (AList.lookup_isSome.mpr registered)
  have found : s.getClient client = some h := found
  rw [Emit.next, onClient_of_some found]
  rfl

theorem sendFix_of_registered (registered : client ∈ s.mClients) :
    sendFix client s = ((), (onClient client (sendTerrestrialFix .success)).next s,
      [.handler client (.terrestrialFix .success)]) := by
  refine (Emit.bind_eq (w := []) (sendTerrestrialFix_of_registered registered) ?_).trans (by rw [List.append_nil])
  rw [if_neg (Option.some_ne_none ())]
  rfl

/-- The fix for clients that are all registered, who stay so. -/
theorem sendFixes_of_registered {clients : List Client} (registered : ∀ client ∈ clients, client ∈ s.mClients) :
    ∃ t, clients.forM sendFix s = ((), t, clients.map fun client => .handler client (.terrestrialFix .success)) ∧
      ∀ client, client ∈ t.mClients ↔ client ∈ s.mClients := by
  induction clients generalizing s with
  | nil => exact ⟨s, rfl, fun _ => Iff.rfl⟩
  | cons client rest ih =>
    have answer := sendFix_of_registered (registered client List.mem_cons_self)
    obtain ⟨t, answers, clients⟩ := ih (s := (onClient client (sendTerrestrialFix .success)).next s)
      fun client' among => mem_mClients_onClient.mpr (registered client' (List.mem_cons_of_mem _ among))
    exact ⟨t, Emit.bind_eq answer answers, fun client' => (clients client').trans mem_mClients_onClient⟩

theorem countP_answers {clients : List Client} (distinct : clients.Nodup) {err : LocationError} :
    (clients.map fun client => ServiceOutput.handler client (.terrestrialFix err)).countP (isAnswerTo other) =
      if other ∈ clients then 1 else 0 := by
  rw [List.countP_map, ← distinct.count]
  exact List.countP_congr fun client _ => Iff.rfl

theorem getSingleTerrestrialPos_of_consent (consent : s.mOptInTerrestrialService = 1) (timeoutMsec : UInt32) :
    getSingleTerrestrialPos client timeoutMsec s =
      ((), { s with mTerrestrialFixReqs := s.mTerrestrialFixReqs.insert client },
        .startTimer client timeoutMsec ::
          if (s.mTerrestrialFixReqs.insert client).elems.length = 1 then [.startNetworkLocation] else []) := by
  refine Emit.get_bind_eq ?_
  rw [if_neg (not_not.mpr consent)]
  refine Emit.bind_eq (v := []) rfl (Emit.bind_eq (v := [ServiceOutput.startTimer client timeoutMsec]) rfl
    (Emit.get_bind_eq ?_))
  exact Emit.emit_ite_apply ..

/-- A timeout of a client that waits, from what its answer comes to. -/
theorem gtpFixRequestTimeout_of_waiting {t : LocationApiService Client} {sent : Option Unit}
    {outputs : List (ServiceOutput Client)} (waits : client ∈ s.mTerrestrialFixReqs)
    (answered : onClient client (sendTerrestrialFix .timeout) s = (sent, t, outputs)) :
    gtpFixRequestTimeout client s =
      ((), { t with mTerrestrialFixReqs := s.mTerrestrialFixReqs.erase client },
        outputs ++ if (s.mTerrestrialFixReqs.erase client).elems.length = 1 then [.stopNetworkLocation] else []) := by
  have same : t.mTerrestrialFixReqs = s.mTerrestrialFixReqs :=
    (congrArg (·.2.1.mTerrestrialFixReqs) answered).symm.trans (keeps_mTerrestrialFixReqs_onClient s)
  rw [← same] at waits ⊢
  refine Emit.get_bind_eq ?_
  rw [if_pos (same ▸ waits)]
  exact Emit.bind_eq answered (Emit.bind_eq (v := []) rfl (Emit.get_bind_eq (Emit.emit_ite_apply ..)))

theorem gtpFixRequestTimeout_of_not_waiting (idle : client ∉ s.mTerrestrialFixReqs) :
    gtpFixRequestTimeout client s = ((), s, []) := by
  refine Emit.get_bind_eq ?_
  rw [if_neg idle]
  rfl

/-- A fix for no client that waits, or without a position. -/
theorem onGtpWwanTrackingCallback_of_unserved {hasLatLong : Bool}
    (unserved : ¬ (s.mTerrestrialFixReqs.elems.length ≠ 0 ∧ hasLatLong = true ∧ s.mOptInTerrestrialService = 1)) :
    onGtpWwanTrackingCallback hasLatLong s = ((), s, []) := by
  refine Emit.get_bind_eq ?_
  rw [if_neg unserved]
  rfl

theorem onGtpWwanTrackingCallback_of_served {t : LocationApiService Client} {outputs : List (ServiceOutput Client)}
    (served : s.mTerrestrialFixReqs.elems.length ≠ 0 ∧ s.mOptInTerrestrialService = 1)
    (answered : s.mTerrestrialFixReqs.elems.forM sendFix s = ((), t, outputs)) :
    onGtpWwanTrackingCallback true s =
      ((), { t with mTerrestrialFixReqs := .empty }, outputs ++ [.stopNetworkLocation]) := by
  refine Emit.get_bind_eq ?_
  rw [if_pos ⟨served.1, rfl, served.2⟩]
  exact Emit.bind_eq answered rfl

end Operations

namespace Network

variable {s : Network Client} {client : Client}

/-- A step that answers nobody and uses no handler, and removes no request unless its client leaves. -/
theorem answered_of_silent {e : FixEvent Client} (unused : .nullClient ∉ e.run.emitted s.service)
    (silent : ∀ client, (e.run.emitted s.service).countP (isAnswerTo client) = 0)
    (waits : ∀ client ∈ s.reqs, client ∉ (s.step e).reqs → e = .deleteClient client) : Answered s e := by
  refine ⟨unused, fun client => (silent client).trans (if_neg ?_).symm⟩
  rintro ⟨waited, removed, stays⟩
  exact stays (waits client waited removed)

/-- A step that answers the clients whose requests it removes, and then at most stops the network location. -/
theorem answered_of_answers {e : FixEvent Client} (clients : List Client) {err : LocationError}
    {rest : List (ServiceOutput Client)}
    (emitted : e.run.emitted s.service = clients.map (fun client => .handler client (.terrestrialFix err)) ++ rest)
    (distinct : clients.Nodup) (last : rest = [] ∨ rest = [.stopNetworkLocation])
    (removed : ∀ client, client ∈ clients ↔ client ∈ s.reqs ∧ client ∉ (s.step e).reqs ∧ e ≠ .deleteClient client) :
    Answered s e := by
  refine ⟨?_, fun client => ?_⟩
  · rw [emitted, List.mem_append, not_or]
    constructor
    · rw [List.mem_map]
      rintro ⟨_, -, ⟨⟩⟩
    · rcases last with rfl | rfl
      · exact List.not_mem_nil
      · exact List.not_mem_cons_of_ne_of_not_mem (by rintro ⟨⟩) List.not_mem_nil
  · have silent : rest.countP (isAnswerTo client) = 0 := by rcases last with rfl | rfl <;> rfl
    rw [emitted, List.countP_append, silent, Nat.add_zero, countP_answers distinct]
    exact if_congr (removed client) rfl rfl

/-- A step, from what its program comes to. -/
theorem step_of_run {e : FixEvent Client} {t : LocationApiService Client} {outputs : List (ServiceOutput Client)}
    (ran : e.run s.service = ((), t, outputs)) : s.step e = ⟨t, runs s.running outputs⟩ := by
  rw [step, Emit.next, Emit.emitted, ran]

theorem step_of_idle {e : FixEvent Client} (idle : e.run s.service = ((), s.service, [])) : s.step e = s :=
    step_of_run idle

theorem answered_of_idle {e : FixEvent Client} (idle : e.run s.service = ((), s.service, [])) : Answered s e := by
  have silent : e.run.emitted s.service = [] := congrArg (·.2.2) idle
  refine answered_of_silent (silent ▸ List.not_mem_nil) (fun client => silent ▸ rfl) fun client waits removed => ?_
  rw [step_of_idle idle] at removed
  exact absurd waits removed

section Steps

variable (client : Client)

theorem step_newClient (isClientApi : Bool) (kept : Kept s) :
    Kept (s.step (.newClient client isClientApi)) ∧ Answered s (.newClient client isClientApi) := by
  have reqs : (s.step (.newClient client isClientApi)).reqs = s.reqs := by
    change LocationApiService.mTerrestrialFixReqs (if _ then _ else _) = _
    split <;> rfl
  refine ⟨⟨reqs ▸ kept.running, fun other waits => ?_⟩, answered_of_silent List.not_mem_nil (fun _ => rfl) ?_⟩
  · rw [reqs] at waits
    change other ∈ (if client ∈ s.service.mClients then s.service else _ : LocationApiService Client).mClients
    split
    · exact kept.registered other waits
    · exact (AList.mem_insert _).mpr (.inr (kept.registered other waits))
  · exact fun other waits removed => absurd waits (reqs ▸ removed)

theorem step_deleteClient (kept : Kept s) :
    (Kept (s.step (.deleteClient client)) ↔ s.reqs.elems ≠ [client]) ∧ Answered s (.deleteClient client) := by
  by_cases registered : client ∈ s.service.mClients
  · have after : (s.step (.deleteClient client)).service =
        { s.service with mClients := s.service.mClients.erase client, mTerrestrialFixReqs := s.reqs.erase client } :=
      if_pos registered
    have reqs : (s.step (.deleteClient client)).reqs = s.reqs.erase client :=
      congrArg LocationApiService.mTerrestrialFixReqs after
    refine ⟨⟨fun kept' alone => ?_, fun others => ⟨⟨fun running => ?_, fun waits => ?_⟩, fun other waits => ?_⟩⟩,
      answered_of_silent List.not_mem_nil (fun _ => rfl) fun other waits removed => ?_⟩
    · rw [UnorderedSet.elems_eq_singleton_iff] at alone
      obtain ⟨other, waits⟩ := kept'.running.mp (kept.running.mpr ⟨client, alone.1⟩)
      rw [reqs, UnorderedSet.mem_erase] at waits
      exact waits.1 (alone.2 other waits.2)
    · obtain ⟨other, waits⟩ := kept.running.mp running
      by_contra nobody
      have alone (other : Client) (waits : other ∈ s.reqs) : other = client := by
        by_contra different
        exact nobody ⟨other, reqs ▸ UnorderedSet.mem_erase.mpr ⟨different, waits⟩⟩
      exact others (UnorderedSet.elems_eq_singleton_iff.mpr ⟨alone other waits ▸ waits, alone⟩)
    · obtain ⟨other, waits⟩ := waits
      rw [reqs, UnorderedSet.mem_erase] at waits
      exact kept.running.mpr ⟨other, waits.2⟩
    · rw [reqs, UnorderedSet.mem_erase] at waits
      rw [after]
      exact AList.mem_erase.mpr ⟨waits.1, kept.registered other waits.2⟩
    · rw [reqs, UnorderedSet.mem_erase, not_and'] at removed
      rw [not_not.mp (removed waits)]
  · have idle : (FixEvent.deleteClient client).run s.service = ((), s.service, []) := by
      refine congrArg (((), ·, [])) ?_
      exact if_neg registered
    rw [step_of_idle idle]
    refine ⟨iff_of_true kept fun alone => registered (kept.registered client ?_), answered_of_idle idle⟩
    exact (UnorderedSet.elems_eq_singleton_iff.mp alone).1

theorem step_getSingleTerrestrialPos (timeoutMsec : UInt32) (consent : s.service.mOptInTerrestrialService = 1)
    (kept : Kept s) :
    (Kept (s.step (.getSingleTerrestrialPos client timeoutMsec)) ↔ client ∈ s.service.mClients) ∧
      Answered s (.getSingleTerrestrialPos client timeoutMsec) := by
  have ran : (FixEvent.getSingleTerrestrialPos client timeoutMsec).run s.service = _ :=
    getSingleTerrestrialPos_of_consent consent timeoutMsec
  have waits : client ∈ s.reqs.insert client := UnorderedSet.mem_insert.mpr (.inl rfl)
  constructor
  · rw [step_of_run ran]
    refine ⟨fun kept' => kept'.registered client waits, fun registered => ⟨iff_of_true ?_ ⟨client, waits⟩, ?_⟩⟩
    · by_cases first : (s.reqs.insert client).elems.length = 1
      · rw [if_pos first]
        rfl
      · rw [if_neg first]
        refine kept.running.mpr (UnorderedSet.exists_mem_iff.mpr fun nobody => first ?_)
        have empty := List.length_eq_zero_iff.mp nobody
        change (s.reqs.elems.insert client).length = 1
        rw [empty]
        rfl
    · intro other among
      rcases UnorderedSet.mem_insert.mp among with rfl | before
      · exact registered
      · exact kept.registered other before
  · refine answered_of_silent ?_ (fun other => ?_) fun other before removed => ?_
    · rw [Emit.emitted, ran]
      refine List.not_mem_cons_of_ne_of_not_mem (by rintro ⟨⟩) ?_
      split
      · exact List.not_mem_cons_of_ne_of_not_mem (by rintro ⟨⟩) List.not_mem_nil
      · exact List.not_mem_nil
    · rw [Emit.emitted, ran]
      split <;> rfl
    · rw [step_of_run ran] at removed
      exact absurd (UnorderedSet.mem_insert.mpr (.inr before)) removed

theorem step_gtpFixRequestTimeout (kept : Kept s) :
    (Kept (s.step (.gtpFixRequestTimeout client)) ↔ (client ∈ s.reqs → 3 ≤ s.reqs.elems.length)) ∧
      Answered s (.gtpFixRequestTimeout client) := by
  by_cases waits : client ∈ s.reqs
  · have ran : (FixEvent.gtpFixRequestTimeout client).run s.service = _ :=
      gtpFixRequestTimeout_of_waiting waits (sendTerrestrialFix_of_registered (kept.registered client waits))
    have size : (s.reqs.erase client).elems.length = s.reqs.elems.length - 1 := List.length_erase_of_mem waits
    have nonempty : s.reqs.elems.length ≠ 0 := UnorderedSet.exists_mem_iff.mp ⟨client, waits⟩
    have running := kept.running.mpr ⟨client, waits⟩
    have ends (stops : List (ServiceOutput Client)) (only : stops = if (s.reqs.erase client).elems.length = 1 then
      [.stopNetworkLocation] else []) :
        runs s.running ([.handler client (.terrestrialFix .timeout)] ++ stops) = true ↔
          (s.reqs.erase client).elems.length ≠ 1 := by
      subst only
      split
      · next one => exact iff_of_false Bool.false_ne_true (not_not.mpr one)
      · next several => exact iff_of_true running several
    rw [imp_iff_right waits]
    constructor
    · rw [step_of_run ran]
      refine ⟨fun kept' => ?_, fun others => ⟨?_, fun other among => ?_⟩⟩
      · have lasts := kept'.running
        rw [ends _ rfl, UnorderedSet.exists_mem_iff, size] at lasts
        omega
      · rw [ends _ rfl, UnorderedSet.exists_mem_iff, size]
        omega
      · exact mem_mClients_onClient.mpr (kept.registered other (UnorderedSet.mem_erase.mp among).2)
    · refine answered_of_answers [client] (congrArg (·.2.2) ran) (List.nodup_singleton client) ?_ fun other => ?_
      · split
        · exact .inr rfl
        · exact .inl rfl
      · rw [step_of_run ran, List.mem_singleton]
        refine ⟨?_, fun both => ?_⟩
        · rintro rfl
          exact ⟨waits, fun among => (UnorderedSet.mem_erase.mp among).1 rfl, by rintro ⟨⟩⟩
        · by_contra different
          exact both.2.1 (UnorderedSet.mem_erase.mpr ⟨different, both.1⟩)
  · have idle : (FixEvent.gtpFixRequestTimeout client).run s.service = _ := gtpFixRequestTimeout_of_not_waiting waits
    rw [step_of_idle idle]
    exact ⟨iff_of_true kept fun waiting => absurd waiting waits, answered_of_idle idle⟩

theorem step_onGtpWwanTrackingCallback (hasLatLong : Bool) (consent : s.service.mOptInTerrestrialService = 1)
    (kept : Kept s) :
    Kept (s.step (.onGtpWwanTrackingCallback hasLatLong)) ∧ Answered s (.onGtpWwanTrackingCallback hasLatLong) := by
  by_cases served : s.reqs.elems.length ≠ 0 ∧ hasLatLong = true ∧ s.service.mOptInTerrestrialService = 1
  · obtain ⟨waiting, rfl, -⟩ := served
    obtain ⟨t, answers, clients⟩ := sendFixes_of_registered (s := s.service) kept.registered
    have ran : (FixEvent.onGtpWwanTrackingCallback true).run s.service = _ :=
      onGtpWwanTrackingCallback_of_served ⟨waiting, consent⟩ answers
    constructor
    · rw [step_of_run ran]
      refine ⟨?_, fun other among => absurd among (UnorderedSet.not_mem_empty other)⟩
      rw [runs, List.foldl_append]
      exact iff_of_false Bool.false_ne_true fun waits => waits.elim UnorderedSet.not_mem_empty
    · refine answered_of_answers s.reqs.elems (congrArg (·.2.2) ran) s.reqs.nodup (.inr rfl) fun other => ?_
      rw [step_of_run ran]
      exact ⟨fun among => ⟨among, UnorderedSet.not_mem_empty other, by rintro ⟨⟩⟩, fun both => both.1⟩
  · have idle : (FixEvent.onGtpWwanTrackingCallback hasLatLong).run s.service = _ :=
      onGtpWwanTrackingCallback_of_unserved served
    rw [step_of_idle idle]
    exact ⟨kept, answered_of_idle idle⟩

end Steps

/-- The consent of the user stays. -/
theorem keeps_consent (e : FixEvent Client) : e.run.Keeps mOptInTerrestrialService := by
  have answer (client : Client) (err : LocationError) :
      (onClient client (sendTerrestrialFix err)).Keeps mOptInTerrestrialService :=
    keeps_mOptInTerrestrialService_onClient
  have sets (reqs : LocationApiService Client → UnorderedSet Client) :
      (Emit.modify fun s => { s with mTerrestrialFixReqs := reqs s } : ServiceM Client Unit).Keeps
        mOptInTerrestrialService :=
    Emit.keeps_modify fun _ => rfl
  cases e with
  | newClient client isClientApi => exact Emit.keeps_modify fun s => by split <;> rfl
  | deleteClient client => exact Emit.keeps_modify fun s => by split <;> rfl
  | getSingleTerrestrialPos client timeoutMsec =>
    refine Emit.keeps_get_bind fun _ => Emit.keeps_ite ((answer client _).bind fun _ => Emit.keeps_pure ()) ?_
    refine (sets _).bind fun _ => (Emit.keeps_emit _).bind fun _ => ?_
    exact Emit.keeps_get_bind fun _ => Emit.keeps_ite (Emit.keeps_emit _) (Emit.keeps_pure ())
  | gtpFixRequestTimeout client =>
    refine Emit.keeps_get_bind fun _ => Emit.keeps_ite ((answer client _).bind fun _ => ?_) (Emit.keeps_pure ())
    refine (sets _).bind fun _ => ?_
    exact Emit.keeps_get_bind fun _ => Emit.keeps_ite (Emit.keeps_emit _) (Emit.keeps_pure ())
  | onGtpWwanTrackingCallback hasLatLong =>
    have fix (client : Client) : (sendFix client).Keeps mOptInTerrestrialService :=
      (answer client _).bind fun _ => Emit.keeps_ite (Emit.keeps_emit _) (Emit.keeps_pure ())
    refine Emit.keeps_get_bind fun _ => Emit.keeps_ite ((Emit.keeps_forM fix).bind fun _ => ?_) (Emit.keeps_pure ())
    exact (sets _).bind fun _ => Emit.keeps_emit _

/-- What a step of a network that is kept comes to. -/
theorem step_kept_iff (consent : s.service.mOptInTerrestrialService = 1) (kept : Kept s) (e : FixEvent Client) :
    (Kept (s.step e) ↔ MayStep s e) ∧ Answered s e := by
  cases e with
  | newClient client isClientApi =>
    exact (step_newClient client isClientApi kept).imp_left fun kept' => iff_of_true kept' trivial
  | deleteClient client => exact step_deleteClient client kept
  | getSingleTerrestrialPos client timeoutMsec => exact step_getSingleTerrestrialPos client timeoutMsec consent kept
  | gtpFixRequestTimeout client => exact step_gtpFixRequestTimeout client kept
  | onGtpWwanTrackingCallback hasLatLong =>
    exact (step_onGtpWwanTrackingCallback hasLatLong consent kept).imp_left fun kept' => iff_of_true kept' trivial

/-- The network location runs exactly for clients that wait, who are registered, and each removed request is answered
once, throughout a run exactly when its steps may be made. -/
theorem kept_iff_mayStep (s : Network Client) (events : List (FixEvent Client))
    (consent : s.service.mOptInTerrestrialService = 1) (idle : s.reqs = .empty) (stopped : s.running = false) :
    Throughout step Kept s events ∧ EachStep step Answered s events ↔ EachStep step MayStep s events := by
  let Consents (s : Network Client) : Prop := s.service.mOptInTerrestrialService = 1
  have consents (s : Network Client) (e : FixEvent Client) (consent : Consents s) : Consents (s.step e) :=
    (keeps_consent e s.service).trans consent
  have kept : Kept s := by
    refine ⟨?_, fun client waits => absurd (idle ▸ waits) (UnorderedSet.not_mem_empty client)⟩
    rw [idle, stopped]
    exact iff_of_false Bool.false_ne_true fun waits => waits.elim UnorderedSet.not_mem_empty
  have exactly : Throughout step Kept s events ↔ EachStep step MayStep s events :=
    throughout_iff_eachStep consent consents kept fun s e consent kept => (step_kept_iff consent kept e).1
  have always : Throughout step Consents s events :=
    throughout_of_eachStep (C := fun _ _ => True) consent (fun s e holds _ => consents s e holds) fun _ _ _ => trivial
  rw [← exactly]
  refine and_iff_left_of_imp fun holds done e reached => ?_
  have within := (List.prefix_append done [e]).trans reached
  exact (step_kept_iff (always done within) (holds done within) e).2

/-- A network with two registered clients and the consent of the user, in which nobody waits. -/
def twoClients : Network ℕ where
  service := { (do newClient 0 true; newClient 1 true : ServiceM ℕ Unit).next (initial .standalone) with
    mOptInTerrestrialService := 1 }
  running := false

theorem kept_two_requests :
    let events := [.getSingleTerrestrialPos 0 100, .getSingleTerrestrialPos 1 100, .deleteClient 0,
      .onGtpWwanTrackingCallback true]
    Throughout step Kept twoClients events ∧ EachStep step Answered twoClients events := by
  refine (kept_iff_mayStep twoClients _ rfl rfl rfl).mpr ?_
  refine eachStep_cons ?_ (eachStep_cons ?_ (eachStep_cons ?_ (eachStep_cons trivial eachStep_nil)))
  · exact (by decide : 0 ∈ twoClients.service.mClients)
  · exact (by decide : 1 ∈ (twoClients.step (.getSingleTerrestrialPos 0 100)).service.mClients)
  · exact (by decide : ([1, 0] : List ℕ) ≠ [0])

/-- The network location goes on after the only request has timed out. -/
theorem timeout_leaves_running :
    ¬ ∀ (s : Network ℕ) (events : List (FixEvent ℕ)), s.service.mOptInTerrestrialService = 1 → s.reqs = .empty →
        s.running = false → Throughout step Kept s events ∧ EachStep step Answered s events := by
  intro kept
  have after := (kept twoClients [.getSingleTerrestrialPos 0 100, .gtpFixRequestTimeout 0] rfl rfl rfl).1
    [.getSingleTerrestrialPos 0 100, .gtpFixRequestTimeout 0] List.prefix_rfl
  obtain ⟨client, waits⟩ := after.running.mp (by decide)
  exact absurd waits List.not_mem_nil

end Network

end Cypfr.HalDaemon
