import Cypfr.Model.LocationApiService

/-! # Handlers of the registered clients

What the service does with the handler of a client leaves the handlers of the others as they are; a loop over the
clients does the same with each of them.
-/

namespace Cypfr.HalDaemon.LocationApiService

variable {Client : Type} [DecidableEq Client] {s : LocationApiService Client} {client other : Client}
  {h : LocHalDaemonClientHandler} {α : Type} {p : HandlerM α}

theorem onClient_of_none (absent : s.getClient client = none) : onClient client p s = (none, s, []) := by
  rw [onClient, absent]

theorem onClient_of_some (registered : s.getClient client = some h) :
    onClient client p s =
      (some (p.result h), { s with mClients := s.mClients.insert client (p.next h) },
        (p.emitted h).map (.handler client)) := by
  rw [onClient, registered]

theorem getClient_eq_none : s.getClient client = none ↔ client ∉ s.mClients := AList.lookup_eq_none

/-- The handler of the client after it was used. -/
theorem getClient_onClient_self : ((onClient client p).next s).getClient client = (s.getClient client).map p.next := by
  cases found : s.getClient client with
  | none => simpa only [Emit.next, onClient_of_none found, Option.map_none] using found
  | some h =>
    simp only [Emit.next, onClient_of_some found, Option.map_some]
    exact AList.lookup_insert _

theorem getClient_onClient_of_ne (different : other ≠ client) :
    ((onClient client p).next s).getClient other = s.getClient other := by
  cases found : s.getClient client with
  | none => rw [Emit.next, onClient_of_none found]
  | some h =>
    simp only [Emit.next, onClient_of_some found]
    exact AList.lookup_insert_ne different

theorem result_onClient : (onClient client p).result s = (s.getClient client).map p.result := by
  cases found : s.getClient client with
  | none => simp only [Emit.result, onClient_of_none found, Option.map_none]
  | some h => simp only [Emit.result, onClient_of_some found, Option.map_some]

theorem emitted_onClient :
    (onClient client p).emitted s = ((s.getClient client).map p.emitted).elim [] (List.map (.handler client)) := by
  cases found : s.getClient client with
  | none => simp only [Emit.emitted, onClient_of_none found, Option.map_none, Option.elim_none]
  | some h => simp only [Emit.emitted, onClient_of_some found, Option.map_some, Option.elim_some]

theorem keeps_mPowerState_onClient : (onClient client p).Keeps LocationApiService.mPowerState := by
  intro s
  cases found : s.getClient client with
  | none => rw [Emit.next, onClient_of_none found]
  | some h => simp only [Emit.next, onClient_of_some found]

theorem keeps_mTerrestrialFixReqs_onClient :
    (onClient client p).Keeps LocationApiService.mTerrestrialFixReqs := by
  intro s
  cases found : s.getClient client with
  | none => rw [Emit.next, onClient_of_none found]
  | some h => simp only [Emit.next, onClient_of_some found]

theorem keeps_mOptInTerrestrialService_onClient :
    (onClient client p).Keeps LocationApiService.mOptInTerrestrialService := by
  intro s
  cases found : s.getClient client with
  | none => rw [Emit.next, onClient_of_none found]
  | some h => simp only [Emit.next, onClient_of_some found]

theorem mem_mClients_onClient : other ∈ ((onClient client p).next s).mClients ↔ other ∈ s.mClients := by
  cases found : s.getClient client with
  | none => rw [Emit.next, onClient_of_none found]
  | some h =>
    simp only [Emit.next, onClient_of_some found, AList.mem_insert]
    refine ⟨fun among => among.elim (fun same => ?_) id, .inr⟩
    exact same ▸ AList.lookup_isSome.mp (Option.isSome_iff_exists.mpr ⟨h, found⟩)

section Loops

variable {clients : List Client}

/-- There is no handler but for the keys. -/
theorem map_of_keys {f : LocHalDaemonClientHandler → LocHalDaemonClientHandler} :
    (if other ∈ s.mClients.keys then (s.getClient other).map f else s.getClient other) = (s.getClient other).map f := by
  split
  · rfl
  · next absent =>
    rw [getClient_eq_none.mpr fun among => absent (AList.mem_keys.mp among)]
    rfl

/-- A loop over some clients does its body with the handler of each of them. -/
theorem getClient_forM (p : HandlerM α) (distinct : clients.Nodup) :
    ((clients.forM fun client => do let _ ← onClient client p).next s).getClient other =
      if other ∈ clients then (s.getClient other).map p.next else s.getClient other := by
  induction clients generalizing s with
  | nil => rfl
  | cons client rest ih =>
    obtain ⟨fresh, distinct⟩ := List.nodup_cons.mp distinct
    refine (ih distinct (s := (onClient client p).next s)).trans ?_
    by_cases same : other = client
    · subst same
      rw [if_neg fresh, if_pos List.mem_cons_self, getClient_onClient_self]
    · simp only [getClient_onClient_of_ne same, List.mem_cons, same, false_or]

theorem getClient_suspendAllTrackingSessions :
    (suspendAllTrackingSessions.next s).getClient other = (s.getClient other).map suspendHandler.next :=
  (getClient_forM suspendHandler (AList.keys_nodup _)).trans map_of_keys

theorem keeps_mPowerState_suspendAllTrackingSessions :
    (suspendAllTrackingSessions : ServiceM Client Unit).Keeps LocationApiService.mPowerState :=
  Emit.keeps_get_bind fun _ => Emit.keeps_forM fun _ => keeps_mPowerState_onClient.bind fun _ => Emit.keeps_pure ()

variable {ids : Client → UInt32}

/-- A resumption that succeeds for every client. -/
theorem getClient_resumeClients (distinct : clients.Nodup)
    (succeeds : ∀ client ∈ clients, ∀ h, s.getClient client = some h → (resumeHandler (ids client)).result h = true) :
    ((resumeClients ids clients).next s).getClient other =
      if other ∈ clients then (s.getClient other).map (resumeHandler (ids other)).next else s.getClient other := by
  induction clients generalizing s with
  | nil => rfl
  | cons client rest ih =>
    obtain ⟨fresh, distinct⟩ := List.nodup_cons.mp distinct
    have goes : (onClient client (resumeHandler (ids client))).result s ≠ some false := by
      rw [result_onClient]
      cases found : s.getClient client with
      | none => exact Option.some_ne_none _ |>.symm
      | some h =>
        rw [Option.map_some, succeeds client List.mem_cons_self h found]
        decide
    have later := ih (s := (onClient client (resumeHandler (ids client))).next s) distinct ?_
    · rw [resumeClients, Emit.next_bind, if_neg goes, later]
      by_cases same : other = client
      · subst same
        rw [if_neg fresh, if_pos List.mem_cons_self, getClient_onClient_self]
      · simp only [getClient_onClient_of_ne same, List.mem_cons, same, false_or]
    · intro client' among h registered
      have different : client' ≠ client := fun same => fresh (same ▸ among)
      rw [getClient_onClient_of_ne different] at registered
      exact succeeds client' (List.mem_cons_of_mem _ among) h registered

theorem keeps_mPowerState_resumeClients : (resumeClients ids clients).Keeps LocationApiService.mPowerState := by
  induction clients with
  | nil => exact Emit.keeps_pure ()
  | cons client rest ih => exact keeps_mPowerState_onClient.bind fun _ => Emit.keeps_ite (Emit.keeps_pure ()) ih

theorem getClient_resumeAllTrackingSessions
    (succeeds : ∀ client h, s.getClient client = some h → (resumeHandler (ids client)).result h = true) :
    ((resumeAllTrackingSessions ids).next s).getClient other =
      (s.getClient other).map (resumeHandler (ids other)).next :=
  (getClient_resumeClients (AList.keys_nodup _) fun client _ => succeeds client).trans map_of_keys

theorem keeps_mPowerState_resumeAllTrackingSessions :
    (resumeAllTrackingSessions ids).Keeps LocationApiService.mPowerState :=
  Emit.keeps_get_bind fun _ => keeps_mPowerState_resumeClients

end Loops

section Clients

variable {s' : LocationApiService Client} {P Q : LocHalDaemonClientHandler → Prop}

/-- All registered clients have a property. -/
def AllClients (P : LocHalDaemonClientHandler → Prop) (s : LocationApiService Client) : Prop :=
  ∀ client h, s.getClient client = some h → P h

theorem AllClients.map {f : Client → LocHalDaemonClientHandler → LocHalDaemonClientHandler} (all : AllClients P s)
    (after : ∀ client, s'.getClient client = (s.getClient client).map (f client)) (keeps : ∀ client h, P h →
    Q (f client h)) :
    AllClients Q s' := by
  intro client h' registered
  rw [after] at registered
  obtain ⟨h, before, rfl⟩ := Option.map_eq_some_iff.mp registered
  exact keeps client h (all client h before)

theorem AllClients.onClient_mono (all : AllClients P s) (self : ∀ h, P h → Q (p.next h)) (weaker : ∀ h, P h → Q h) :
    AllClients Q ((onClient client p).next s) := by
  intro other h' registered
  by_cases same : other = client
  · subst same
    rw [getClient_onClient_self] at registered
    obtain ⟨h, before, rfl⟩ := Option.map_eq_some_iff.mp registered
    exact self h (all other h before)
  · rw [getClient_onClient_of_ne same] at registered
    exact weaker h' (all other h' registered)

theorem AllClients.onClient (all : AllClients P s) (keeps : ∀ h, P h → P (p.next h)) :
    AllClients P ((onClient client p).next s) := all.onClient_mono keeps fun _ holds => holds

theorem AllClients.mono (all : AllClients P s) (weaker : ∀ h, P h → Q h) : AllClients Q s :=
  fun client h registered => weaker h (all client h registered)

theorem AllClients.newClient {isClientApi : Bool} (all : AllClients P s) (fresh : P (.construct isClientApi)) :
    AllClients P ((LocationApiService.newClient client isClientApi).next s) := by
  intro other h registered
  rw [LocationApiService.newClient, Emit.next_modify] at registered
  split at registered
  · exact all other h registered
  · by_cases same : other = client
    · subst same
      obtain rfl := Option.some.inj ((AList.lookup_insert s.mClients).symm.trans registered)
      exact fresh
    · exact all other h ((AList.lookup_insert_ne same).symm.trans registered)

theorem AllClients.deleteClient (all : AllClients P s) :
    AllClients P ((LocationApiService.deleteClient client).next s) := by
  intro other h registered
  rw [LocationApiService.deleteClient, Emit.next_modify] at registered
  split at registered
  · by_cases same : other = client
    · subst same
      exact absurd ((AList.lookup_erase _ _).symm.trans registered) (Option.some_ne_none h).symm
    · exact all other h ((AList.lookup_erase_ne same).symm.trans registered)
  · exact all other h registered

end Clients

end Cypfr.HalDaemon.LocationApiService
