import Cypfr.Proofs.GeofenceRequests
import Cypfr.Soundness.BiDict

/-! # What the geofence calls request

A request that modifies geofences reads its options from the front, so each session has its own only where no
unknown identifier moved it. The removal of all geofences passes their sessions on as identifiers.
-/

namespace Cypfr.ClientBase

open Machine

namespace GeofenceClient

section Modify

variable (c : GeofenceClient) (geofences : List (UInt32 × GeofenceOption))

/-- Every request to modify geofences has the session of each known identifier with the identifier's own options, in
order; the location API reads as many options as there are sessions. -/
def PairsOwn : Prop := ∀ sessions options,
  GeofenceCall.modifyGeofences sessions options ∈ (locAPIModifyGeofences geofences).emitted c →
    sessions.zip options = geofences.foundWithOwn c.geofenceBiDict.known?

/-- The options of each known identifier are those at the place of all known identifiers before it. -/
def OptionsInPlace : Prop := c.hasLocationAPI ∧ c.session = geofenceSessionId →
  ∀ before geofence after, geofences = before ++ geofence :: after → (c.geofenceBiDict.known? geofence.1).isSome →
    (geofences.map Prod.snd)[before.foundCount c.geofenceBiDict.known?]? = some geofence.2

variable {c geofences}

theorem mem_emitted_modifyGeofences {call : GeofenceCall} : call ∈ (locAPIModifyGeofences geofences).emitted c ↔
    (c.hasLocationAPI ∧ c.session = geofenceSessionId) ∧
      (geofences.filterMap fun geofence => c.geofenceBiDict.known? geofence.1) ≠ [] ∧
      call = .modifyGeofences (geofences.filterMap fun geofence => c.geofenceBiDict.known? geofence.1)
        (geofences.map Prod.snd) := by
  have sessions : ((geofences.map fun geofence => (geofence.1, geofence.2.breachTypeMask)).foldl maskGeofence
      ⟨[], c.geofenceBiDict⟩).sessions = geofences.filterMap fun geofence => c.geofenceBiDict.known? geofence.1 := by
    rw [sessions_maskGeofences, List.nil_append, List.filterMap_map]
    rfl
  simp only [locAPIModifyGeofences, Emit.emitted_get_bind]
  simp only [pushGeofenceRequest, Emit.emitted_ite, Emit.emitted_bind, Emit.emitted_modify, Emit.emitted_emit,
    Emit.emitted_pure, List.nil_append, sessions]
  split_ifs with ready found
  · rw [List.mem_singleton, and_iff_right ready, and_iff_right found]
  · exact iff_of_false List.not_mem_nil fun sent => found sent.2.1
  · exact iff_of_false List.not_mem_nil fun sent => ready sent.1

/-- Each session has its own options exactly when no unknown identifier moved it to others. -/
theorem modify_pairs_own_iff (c : GeofenceClient) (geofences : List (UInt32 × GeofenceOption)) :
    c.PairsOwn geofences ↔ c.OptionsInPlace geofences := by
  rw [OptionsInPlace, ← List.zip_found_eq_iff]
  constructor
  · intro own ready
    by_cases found : (geofences.filterMap fun geofence => c.geofenceBiDict.known? geofence.1) = []
    · have none : geofences.foundWithOwn c.geofenceBiDict.known? = [] := by
        rw [List.filterMap_eq_nil_iff] at found
        rw [List.foundWithOwn, List.filterMap_eq_nil_iff]
        intro geofence member
        rw [found geofence member, Option.map_none]
      rw [found, List.zip_nil_left, none]
    · exact own _ _ (mem_emitted_modifyGeofences.mpr ⟨ready, found, rfl⟩)
  · intro own sessions options emitted
    obtain ⟨ready, -, same⟩ := mem_emitted_modifyGeofences.mp emitted
    obtain ⟨rfl, rfl⟩ := GeofenceCall.modifyGeofences.inj same
    exact own ready

/-- After geofence 7 was added, an unknown identifier before it is modified too. -/
theorem unknown_id_moves_options : ¬ ∀ (c : GeofenceClient) geofences, c.PairsOwn geofences := by
  intro always
  have own := always ((locAPIAddGeofences [(7, ⟨16, 1, 0, 0⟩)] (some [1])).next (.initial true))
    [(9, ⟨16, 2, 0, 0⟩), (7, ⟨16, 4, 0, 0⟩)] [1] [⟨16, 2, 0, 0⟩, ⟨16, 4, 0, 0⟩] (by decide)
  exact absurd own (by decide)

end Modify

section RemoveAll

/-- All geofences are removed: a request for exactly the sessions that are present, if there are any, and a
dictionary that is empty afterwards. -/
def RemovesAll (c : GeofenceClient) : Prop :=
  (∃ sessions, sessions.Perm c.geofenceBiDict.getAllSessions ∧
    locAPIRemoveAllGeofences.emitted c = if sessions = [] then [] else [.removeGeofences sessions]) ∧
  (locAPIRemoveAllGeofences.next c).geofenceBiDict = .empty

/-- Each session that is present is the one its identifier has, and the identifier is itself the number of a
session that is present. -/
def IdsAreSessions (c : GeofenceClient) : Prop := ∀ session id, c.geofenceBiDict.backwardMap.find? session = some id →
  c.geofenceBiDict.forwardMap.find? id = some session ∧ id ∈ c.geofenceBiDict.backwardMap

/-- What holds of a client between its calls: its dictionary leads, and only a client that can request has
sessions. -/
structure Kept (c : GeofenceClient) : Prop where
  leads : c.geofenceBiDict.Leads
  ready : ∀ session ∈ c.geofenceBiDict.backwardMap, c.hasLocationAPI ∧ c.session = geofenceSessionId

variable {c : GeofenceClient} {e : GeofenceEvent}

theorem kept_initial (hasLocationAPI : Bool) : Kept (.initial hasLocationAPI) :=
  ⟨BiDict.leads_empty, fun _ member => absurd member SortedMap.not_mem_empty⟩

/-- A call that leaves the session of the client, and the dictionary too unless it can request. -/
theorem Kept.of_dict {c' : GeofenceClient} {found : BiDict UInt32} (kept : c.Kept) (leads : found.Leads)
    (same : c'.hasLocationAPI = c.hasLocationAPI ∧ c'.session = c.session)
    (dict : c'.geofenceBiDict =
      if c.hasLocationAPI ∧ c.session = geofenceSessionId then found else c.geofenceBiDict) : c'.Kept := by
  obtain ⟨sameApi, sameSession⟩ := same
  constructor
  · rw [dict]
    split_ifs
    · exact leads
    · exact kept.leads
  · intro session member
    rw [sameApi, sameSession]
    rw [dict] at member
    split_ifs at member with ready
    · exact ready
    · exact kept.ready session member

/-- Whether a client can request. -/
def requesting (c : GeofenceClient) : Bool × UInt32 := (c.hasLocationAPI, c.session)

/-- What the calls for known geofences do once they looked the identifiers up. -/
theorem keeps_send (found : BiDict UInt32) (sent : Prop) [Decidable sent] (request : GeofenceRequest)
    (call : GeofenceCall) :
    (do
      Emit.modify fun c => { c with geofenceBiDict := found }
      if sent then do
        pushGeofenceRequest request
        Emit.emit call : GeofenceM Unit).Keeps requesting := by
  apply Emit.Keeps.bind
  · exact Emit.keeps_modify fun _ => rfl
  · intro _
    apply Emit.keeps_ite
    · apply Emit.Keeps.bind
      · exact Emit.keeps_modify fun _ => rfl
      · exact fun _ => Emit.keeps_emit call
    · exact Emit.keeps_pure ()

theorem keeps_removeGeofences (ids : List UInt32) : (locAPIRemoveGeofences ids).Keeps requesting := by
  apply Emit.keeps_get_bind
  intro c
  exact Emit.keeps_ite (keeps_send _ _ _ _) (Emit.keeps_pure ())

theorem keeps_modifyGeofences (geofences : List (UInt32 × GeofenceOption)) :
    (locAPIModifyGeofences geofences).Keeps requesting := by
  apply Emit.keeps_get_bind
  intro c
  exact Emit.keeps_ite (keeps_send _ _ _ _) (Emit.keeps_pure ())

theorem keeps_resumeGeofences (ids : List UInt32) (mask : Option (List UInt32)) :
    (locAPIResumeGeofences ids mask).Keeps requesting := by
  apply Emit.keeps_get_bind
  intro c
  exact Emit.keeps_ite (keeps_send _ _ _ _) (Emit.keeps_pure ())

theorem addGeofences_requesting (geofences : List (UInt32 × GeofenceOption)) (sessions : Option (List UInt32)) :
    ((locAPIAddGeofences geofences sessions).next c).hasLocationAPI = c.hasLocationAPI ∧
      ((locAPIAddGeofences geofences sessions).next c).session =
        if c.hasLocationAPI then geofenceSessionId else c.session := by
  cases has : c.hasLocationAPI with
  | false => simp [locAPIAddGeofences, has]
  | true =>
    by_cases session : c.session = geofenceSessionId <;> cases sessions <;>
      simp [locAPIAddGeofences, pushGeofenceRequest, has, session]

theorem kept_removeGeofences (kept : c.Kept) (ids : List UInt32) : ((locAPIRemoveGeofences ids).next c).Kept :=
  kept.of_dict (leads_removeGeofences kept.leads ids .empty) (Prod.ext_iff.mp (keeps_removeGeofences ids c))
    (removeGeofences_dict ids)

theorem kept_addGeofences (kept : c.Kept) {geofences : List (UInt32 × GeofenceOption)} {sessions : List UInt32}
    (fresh : c.ReturnsFresh (.addGeofences geofences (some sessions))) :
    ((locAPIAddGeofences geofences (some sessions)).next c).Kept := by
  obtain ⟨sameApi, session⟩ := addGeofences_requesting (c := c) geofences (some sessions)
  obtain ⟨sameLength, distinct, fresh⟩ := fresh
  have second : (geofences.zip sessions).map Prod.snd = sessions := List.map_snd_zip (Nat.le_of_eq sameLength)
  have dict := addGeofences_dict (c := c) geofences sessions
  cases has : c.hasLocationAPI with
  | false =>
    rw [has] at dict session sameApi
    constructor
    · rw [dict]
      exact kept.leads
    · intro session' member
      rw [dict] at member
      exact absurd (kept.ready session' member).1 (by simp [has])
  | true =>
    rw [has] at dict session sameApi
    constructor
    · rw [dict]
      apply leads_setGeofences kept.leads (by rwa [second])
      rw [second]
      exact fun session' member => ⟨UInt32.pos_iff_ne_zero.mpr (fresh session' member).1, (fresh session' member).2⟩
    · exact fun _ _ => ⟨sameApi, session⟩

theorem kept_step (fresh : c.ReturnsFresh e) (kept : c.Kept) : (c.step e).Kept := by
  cases e with
  | addGeofences geofences sessions =>
    cases sessions with
    | none =>
      obtain ⟨sameApi, same⟩ := addGeofences_requesting (c := c) geofences none
      constructor
      · rw [step, addGeofences_null]
        exact kept.leads
      · intro session member
        rw [step, addGeofences_null] at member
        obtain ⟨has, -⟩ := kept.ready session member
        rw [step, same, sameApi, if_pos has]
        exact ⟨has, rfl⟩
    | some sessions => exact kept_addGeofences kept fresh
  | removeGeofences ids => exact kept_removeGeofences kept ids
  | modifyGeofences geofences =>
    exact kept.of_dict (leads_maskGeofences kept.leads _) (Prod.ext_iff.mp (keeps_modifyGeofences geofences c))
      (modifyGeofences_dict geofences)
  | resumeGeofences ids mask =>
    apply kept.of_dict ?_ (Prod.ext_iff.mp (keeps_resumeGeofences ids mask c)) (resumeGeofences_next_dict ids mask)
    cases mask with
    | none => exact kept.leads
    | some mask => exact leads_maskGeofences kept.leads _
  | removeAllGeofences =>
    rw [step, locAPIRemoveAllGeofences, Emit.next_get_bind, Emit.next_ite]
    split_ifs
    · exact kept_removeGeofences kept _
    · exact kept

theorem emitted_removeGeofences (ids : List UInt32) : (locAPIRemoveGeofences ids).emitted c =
    if (c.hasLocationAPI ∧ c.session = geofenceSessionId) ∧
        (ids.foldl removeGeofence (⟨[], c.geofenceBiDict⟩, .empty)).1.sessions ≠ [] then
      [.removeGeofences (ids.foldl removeGeofence (⟨[], c.geofenceBiDict⟩, .empty)).1.sessions]
    else [] := by
  simp only [locAPIRemoveGeofences, Emit.emitted_get_bind]
  simp only [pushGeofenceRequest, Emit.emitted_ite, Emit.emitted_bind, Emit.emitted_modify, Emit.emitted_emit,
    Emit.emitted_pure, List.nil_append, ite_and]

/-- The removal of all geofences is that of the identifiers with the numbers of the sessions. -/
theorem removeAll_eq : locAPIRemoveAllGeofences c = locAPIRemoveGeofences c.geofenceBiDict.getAllSessions c := by
  rw [locAPIRemoveAllGeofences, Emit.get_bind_apply]
  split_ifs with some
  · rfl
  · rw [not_not.mp some, locAPIRemoveGeofences, Emit.get_bind_apply]
    split_ifs <;> rfl

/-- What the removal of all geofences requests and leaves: only the sessions that are identifiers are looked up. -/
theorem removeAll_found (kept : c.Kept) :
    let found := c.geofenceBiDict.getAllSessions.filterMap c.geofenceBiDict.forwardMap.find?
    let left := (locAPIRemoveAllGeofences.next c).geofenceBiDict
    locAPIRemoveAllGeofences.emitted c = (if found = [] then [] else [.removeGeofences found]) ∧
      (∀ id, left.forwardMap.find? id =
        if id ∈ c.geofenceBiDict.getAllSessions then none else c.geofenceBiDict.forwardMap.find? id) ∧
      ∀ session, session ∈ left.backwardMap ↔ session ∈ c.geofenceBiDict.backwardMap ∧ session ∉ found := by
  intro found left
  obtain ⟨sessions, forwards, backwards⟩ := @removeGeofences_found _ [] _ kept.leads
    (SortedMap.nodup_keys (m := c.geofenceBiDict.backwardMap)) .empty
  have emitted := emitted_removeGeofences (c := c) c.geofenceBiDict.getAllSessions
  have dict := removeGeofences_dict (c := c) c.geofenceBiDict.getAllSessions
  rw [Emit.emitted, ← removeAll_eq] at emitted
  rw [Emit.next, ← removeAll_eq] at dict
  by_cases ready : c.hasLocationAPI ∧ c.session = geofenceSessionId
  · rw [if_pos ready] at dict
    refine ⟨?_, fun id => ?_, fun session => ?_⟩
    · apply emitted.trans
      rw [BiDict.getAllSessions, sessions, List.nil_append]
      simp only [ready, true_and, and_self, ne_eq, ite_not]
      rfl
    · exact (congrArg (fun d => d.forwardMap.find? id) dict).trans (forwards id)
    · exact (Eq.to_iff (congrArg (fun d => session ∈ d.backwardMap) dict)).trans (backwards session)
  · have none : c.geofenceBiDict.getAllSessions = [] := by
      apply List.eq_nil_iff_forall_not_mem.mpr
      intro session member
      exact ready (kept.ready session (BiDict.mem_getAllSessions.mp member))
    have nothing : found = [] := by
      change c.geofenceBiDict.getAllSessions.filterMap _ = []
      rw [none, List.filterMap_nil]
    rw [if_neg ready] at dict
    rw [if_neg fun both => ready both.1] at emitted
    rw [none, nothing]
    refine ⟨emitted, fun id => ?_, fun session => ?_⟩
    · exact congrArg (fun d => d.forwardMap.find? id) dict
    · rw [and_iff_left List.not_mem_nil]
      exact Eq.to_iff (congrArg (fun d => session ∈ d.backwardMap) dict)

theorem removesAll_iff (kept : c.Kept) : c.RemovesAll ↔ c.IdsAreSessions := by
  obtain ⟨emitted, forwards, backwards⟩ := removeAll_found kept
  constructor
  · rintro ⟨-, empty⟩ session id back
    rw [empty] at backwards
    have member : session ∈ c.geofenceBiDict.backwardMap := SortedMap.mem_iff_find?.mpr ⟨id, back⟩
    have requested := not_not.mp fun missing => SortedMap.not_mem_empty ((backwards session).mpr ⟨member, missing⟩)
    obtain ⟨other, among, forward⟩ := List.mem_filterMap.mp requested
    have same := kept.leads.back other session forward
    rw [back] at same
    cases same
    exact ⟨forward, BiDict.mem_getAllSessions.mp among⟩
  · intro sessions
    have requested (session : UInt32) : session ∈ c.geofenceBiDict.getAllSessions.filterMap
        c.geofenceBiDict.forwardMap.find? ↔ session ∈ c.geofenceBiDict.backwardMap := by
      constructor
      · intro among
        obtain ⟨id, -, forward⟩ := List.mem_filterMap.mp among
        exact kept.leads.mem_of_forward forward
      · intro member
        obtain ⟨id, back⟩ := SortedMap.mem_iff_find?.mp member
        obtain ⟨forward, among⟩ := sessions session id back
        exact List.mem_filterMap.mpr ⟨id, BiDict.mem_getAllSessions.mpr among, forward⟩
    refine ⟨⟨_, ?_, emitted⟩, ?_⟩
    · apply (List.perm_ext_iff_of_nodup (kept.leads.nodup_sessions SortedMap.nodup_keys) SortedMap.nodup_keys).mpr
      exact fun session => (requested session).trans BiDict.mem_getAllSessions.symm
    · have left : (locAPIRemoveAllGeofences.next c).geofenceBiDict.Leads := by
        rw [Emit.next, removeAll_eq]
        exact (kept_removeGeofences kept _).leads
      apply left.eq_empty
      · intro id
        rw [forwards]
        split_ifs with among
        · rfl
        · apply SortedMap.find?_eq_none_iff.mpr
          intro member
          obtain ⟨session, forward⟩ := SortedMap.mem_iff_find?.mp member
          have back := kept.leads.back id session forward
          exact among (BiDict.mem_getAllSessions.mpr (sessions session id back).2)
      · intro session member
        obtain ⟨member, missing⟩ := (backwards session).mp member
        exact missing ((requested session).mpr member)

/-- In every run all geofences are removed exactly when the identifiers are themselves numbers of sessions and no
identifier was added again. -/
theorem removesAll_after_run_iff (hasLocationAPI : Bool) (events : List GeofenceEvent) :
    EachStep step ReturnsFresh (.initial hasLocationAPI) events →
      ((events.foldl step (.initial hasLocationAPI)).RemovesAll ↔
        (events.foldl step (.initial hasLocationAPI)).IdsAreSessions) := by
  intro fresh
  have kept : Throughout step Kept (.initial hasLocationAPI) events :=
    throughout_of_eachStep (kept_initial hasLocationAPI) (fun _ _ kept fresh => kept_step fresh kept) fresh
  exact removesAll_iff (kept events List.prefix_rfl)

/-- Geofence 7 is added and has session 1. -/
def addOne : List GeofenceEvent := [.addGeofences [(7, ⟨16, 1, 0, 0⟩)] (some [1])]

theorem returnsFresh_addOne : EachStep step ReturnsFresh (.initial true) addOne := by
  refine eachStep_cons ⟨rfl, List.nodup_singleton 1, fun session member => ?_⟩ eachStep_nil
  cases List.mem_singleton.mp member
  exact ⟨by decide, SortedMap.not_mem_empty⟩

theorem removesAll_after_run_iff_addOne : (addOne.foldl step (.initial true)).RemovesAll ↔
    (addOne.foldl step (.initial true)).IdsAreSessions :=
  removesAll_after_run_iff true addOne returnsFresh_addOne

/-- The only geofence stays: there is none with the identifier 1. -/
theorem geofence_stays : ¬ ∀ events, EachStep step ReturnsFresh (.initial true) events →
    (events.foldl step (.initial true)).RemovesAll := by
  intro always
  have empty := (always addOne returnsFresh_addOne).2
  have found := congrArg (fun d => d.forwardMap.find? 7) empty
  exact absurd found (by decide)

end RemoveAll

end GeofenceClient

end Cypfr.ClientBase
