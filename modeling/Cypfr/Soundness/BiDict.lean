import Cypfr.Machine.Run
import Cypfr.Proofs.BiDict

/-! # Geofence identifiers over a run

The identifiers and the sessions of the geofences stay a bijection exactly as long as every call that adds
geofences adds identifiers that are new.
-/

namespace Cypfr.ClientBase

open Machine

/-- The calls of a client that add, change or remove geofences; an added geofence gets a session, unless the
location API returns null. -/
inductive GeofenceEvent where
  | addGeofences (geofences : List (UInt32 × GeofenceOption)) (sessions : Option (List UInt32))
  | removeGeofences (ids : List UInt32)
  | modifyGeofences (geofences : List (UInt32 × GeofenceOption))
  | resumeGeofences (ids : List UInt32) (mask : Option (List UInt32))
  | removeAllGeofences

namespace GeofenceClient

variable {c : GeofenceClient}

/-- One call of a run. -/
def step (c : GeofenceClient) : GeofenceEvent → GeofenceClient
  | .addGeofences geofences sessions => (locAPIAddGeofences geofences sessions).next c
  | .removeGeofences ids => (locAPIRemoveGeofences ids).next c
  | .modifyGeofences geofences => (locAPIModifyGeofences geofences).next c
  | .resumeGeofences ids mask => (locAPIResumeGeofences ids mask).next c
  | .removeAllGeofences => locAPIRemoveAllGeofences.next c

/-- The location API returns a session for each geofence, not zero and not in use. -/
def ReturnsFresh (c : GeofenceClient) : GeofenceEvent → Prop
  | .addGeofences geofences (some sessions) => sessions.length = geofences.length ∧ sessions.Nodup ∧
      ∀ session ∈ sessions, session ≠ 0 ∧ session ∉ c.geofenceBiDict.backwardMap
  | _ => True

/-- The identifiers that a call adds are different from each other and from those that are known. -/
def AddsNew (c : GeofenceClient) : GeofenceEvent → Prop
  | .addGeofences geofences (some _) => c.hasLocationAPI →
      (geofences.map Prod.fst).Nodup ∧ ∀ id ∈ geofences.map Prod.fst, id ∉ c.geofenceBiDict.forwardMap
  | _ => True

end GeofenceClient

section Calls

variable {c : GeofenceClient} (geofences : List (UInt32 × GeofenceOption)) (sessions : List UInt32)

theorem addGeofences_dict : ((locAPIAddGeofences geofences (some sessions)).next c).geofenceBiDict =
    if c.hasLocationAPI then (geofences.zip sessions).foldl setGeofence c.geofenceBiDict else c.geofenceBiDict := by
  cases has : c.hasLocationAPI with
  | false => simp [locAPIAddGeofences, has]
  | true => by_cases session : c.session = geofenceSessionId <;>
      simp [locAPIAddGeofences, pushGeofenceRequest, has, session]

theorem addGeofences_null : ((locAPIAddGeofences geofences none).next c).geofenceBiDict = c.geofenceBiDict := by
  cases has : c.hasLocationAPI with
  | false => simp [locAPIAddGeofences, has]
  | true => by_cases session : c.session = geofenceSessionId <;> simp [locAPIAddGeofences, has, session]

theorem removeGeofences_dict (ids : List UInt32) : ((locAPIRemoveGeofences ids).next c).geofenceBiDict =
    if c.hasLocationAPI ∧ c.session = geofenceSessionId then
      (ids.foldl removeGeofence (⟨[], c.geofenceBiDict⟩, .empty)).1.dict
    else c.geofenceBiDict := by
  simp only [locAPIRemoveGeofences, Emit.next_get_bind]
  simp only [pushGeofenceRequest, Emit.next_ite, Emit.next_bind, Emit.next_modify, Emit.next_emit, Emit.next_pure]
  split_ifs <;> rfl

theorem modifyGeofences_dict : ((locAPIModifyGeofences geofences).next c).geofenceBiDict =
    if c.hasLocationAPI ∧ c.session = geofenceSessionId then
      ((geofences.map fun geofence => (geofence.1, geofence.2.breachTypeMask)).foldl maskGeofence
        ⟨[], c.geofenceBiDict⟩).dict
    else c.geofenceBiDict := by
  simp only [locAPIModifyGeofences, Emit.next_get_bind]
  simp only [pushGeofenceRequest, Emit.next_ite, Emit.next_bind, Emit.next_modify, Emit.next_emit, Emit.next_pure]
  split_ifs <;> rfl

theorem resumeGeofences_next_dict (ids : List UInt32) (mask : Option (List UInt32)) :
    ((locAPIResumeGeofences ids mask).next c).geofenceBiDict =
      if c.hasLocationAPI ∧ c.session = geofenceSessionId then
        mask.elim c.geofenceBiDict fun mask => ((ids.zip mask).foldl maskGeofence ⟨[], c.geofenceBiDict⟩).dict
      else c.geofenceBiDict := by
  cases mask <;>
  · simp only [locAPIResumeGeofences, Emit.next_get_bind]
    simp only [pushGeofenceRequest, Emit.next_ite, Emit.next_bind, Emit.next_modify, Emit.next_emit, Emit.next_pure,
      resumeGeofences_dict, Option.elim]
    split_ifs <;> rfl

theorem bijection_removeGeofences_next (bijection : c.geofenceBiDict.Bijection) (ids : List UInt32) :
    ((locAPIRemoveGeofences ids).next c).geofenceBiDict.Bijection := by
  rw [removeGeofences_dict]
  split_ifs
  · exact bijection_removeGeofences bijection ids
  · exact bijection

/-- A call that adds geofences keeps the bijection exactly when it adds new identifiers. -/
theorem bijection_addGeofences_iff (bijection : c.geofenceBiDict.Bijection)
    (fresh : c.ReturnsFresh (.addGeofences geofences (some sessions))) :
    ((locAPIAddGeofences geofences (some sessions)).next c).geofenceBiDict.Bijection ↔
      c.AddsNew (.addGeofences geofences (some sessions)) := by
  obtain ⟨sameLength, distinct, fresh⟩ := fresh
  rw [addGeofences_dict, GeofenceClient.AddsNew]
  cases has : c.hasLocationAPI with
  | false => exact iff_of_true bijection fun isTrue => absurd isTrue Bool.false_ne_true
  | true =>
    have second : (geofences.zip sessions).map Prod.snd = sessions := List.map_snd_zip (Nat.le_of_eq sameLength)
    have first : (geofences.zip sessions).map Prod.fst = geofences := List.map_fst_zip (Nat.le_of_eq sameLength.symm)
    have ids : ((geofences.zip sessions).map fun geofence => geofence.1.1) = geofences.map Prod.fst := by
      conv_rhs => rw [← first, List.map_map]
      rfl
    rw [if_pos rfl, bijection_setGeofences_iff bijection (by rwa [second])
      (fun session member => (fresh session (by rwa [second] at member)).2), ids]
    exact ⟨fun new _ => new, fun new => new rfl⟩

end Calls

namespace GeofenceClient

variable {c : GeofenceClient} {e : GeofenceEvent}

theorem bijection_step_iff (fresh : c.ReturnsFresh e) (bijection : c.geofenceBiDict.Bijection) :
    (c.step e).geofenceBiDict.Bijection ↔ c.AddsNew e := by
  cases e with
  | addGeofences geofences sessions =>
    cases sessions with
    | none =>
      rw [step, addGeofences_null]
      exact iff_of_true bijection trivial
    | some sessions => exact bijection_addGeofences_iff geofences sessions bijection fresh
  | removeGeofences ids => exact iff_of_true (bijection_removeGeofences_next bijection ids) trivial
  | modifyGeofences geofences =>
    refine iff_of_true ?_ trivial
    rw [step, modifyGeofences_dict]
    split_ifs
    · exact bijection_maskGeofences bijection _
    · exact bijection
  | resumeGeofences ids mask =>
    refine iff_of_true ?_ trivial
    rw [step, resumeGeofences_next_dict]
    split_ifs
    · cases mask with
      | none => exact bijection
      | some mask => exact bijection_maskGeofences bijection _
    · exact bijection
  | removeAllGeofences =>
    refine iff_of_true ?_ trivial
    rw [step, locAPIRemoveAllGeofences, Emit.next_get_bind, Emit.next_ite]
    split_ifs
    · exact bijection_removeGeofences_next bijection _
    · exact bijection

/-- In every run the identifiers and the sessions are a bijection throughout exactly when every call adds new
identifiers. -/
theorem bijection_throughout_iff (hasLocationAPI : Bool) (events : List GeofenceEvent) :
    EachStep step ReturnsFresh (.initial hasLocationAPI) events →
      (Throughout step (fun c => c.geofenceBiDict.Bijection) (.initial hasLocationAPI) events ↔
        EachStep step AddsNew (.initial hasLocationAPI) events) := by
  intro fresh
  exact throughout_iff_eachStep_of fresh (I := fun _ => True) trivial (fun _ _ _ _ => trivial) BiDict.bijection_empty
    fun _ _ _ fresh bijection => bijection_step_iff fresh bijection

end GeofenceClient

section Again

open GeofenceClient

/-- An identifier is added, and added again. -/
def addAgain : List GeofenceEvent :=
  [.addGeofences [(7, ⟨16, 1, 0, 0⟩)] (some [1]), .addGeofences [(7, ⟨16, 1, 0, 0⟩)] (some [2])]

theorem returnsFresh_addAgain : EachStep step ReturnsFresh (.initial true) addAgain := by
  refine eachStep_cons ⟨rfl, List.nodup_singleton 1, fun session member => ?_⟩
    (eachStep_cons ⟨rfl, List.nodup_singleton 2, fun session member => ?_⟩ eachStep_nil)
  · cases List.mem_singleton.mp member
    exact ⟨by decide, SortedMap.not_mem_empty⟩
  · cases List.mem_singleton.mp member
    exact ⟨by decide, SortedMap.contains_eq_false_iff.mp (by decide)⟩

theorem bijection_throughout_iff_addAgain :
    Throughout step (fun c => c.geofenceBiDict.Bijection) (.initial true) addAgain ↔
      EachStep step AddsNew (.initial true) addAgain :=
  bijection_throughout_iff true addAgain returnsFresh_addAgain

/-- The first session of an identifier that was added again still leads to it. -/
theorem readded_id_keeps_session : ¬ ∀ events, EachStep step ReturnsFresh (.initial true) events →
    Throughout step (fun c => c.geofenceBiDict.Bijection) (.initial true) events := by
  intro always
  have final := always addAgain returnsFresh_addAgain _ List.prefix_rfl
  have backward : (addAgain.foldl step (.initial true)).geofenceBiDict.backwardMap.find? 1 = some 7 := by decide
  have forward : (addAgain.foldl step (.initial true)).geofenceBiDict.forwardMap.find? 7 = some 2 := by decide
  rw [← final.inverse, forward] at backward
  exact absurd backward (by decide)

end Again

end Cypfr.ClientBase
