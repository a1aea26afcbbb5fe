import Cypfr.Machine.Run
import Cypfr.Proofs.GeofenceTables

/-! # Geofence tables over a run

Whenever nothing is outstanding the two tables are inverse to each other and know only clients that are not gone, as
long as no geofence is saved for a client that is gone or under an identifier in use, and the removals for clients
that are gone come through before their hardware identifiers are given away.
-/

namespace Cypfr.Geofence.GeofenceSession

open Machine Tracking ClientBase

section Waiting

variable {Client : Type} {outstanding : List (GeofenceRequest × GeofenceResponse Client)} {hwId : UInt32}

/-- A removal for a client that is gone is among the requests. -/
def Going (outstanding : List (GeofenceRequest × GeofenceResponse Client)) (hwId : UInt32) : Prop :=
  ∃ sent, (sent, .clientRemoved hwId) ∈ outstanding

theorem going_append (added : List (GeofenceRequest × GeofenceResponse Client)) (going : Going outstanding hwId) :
    Going (outstanding ++ added) hwId :=
  going.imp fun _ => List.mem_append_left added

/-- What is not answered goes on waiting. -/
theorem going_eraseIdx {index : ℕ} {sent : GeofenceRequest} {response : GeofenceResponse Client}
    (place : outstanding[index]? = some (sent, response)) (other : response ≠ .clientRemoved hwId)
    (going : Going outstanding hwId) : Going (outstanding.eraseIdx index) hwId := by
  obtain ⟨request, member⟩ := going
  obtain ⟨i, found⟩ := List.mem_iff_getElem?.mp member
  refine ⟨request, List.mem_eraseIdx_iff_getElem?.mpr ⟨i, ?_, found⟩⟩
  rintro rfl
  rw [place] at found
  cases found
  exact other rfl

end Waiting

section Runs

variable {Client : Type} [LinearOrder Client] {s : GeofenceSession Client}

/-- With nothing outstanding the tables are inverse, and know no client that is gone. -/
def Consistent (s : GeofenceSession Client) : Prop :=
  s.outstanding = [] →
    (∀ key hwId, s.adapter.mGeofenceIds.find? key = some hwId ↔
      ∃ object, s.adapter.mGeofences.find? hwId = some object ∧ object.key = key) ∧
    (∀ key ∈ s.adapter.mGeofenceIds, key.client ∉ s.removed) ∧
    ∀ hwId object, s.adapter.mGeofences.find? hwId = some object → object.key.client ∉ s.removed

/-- A geofence may be saved for a client under a hardware identifier. -/
def MaySave (s : GeofenceSession Client) (key : GeofenceKey Client) (hwId : UInt32) : Prop :=
  key.client ∉ s.removed ∧ s.adapter.tables.Free key hwId

/-- The condition on an answer, with the requests that are left: a geofence is saved only if it may be; a removal for
a client that is gone succeeds while no geofence has its hardware identifier, and fails only if there is another
or nothing left to remove. -/
def MayAnswer (s : GeofenceSession Client) (rest : List (GeofenceRequest × GeofenceResponse Client))
    (err : LocationError) (hwId : UInt32) : GeofenceResponse Client → Prop
  | .added item id _ _ => err = .success → s.MaySave ⟨item.client, id⟩ hwId
  | .readded object => err = .success → s.MaySave object.key hwId
  | .clientRemoved hwId =>
    if err = .success then ∀ key, s.adapter.mGeofenceIds.find? key ≠ some hwId
    else Going rest hwId ∨ ∀ object, s.adapter.mGeofences.find? hwId = some object →
      s.adapter.mGeofenceIds.find? object.key = some hwId
  | _ => True

/-- The condition on a step. -/
def MayStep (s : GeofenceSession Client) : GeofenceEvent Client → Prop
  | .answer index err hwId =>
    ∀ sent response, s.outstanding[index]? = some (sent, response) →
      s.MayAnswer (s.outstanding.eraseIdx index) err hwId response
  | _ => True

/-- The tables are linked, but for the removals that are outstanding. -/
def Linked (s : GeofenceSession Client) : Prop :=
  s.adapter.tables.Linked (· ∈ s.removed) (Going s.outstanding)

theorem consistent_of_linked (linked : s.Linked) : s.Consistent := by
  intro quiet
  have back (hwId : UInt32) (object : GeofenceObject Client) (found : s.adapter.mGeofences.find? hwId = some object) :
      s.adapter.mGeofenceIds.find? object.key = some hwId := by
    refine (linked.back hwId object found).resolve_right fun ⟨_, sent, member⟩ => ?_
    rw [quiet] at member
    cases member
  refine ⟨fun key hwId => ⟨linked.leads key hwId, ?_⟩, ?_, fun hwId object found => ?_⟩
  · rintro ⟨object, found, rfl⟩
    exact back hwId object found
  · intro key known
    obtain ⟨hwId, found⟩ := SortedMap.mem_iff_find?.mp known
    exact linked.present key hwId found
  · exact linked.present object.key hwId (back hwId object found)

/-- A program that leaves the tables keeps them linked. -/
theorem linked_after (linked : s.Linked) {p : AdapterM Client Unit}
    (same : (p.next s.adapter).tables = s.adapter.tables) :
    (s.after p).Linked := by
  have now := linked.mono fun hwId => going_append (asked p s.adapter)
  rwa [← same] at now

theorem linked_removeClient (linked : s.Linked) (client : Client) : (s.step (.removeClient client)).Linked := by
  have left : ((removeClient client).next s.adapter).tables.Linked _ _ :=
    linked.depart (geofences_removeClient client) (ids_removeClient client)
      (fun hwId => going_append (asked (removeClient client) s.adapter)) ?_
  · exact ⟨left.leads, fun hwId object found =>
      (left.back hwId object found).imp_right (And.imp_left (List.mem_cons.mpr)),
      fun key hwId found member => left.present key hwId found (List.mem_cons.mp member)⟩
  · intro key hwId found own
    refine ⟨.removeGeofence hwId key.id, List.mem_append_right _ ?_⟩
    rw [asked_removeClient]
    exact List.mem_map.mpr ⟨(key, hwId), List.mem_filter.mpr
      ⟨SortedMap.find?_eq_some_iff.mp found, decide_eq_true own⟩, rfl⟩

theorem linked_restartGeofences (linked : s.Linked) : (s.step .restartGeofences).Linked := by
  have tables := tables_restartGeofences (a := s.adapter)
  by_cases none : s.adapter.mGeofences.isEmpty
  · rw [if_pos none] at tables
    exact linked_after (s := { s with modem := .empty }) linked tables
  · rw [if_neg none] at tables
    show Tables.Linked (restartGeofences.next s.adapter).tables _ _
    rw [tables]
    exact .empty

/-- An answer that meets the condition keeps the tables linked. -/
theorem linked_change (linked : s.Linked) {index : ℕ} {sent : GeofenceRequest} {response : GeofenceResponse Client}
    {err : LocationError} {hwId : UInt32} (place : s.outstanding[index]? = some (sent, response))
    (may : s.MayAnswer (s.outstanding.eraseIdx index) err hwId response) :
    (if err = .success then (response.change hwId).apply s.adapter.tables else s.adapter.tables).Linked
      (· ∈ s.removed) (Going (s.outstanding.eraseIdx index)) := by
  by_cases removal : ∃ departed, response = .clientRemoved departed
  · obtain ⟨departed, rfl⟩ := removal
    have wait (other : UInt32) (different : other ≠ departed) : Going s.outstanding other →
        Going (s.outstanding.eraseIdx index) other :=
      going_eraseIdx place fun same => different (GeofenceResponse.clientRemoved.inj same).symm
    rw [MayAnswer] at may
    split_ifs at may ⊢
    · exact linked.drop may wait
    · rcases may with going | known
      · refine linked.mono fun other waits => ?_
        rcases eq_or_ne other departed with rfl | different
        · exact going
        · exact wait other different waits
      · exact linked.settle known wait
  · have still : s.adapter.tables.Linked (· ∈ s.removed) (Going (s.outstanding.eraseIdx index)) :=
      linked.mono fun other => going_eraseIdx place fun same => removal ⟨other, same⟩
    split_ifs with success
    · cases response with
      | added item id options info => exact still.save (may success).1 (may success).2
      | readded object => exact still.save (may success).1 (may success).2
      | removed item hwId => exact still.remove
      | paused | resumed | modified => exact still.alter fun object => rfl
      | clientRemoved hwId => exact absurd ⟨hwId, rfl⟩ removal
      | add | remove | pause | resume | modify | ignore => exact still
    · exact still

theorem linked_step (linked : s.Linked) (e : GeofenceEvent Client) (may : s.MayStep e) : (s.step e).Linked := by
  cases e with
  | addGeofences | removeGeofences | pauseGeofences | resumeGeofences | modifyGeofences =>
    exact linked_after linked (tables_forEachItem ..)
  | removeClient client => exact linked_removeClient linked client
  | restartGeofences => exact linked_restartGeofences linked
  | answer index err hwId =>
    rw [step]
    cases place : s.outstanding[index]? with
    | none => exact linked
    | some waiting =>
      have now := linked_change linked place (may _ _ place)
      rw [← tables_proc] at now
      exact now.mono fun hwId => going_append _

/-- In every run whose steps meet the condition the tables are consistent throughout. -/
theorem consistent_throughout_of_mayStep (collectiveResponseCb : Client → Bool) (events : List (GeofenceEvent Client)) :
    EachStep step MayStep (initial collectiveResponseCb) events →
      Throughout step Consistent (initial collectiveResponseCb) events := by
  intro each done reached
  have linked : Throughout step Linked (initial collectiveResponseCb) events :=
    throughout_of_eachStep .empty (fun s e linked may => linked_step linked e may) each
  exact consistent_of_linked (linked done reached)

end Runs

section Departed

/-- A client adds a geofence, which the modem takes, and goes. -/
def addAndGo : List (GeofenceEvent ℕ) :=
  [.addGeofences 0 [(1, ⟨16, 3, 0, 0⟩, ⟨0, 0, 0⟩)], .answer 0 .success 0, .answer 0 .success 7, .removeClient 0]

theorem givesUnused_addAndGo (err : LocationError) :
    EachStep step GivesUnused (initial fun _ => true) (addAndGo ++ [.answer 0 err 0]) := by
  refine eachStep_append_singleton.mpr ⟨?_, trivial⟩
  refine eachStep_cons trivial
    (eachStep_cons trivial (eachStep_cons (fun _ => ?_) (eachStep_cons trivial eachStep_nil)))
  exact SortedMap.not_mem_empty

theorem mayStep_addAndGo : EachStep step MayStep (initial fun _ => true) (addAndGo ++ [.answer 0 .success 0]) := by
  refine eachStep_append_singleton.mpr ⟨eachStep_cons trivial (eachStep_cons ?_ (eachStep_cons ?_
    (eachStep_cons trivial eachStep_nil))), ?_⟩
  · rintro sent response ⟨⟩
    trivial
  · rintro sent response ⟨⟩ -
    refine ⟨List.not_mem_nil, ⟨fun other found => ?_, fun other found => ?_⟩⟩ <;> cases found
  · rintro sent response ⟨⟩ key found
    have gone : ((SortedMap.empty.insert (⟨0, 1⟩ : GeofenceKey ℕ) (7 : UInt32)).erase ⟨0, 1⟩).find? key = some 7 :=
      found
    rw [SortedMap.find?_erase, SortedMap.find?_insert] at gone
    split_ifs at gone
    cases gone

theorem consistent_throughout_of_mayStep_addAndGo :
    Throughout step Consistent (initial fun _ => true) (addAndGo ++ [.answer 0 .success 0]) :=
  consistent_throughout_of_mayStep _ _ mayStep_addAndGo

/-- A geofence whose removal fails after its client went stays in one of the tables. -/
theorem departed_geofence_stays : ¬ ∀ events : List (GeofenceEvent ℕ),
    EachStep step GivesUnused (initial fun _ => true) events →
      Throughout step Consistent (initial fun _ => true) events := by
  intro always
  have final := always _ (givesUnused_addAndGo .generalFailure) _ List.prefix_rfl
  have left := (final rfl).2.2 7 ⟨⟨0, 1⟩, 3, 0, 0, 0, 0, 0, false⟩ rfl
  exact left List.mem_cons_self

end Departed

end Cypfr.Geofence.GeofenceSession
