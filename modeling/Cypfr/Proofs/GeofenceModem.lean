import Cypfr.Machine.Run
import Cypfr.Proofs.GeofenceTables

/-! # The geofences of the modem beside the tables

As long as clients only give commands, the modem has exactly the geofences of the tables, each paused or not as the
tables say, because each request is paired with the response that does the same to the tables.
-/

namespace Cypfr.Geofence

open Machine Tracking ClientBase

/-- The request of a response to a command. -/
def Paired {Client : Type} (sent : GeofenceRequest) : GeofenceResponse Client → Prop
  | .add .. | .remove .. | .pause .. | .resume .. | .modify .. => sent = .callQueue
  | .added _ id options info => sent = .addGeofence id options info
  | .removed _ hwId => ∃ id, sent = .removeGeofence hwId id
  | .paused _ hwId => ∃ id, sent = .pauseGeofence hwId id
  | .resumed _ hwId => ∃ id, sent = .resumeGeofence hwId id
  | .modified _ hwId options => ∃ id, sent = .modifyGeofence hwId id options
  | .clientRemoved _ | .readded _ | .ignore => False

/-- A command or an answer, no client that goes and no restart. -/
def GeofenceEvent.IsCommand {Client : Type} : GeofenceEvent Client → Prop
  | .removeClient _ | .restartGeofences => False
  | _ => True

section Tables

variable {Client : Type} [LinearOrder Client] {t : Tables Client} {hwId other : UInt32}

/-- The tables are inverse to each other. -/
def Tables.Inverse (t : Tables Client) : Prop := t.Linked (fun _ => False) fun _ => False

theorem Tables.Inverse.back (inverse : t.Inverse) {object : GeofenceObject Client}
    (found : t.geofences.find? hwId = some object) : t.ids.find? object.key = some hwId :=
  (Linked.back inverse hwId object found).resolve_right And.left

/-- A geofence that is not known may be saved under a hardware identifier that is not in use. -/
theorem Tables.Inverse.free (inverse : t.Inverse) {key : GeofenceKey Client} (unknown : t.ids.find? key = none)
    (unused : t.geofences.find? hwId = none) : t.Free key hwId where
  unknown other found := by
    rw [unknown] at found
    cases found
  unused other found := by
    obtain ⟨object, there, -⟩ := Linked.leads inverse other hwId found
    rw [unused] at there
    cases there

theorem find?_save (object : GeofenceObject Client) : ((TableChange.save object hwId).apply t).geofences.find? other =
    if other = hwId then some object else t.geofences.find? other := SortedMap.find?_insert

/-- A geofence that is removed has an identifier. -/
theorem find?_remove (inverse : t.Inverse) : ((TableChange.remove hwId).apply t).geofences.find? other =
    if other = hwId then none else t.geofences.find? other := by
  rw [TableChange.apply]
  cases found : t.geofences.find? hwId with
  | none =>
    split_ifs with same
    · rw [same]
      exact found
    · rfl
  | some object =>
    have known : t.ids.contains object.key = true := by
      rw [SortedMap.contains_iff]
      exact SortedMap.mem_iff_find?.mpr ⟨hwId, inverse.back found⟩
    simp only [if_pos known]
    exact SortedMap.find?_erase

theorem find?_alter (change : GeofenceObject Client → GeofenceObject Client) :
    ((TableChange.alter hwId change).apply t).geofences.find? other =
      if other = hwId then (t.geofences.find? hwId).map change else t.geofences.find? other := by
  rw [TableChange.apply]
  cases found : t.geofences.find? hwId with
  | none =>
    split_ifs with same
    · rw [same]
      exact found
    · rfl
  | some object => exact SortedMap.find?_insert

end Tables

namespace GeofenceSession

variable {Client : Type} [LinearOrder Client] {s : GeofenceSession Client}

theorem outstanding_after (p : AdapterM Client Unit) : (s.after p).outstanding = s.outstanding ++ asked p s.adapter :=
    rfl

/-- A geofence that the adapter adds is not known yet. -/
def AddsUnknown (s : GeofenceSession Client) : GeofenceEvent Client → Prop
  | .answer index err _ =>
    ∀ sent item id options info, s.outstanding[index]? = some (sent, .added item id options info) → err = .success →
      s.adapter.mGeofenceIds.find? ⟨item.client, id⟩ = none
  | _ => True

/-- Each geofence of the modem is paused exactly when its object says so. -/
def Mirrors (modem : SortedMap UInt32 Bool) (t : Tables Client) : Prop :=
  ∀ hwId, modem.find? hwId = (t.geofences.find? hwId).map GeofenceObject.paused

/-- What holds while clients only give commands. -/
structure Mirrored (s : GeofenceSession Client) : Prop where
  inverse : s.adapter.tables.Inverse
  mirrors : Mirrors s.modem s.adapter.tables
  paired : ∀ sent response, (sent, response) ∈ s.outstanding → Paired sent response

theorem mirrored_initial (collectiveResponseCb : Client → Bool) : (initial collectiveResponseCb).Mirrored where
  inverse := .empty
  mirrors _ := rfl
  paired _ _ member := absurd member List.not_mem_nil

/-- A command queues calls. -/
theorem mirrored_forEachItem (mirrored : s.Mirrored) {α : Type} (client : Client) (ids : List UInt32)
    (elements : List α) (response : Item Client → α → GeofenceResponse Client)
    (calls : ∀ item element, Paired .callQueue (response item element)) :
    (s.after (forEachItem client ids elements response)).Mirrored := by
  have tables := tables_forEachItem (a := s.adapter) client ids elements response
  refine ⟨?_, ?_, fun sent made member => ?_⟩
  · rw [after, tables]
    exact mirrored.inverse
  · rw [after, tables]
    exact mirrored.mirrors
  · rw [outstanding_after, asked_forEachItem] at member
    rcases List.mem_append.mp member with before | queued
    · exact mirrored.paired sent made before
    · obtain ⟨element, -, same⟩ := List.mem_map.mp queued
      cases same
      exact calls ..

/-- What a response to a command asks is paired with its response. -/
theorem paired_asks {sent : GeofenceRequest} {response : GeofenceResponse Client} {a : GeofenceAdapter Client}
    {err : LocationError} {hwId : UInt32} (paired : Paired sent response) {sent' : GeofenceRequest}
    {response' : GeofenceResponse Client} (member : (sent', response') ∈ response.asks a err hwId) :
    Paired sent' response' := by
  cases response with
  | add item id options info =>
    cases List.mem_singleton.mp member
    rfl
  | remove | pause | resume | modify =>
    obtain ⟨_, -, same⟩ := Option.map_eq_some_iff.mp (Option.mem_toList.mp member)
    cases same
    first
      | exact ⟨_, rfl⟩
  | added | removed | paused | resumed | modified => cases member
  | clientRemoved | readded | ignore => exact paired.elim

/-- The modem and the tables change together. -/
theorem mirrors_change {sent : GeofenceRequest} {response : GeofenceResponse Client} (paired : Paired sent response)
    (inverse : s.adapter.tables.Inverse) (mirrors : Mirrors s.modem s.adapter.tables) (hwId : UInt32) :
    Mirrors (sent.perform .success hwId s.modem) ((response.change hwId).apply s.adapter.tables) := by
  intro other
  cases response with
  | add | remove | pause | resume | modify =>
    cases paired
    exact mirrors other
  | added item id options info =>
    cases paired
    rw [GeofenceResponse.change, find?_save]
    refine SortedMap.find?_insert.trans ?_
    split_ifs
    · rfl
    · exact mirrors other
  | removed item hwId =>
    obtain ⟨id, rfl⟩ := paired
    rw [GeofenceResponse.change, find?_remove inverse]
    refine SortedMap.find?_erase.trans ?_
    split_ifs
    · rfl
    · exact mirrors other
  | paused item hwId | resumed item hwId =>
    obtain ⟨id, rfl⟩ := paired
    rw [GeofenceResponse.change, find?_alter]
    refine SortedMap.find?_insert_of_contains.trans ?_
    split_ifs
    · rw [mirrors hwId, Option.map_map, Option.map_map]
      rfl
    · exact mirrors other
  | modified item hwId options =>
    obtain ⟨id, rfl⟩ := paired
    rw [GeofenceResponse.change, find?_alter]
    refine (mirrors other).trans ?_
    split_ifs with same
    · rw [same, Option.map_map]
      rfl
    · rfl
  | clientRemoved | readded | ignore => exact paired.elim

/-- An answer changes the modem as its request says, an error nothing. -/
theorem perform_error {sent : GeofenceRequest} {err : LocationError} (error : err ≠ .success) (hwId : UInt32)
    (modem : SortedMap UInt32 Bool) : sent.perform err hwId modem = modem := if_neg error

theorem inverse_change {response : GeofenceResponse Client} {hwId : UInt32} {t : Tables Client} (inverse : t.Inverse)
    (free : ∀ item id options info, response = .added item id options info → t.Free ⟨item.client, id⟩ hwId)
    (command : ∀ object, response ≠ .readded object) (stays : ∀ hwId, response ≠ .clientRemoved hwId) :
    ((response.change hwId).apply t).Inverse := by
  cases response with
  | add | remove | pause | resume | modify | ignore => exact inverse
  | added item id options info => exact inverse.save not_false (free item id options info rfl)
  | removed => exact inverse.remove
  | paused | resumed | modified => exact inverse.alter fun object => rfl
  | clientRemoved hwId => exact absurd rfl (stays hwId)
  | readded object => exact absurd rfl (command object)

/-- An answer to a command. -/
theorem mirrored_answer (mirrored : s.Mirrored) (index : ℕ) (err : LocationError) (hwId : UInt32)
    (unused : s.GivesUnused (.answer index err hwId)) (unknown : s.AddsUnknown (.answer index err hwId)) :
    (s.step (.answer index err hwId)).Mirrored := by
  rw [step]
  cases place : s.outstanding[index]? with
  | none => exact mirrored
  | some waiting =>
    obtain ⟨sent, response⟩ := waiting
    have paired := mirrored.paired sent response (List.mem_of_getElem? place)
    have tables := tables_proc (a := s.adapter) response err hwId
    have free : err = .success → ∀ item id options info, response = .added item id options info →
        s.adapter.tables.Free ⟨item.client, id⟩ hwId := by
      rintro success item id options info rfl
      cases paired
      rw [GivesUnused, place] at unused
      refine mirrored.inverse.free (unknown _ item id options info place success) ?_
      have none := SortedMap.find?_eq_none_iff.mpr (unused success)
      rwa [mirrored.mirrors hwId, Option.map_eq_none_iff] at none
    dsimp only
    refine ⟨?_, ?_, fun sent' response' member => ?_⟩
    · rw [after, tables]
      split_ifs with success
      · refine inverse_change mirrored.inverse (free success) ?_ ?_ <;> rintro _ rfl <;> exact paired
      · exact mirrored.inverse
    · rw [after, tables]
      split_ifs with success
      · cases success
        exact mirrors_change paired mirrored.inverse mirrored.mirrors hwId
      · exact (congrArg (Mirrors · s.adapter.tables) (perform_error success hwId s.modem)).mpr mirrored.mirrors
    · rw [outstanding_after, asked_proc] at member
      rcases List.mem_append.mp member with before | asked
      · exact mirrored.paired sent' response' (List.mem_of_mem_eraseIdx before)
      · exact paired_asks paired asked

theorem mirrored_step (mirrored : s.Mirrored) (e : GeofenceEvent Client) (command : e.IsCommand)
    (unused : s.GivesUnused e) (unknown : s.AddsUnknown e) : (s.step e).Mirrored := by
  cases e with
  | addGeofences | removeGeofences | pauseGeofences | resumeGeofences | modifyGeofences =>
    exact mirrored_forEachItem mirrored _ _ _ _ fun _ _ => rfl
  | removeClient | restartGeofences => exact command.elim
  | answer index err hwId => exact mirrored_answer mirrored index err hwId unused unknown

end GeofenceSession

end Cypfr.Geofence
