import Cypfr.Proofs.Geofence

/-! # The two tables of geofences

Identifiers lead to geofences and these lead back, but for the geofences of clients that are gone, which wait to be
removed. What each change of the tables keeps of it.
-/

namespace Cypfr.Geofence

open Tracking ClientBase

variable {Client : Type} [LinearOrder Client]

/-- The tables are inverse to each other, but for geofences of clients that are gone, which are going. -/
structure Tables.Linked (t : Tables Client) (gone : Client → Prop) (going : UInt32 → Prop) : Prop where
  leads : ∀ key hwId, t.ids.find? key = some hwId → ∃ object, t.geofences.find? hwId = some object ∧ object.key = key
  back : ∀ hwId object, t.geofences.find? hwId = some object →
    t.ids.find? object.key = some hwId ∨ gone object.key.client ∧ going hwId
  present : ∀ key hwId, t.ids.find? key = some hwId → ¬ gone key.client

/-- A geofence may be saved: no other has its hardware identifier, and it has no other. -/
structure Tables.Free (t : Tables Client) (key : GeofenceKey Client) (hwId : UInt32) : Prop where
  unknown : ∀ other, t.ids.find? key = some other → other = hwId
  unused : ∀ other, t.ids.find? other = some hwId → other = key

namespace Tables.Linked

variable {t : Tables Client} {gone : Client → Prop} {going : UInt32 → Prop} {hwId : UInt32}

theorem empty : (⟨.empty, .empty⟩ : Tables Client).Linked gone going where
  leads _ _ none := by cases none
  back _ _ none := by cases none
  present _ _ none := by cases none

theorem mono {onward : UInt32 → Prop} (linked : t.Linked gone going) (wait : ∀ hwId, going hwId → onward hwId) :
    t.Linked gone onward where
  leads := linked.leads
  back hwId object found := (linked.back hwId object found).imp_right fun ⟨left, waits⟩ => ⟨left, wait hwId waits⟩
  present := linked.present

/-- A hardware identifier leads to one geofence. -/
theorem key_eq (linked : t.Linked gone going) {key : GeofenceKey Client} {object : GeofenceObject Client}
    (leads : t.ids.find? key = some hwId) (found : t.geofences.find? hwId = some object) : object.key = key := by
  obtain ⟨other, foundOther, same⟩ := linked.leads key hwId leads
  rw [found] at foundOther
  cases foundOther
  exact same

theorem save (linked : t.Linked gone going) {object : GeofenceObject Client} (here : ¬ gone object.key.client)
    (free : t.Free object.key hwId) : ((TableChange.save object hwId).apply t).Linked gone going where
  leads key other found := by
    rw [TableChange.apply, SortedMap.find?_insert] at found
    rw [TableChange.apply, SortedMap.find?_insert]
    split_ifs at found with same
    · cases found
      exact ⟨object, if_pos rfl, same.symm⟩
    · have different : other ≠ hwId := by
        rintro rfl
        exact same (free.unused key found)
      rw [if_neg different]
      exact linked.leads key other found
  back other geofence found := by
    rw [TableChange.apply, SortedMap.find?_insert] at found
    rw [TableChange.apply, SortedMap.find?_insert]
    split_ifs at found with same
    · cases found
      exact .inl ((if_pos rfl).trans (congrArg some same.symm))
    · refine (linked.back other geofence found).imp_left fun leads => ?_
      have different : geofence.key ≠ object.key := fun sameKey => same (free.unknown other (sameKey ▸ leads))
      rwa [if_neg different]
  present key other found := by
    rw [TableChange.apply, SortedMap.find?_insert] at found
    split_ifs at found with same
    · exact same ▸ here
    · exact linked.present key other found

theorem remove (linked : t.Linked gone going) : ((TableChange.remove hwId).apply t).Linked gone going := by
  rw [TableChange.apply]
  split
  · rename_i object found
    split_ifs with known
    · have leads : t.ids.find? object.key = some hwId := by
        obtain ⟨other, leads⟩ := SortedMap.mem_iff_find?.mp (SortedMap.contains_iff.mp known)
        exact (linked.back hwId object found).resolve_right fun left => linked.present _ other leads left.1
      constructor
      · intro key other foundKey
        rw [SortedMap.find?_erase] at foundKey ⊢
        split_ifs at foundKey with same
        have different : other ≠ hwId := by
          rintro rfl
          exact same (linked.key_eq foundKey found).symm
        rw [if_neg different]
        exact linked.leads key other foundKey
      · intro other geofence foundOther
        rw [SortedMap.find?_erase] at foundOther ⊢
        split_ifs at foundOther with same
        refine (linked.back other geofence foundOther).imp_left fun back => ?_
        have different : geofence.key ≠ object.key := by
          intro sameKey
          rw [sameKey, leads] at back
          exact same (Option.some.inj back).symm
        rwa [if_neg different]
      · intro key other foundKey
        rw [SortedMap.find?_erase] at foundKey
        split_ifs at foundKey
        exact linked.present key other foundKey
    · exact linked
  · exact linked

theorem alter (linked : t.Linked gone going) {change : GeofenceObject Client → GeofenceObject Client}
    (keeps : ∀ object, (change object).key = object.key) :
    ((TableChange.alter hwId change).apply t).Linked gone going := by
  rw [TableChange.apply]
  split
  · rename_i object found
    constructor
    · intro key other foundKey
      obtain ⟨geofence, foundOther, same⟩ := linked.leads key other foundKey
      rw [SortedMap.find?_insert]
      split_ifs with sameId
      · refine ⟨_, rfl, (keeps object).trans ?_⟩
        exact linked.key_eq foundKey (sameId ▸ found)
      · exact ⟨geofence, foundOther, same⟩
    · intro other geofence foundOther
      rw [SortedMap.find?_insert] at foundOther
      split_ifs at foundOther with sameId
      · cases foundOther
        rw [keeps, sameId]
        exact linked.back hwId object found
      · exact linked.back other geofence foundOther
    · exact linked.present
  · exact linked

/-- A geofence without identifier may be dropped, and does not wait longer. -/
theorem drop (linked : t.Linked gone going) {onward : UInt32 → Prop} (unknown : ∀ key, t.ids.find? key ≠ some hwId)
    (wait : ∀ other, other ≠ hwId → going other → onward other) :
    ((TableChange.drop hwId).apply t).Linked gone onward where
  leads key other found := by
    have different : other ≠ hwId := by
      rintro rfl
      exact unknown key found
    rw [TableChange.apply, SortedMap.find?_erase, if_neg different]
    exact linked.leads key other found
  back other geofence found := by
    rw [TableChange.apply, SortedMap.find?_erase] at found
    split_ifs at found with same
    exact (linked.back other geofence found).imp_right fun left => ⟨left.1, wait other same left.2⟩
  present := linked.present

/-- Nothing else keeps a geofence waiting that has an identifier or is not there. -/
theorem settle (linked : t.Linked gone going) {onward : UInt32 → Prop}
    (known : ∀ object, t.geofences.find? hwId = some object → t.ids.find? object.key = some hwId)
    (wait : ∀ other, other ≠ hwId → going other → onward other) : t.Linked gone onward where
  leads := linked.leads
  back other object found := by
    by_cases same : other = hwId
    · cases same
      exact .inl (known object found)
    · exact (linked.back other object found).imp_right fun ⟨left, waits⟩ => ⟨left, wait other same waits⟩
  present := linked.present

/-- The geofences of a client that goes stay and wait. -/
theorem depart (linked : t.Linked gone going) {left : Tables Client} {client : Client} {onward : UInt32 → Prop}
    (geofences : left.geofences = t.geofences)
    (ids : ∀ key, left.ids.find? key = if key.client = client then none else t.ids.find? key)
    (wait : ∀ hwId, going hwId → onward hwId)
    (own : ∀ key hwId, t.ids.find? key = some hwId → key.client = client → onward hwId) :
    left.Linked (fun other => other = client ∨ gone other) onward where
  leads key hwId found := by
    rw [ids] at found
    split_ifs at found
    rw [geofences]
    exact linked.leads key hwId found
  back hwId object found := by
    rw [geofences] at found
    rw [ids]
    rcases linked.back hwId object found with leads | ⟨gone, waits⟩
    · split_ifs with same
      · exact .inr ⟨.inl same, own object.key hwId leads same⟩
      · exact .inl leads
    · exact .inr ⟨.inr gone, wait hwId waits⟩
  present key hwId found := by
    rw [ids] at found
    split_ifs at found with same
    exact not_or.mpr ⟨same, linked.present key hwId found⟩

end Tables.Linked

end Cypfr.Geofence
