import Cypfr.Proofs.BiDict
import Cypfr.ToMathlib.Compaction

/-! # What the loops of the geofence calls find

A loop finds the sessions of the identifiers that are known, in their order. A dictionary in which identifiers are
added again is no bijection any more, but every identifier still leads to a session that leads back.
-/

namespace Cypfr.ClientBase

namespace BiDict

variable {T : Type} {d : BiDict T} {id other session session' : UInt32} {ext : T}

/-- The session of an identifier; no session has the number zero. -/
def known? (d : BiDict T) (id : UInt32) : Option UInt32 := if d.getSession id > 0 then some (d.getSession id) else none

theorem known?_eq_of_forward {d' : BiDict T} (same : d'.forwardMap.find? id = d.forwardMap.find? id) :
    d'.known? id = d.known? id := by
  rw [known?, known?, getSession, getSession, same]

/-- Every identifier leads to a session that leads back to it, and no session has the number zero. -/
structure Leads (d : BiDict T) : Prop where
  back : ∀ id session, d.forwardMap.find? id = some session → d.backwardMap.find? session = some id
  sameSessions : ∀ session, session ∈ d.extMap ↔ session ∈ d.backwardMap
  nonzero : ∀ session ∈ d.backwardMap, session > 0

theorem leads_empty : (empty : BiDict T).Leads where
  back _ _ forward := absurd forward (by rintro ⟨⟩)
  sameSessions _ := iff_of_false SortedMap.not_mem_empty SortedMap.not_mem_empty
  nonzero _ member := absurd member SortedMap.not_mem_empty

theorem Leads.mem_of_forward (leads : d.Leads) (forward : d.forwardMap.find? id = some session) :
    session ∈ d.backwardMap :=
  SortedMap.mem_iff_find?.mpr ⟨id, leads.back id session forward⟩

theorem Leads.known? (leads : d.Leads) : d.known? id = d.forwardMap.find? id := by
  rw [BiDict.known?, getSession]
  cases forward : d.forwardMap.find? id with
  | none => rfl
  | some session => exact if_pos (leads.nonzero session (leads.mem_of_forward forward))

/-- A session that was not known, under any identifier. -/
theorem Leads.set_new (leads : d.Leads) (newSession : session ∉ d.backwardMap) (positive : session > 0) :
    (d.set id session ext).Leads where
  back other session' forward := by
    rw [forward_set] at forward
    rw [backward_set]
    split_ifs at forward with sameId
    · rw [if_pos (Option.some.inj forward).symm, sameId]
    · have different : session' ≠ session := by
        rintro rfl
        exact newSession (leads.mem_of_forward forward)
      rw [if_neg different]
      exact leads.back other session' forward
  sameSessions _ := mem_ext_set leads.sameSessions
  nonzero session' member := by
    rcases SortedMap.mem_insert.mp member with rfl | earlier
    · exact positive
    · exact leads.nonzero session' earlier

theorem Leads.set_same (leads : d.Leads) (known : d.forwardMap.find? id = some session) :
    (d.set id session ext).Leads where
  back other session' forward := by
    rw [forward_set_same known] at forward
    rw [backward_set_same (leads.back id session known)]
    exact leads.back other session' forward
  sameSessions _ := mem_ext_set leads.sameSessions
  nonzero session' member := by
    rcases SortedMap.mem_insert.mp member with rfl | earlier
    · exact leads.nonzero session' (leads.mem_of_forward known)
    · exact leads.nonzero session' earlier

theorem Leads.rmBySession (leads : d.Leads) (known : d.forwardMap.find? id = some session) :
    (d.rmBySession session).Leads := by
  have knownBack := leads.back id session known
  rw [rmBySession_of_find? knownBack]
  constructor
  · intro other session' forward
    rw [SortedMap.find?_erase] at forward ⊢
    split_ifs at forward with sameId
    have back := leads.back other session' forward
    have different : session' ≠ session := by
      rintro rfl
      rw [knownBack] at back
      exact sameId (Option.some.inj back).symm
    rw [if_neg different, back]
  · intro session'
    rw [SortedMap.mem_erase, SortedMap.mem_erase, leads.sameSessions]
  · intro session' member
    exact leads.nonzero session' (SortedMap.mem_erase.mp member).2

/-- Nothing is left when no identifier leads anywhere and no session is known. -/
theorem Leads.eq_empty (leads : d.Leads) (noId : ∀ id, d.forwardMap.find? id = none)
    (noSession : ∀ session, session ∉ d.backwardMap) : d = empty := by
  have forward : d.forwardMap = .empty := SortedMap.ext_find? noId
  have backward : d.backwardMap = .empty :=
    SortedMap.ext_find? fun session => SortedMap.find?_eq_none_iff.mpr (noSession session)
  have ext : d.extMap = .empty := SortedMap.ext_find? fun session =>
    SortedMap.find?_eq_none_iff.mpr fun member => noSession session ((leads.sameSessions session).mp member)
  obtain ⟨forwardMap, backwardMap, extMap⟩ := d
  cases forward
  cases backward
  cases ext
  rfl

theorem mem_getAllSessions : session ∈ d.getAllSessions ↔ session ∈ d.backwardMap := by
  simp [getAllSessions, SortedMap.mem_iff]

/-- Different identifiers have different sessions. -/
theorem Leads.nodup_sessions (leads : d.Leads) {ids : List UInt32} (distinct : ids.Nodup) :
    (ids.filterMap d.forwardMap.find?).Nodup := by
  apply List.Nodup.filterMap ?_ distinct
  intro id other session known known'
  have back := leads.back id session known
  rw [leads.back other session known'] at back
  exact (Option.some.inj back).symm

end BiDict

section Rounds

variable {d : BiDict UInt32} {done : List UInt32}

/-- The loops that set masks find the sessions of the identifiers in their order. -/
theorem sessions_maskGeofences (masked : List (UInt32 × UInt32)) : (masked.foldl maskGeofence ⟨done, d⟩).sessions =
    done ++ masked.filterMap fun geofence => d.known? geofence.1 := by
  induction masked generalizing done d with
  | nil => exact (List.append_nil done).symm
  | cons first rest ih =>
    rw [List.foldl_cons, maskGeofence, List.filterMap_cons]
    by_cases positive : d.getSession first.1 > 0
    · have same (id : UInt32) : (d.set first.1 (d.getSession first.1) first.2).known? id = d.known? id :=
        BiDict.known?_eq_of_forward (BiDict.forward_set_same (BiDict.find?_getSession positive))
      have own : d.known? first.1 = some (d.getSession first.1) := if_pos positive
      rw [if_pos positive, ih, own]
      simp only [same, List.append_assoc, List.singleton_append]
    · have unknown : d.known? first.1 = none := if_neg positive
      rw [if_neg positive, ih, unknown]

theorem leads_removeGeofences (leads : d.Leads) (ids : List UInt32) (removed : BiDict UInt32) :
    (ids.foldl removeGeofence (⟨done, d⟩, removed)).1.dict.Leads := by
  apply List.foldlRecOn (motive := fun found : Found × BiDict UInt32 => found.1.dict.Leads) ids removeGeofence
    (show (Found.mk done d).dict.Leads from leads)
  intro found kept id _
  rw [removeGeofence]
  split_ifs with session
  · exact kept.rmBySession (BiDict.find?_getSession session)
  · exact kept

theorem leads_maskGeofences (leads : d.Leads) (masked : List (UInt32 × UInt32)) :
    (masked.foldl maskGeofence ⟨done, d⟩).dict.Leads := by
  apply List.foldlRecOn (motive := fun found : Found => found.dict.Leads) masked maskGeofence
    (show (Found.mk done d).dict.Leads from leads)
  intro found kept geofence _
  rw [maskGeofence]
  split_ifs with session
  · exact kept.set_same (BiDict.find?_getSession session)
  · exact kept

/-- Geofences that are added with new sessions, whatever their identifiers. -/
theorem leads_setGeofences {added : List ((UInt32 × GeofenceOption) × UInt32)} (leads : d.Leads)
    (distinct : (added.map Prod.snd).Nodup)
    (fresh : ∀ session ∈ added.map Prod.snd, session > 0 ∧ session ∉ d.backwardMap) :
    (added.foldl setGeofence d).Leads := by
  induction added generalizing d with
  | nil => exact leads
  | cons first rest ih =>
    obtain ⟨notRest, distinct⟩ := List.nodup_cons.mp distinct
    obtain ⟨positive, newSession⟩ := fresh first.2 List.mem_cons_self
    apply ih (leads.set_new newSession positive) distinct
    intro session member
    obtain ⟨positive, newSession⟩ := fresh session (List.mem_cons_of_mem _ member)
    rw [BiDict.set, SortedMap.mem_insert, not_or]
    exact ⟨positive, fun same => notRest (same ▸ member), newSession⟩

/-- What the removal of distinct identifiers finds, and what it leaves. -/
theorem removeGeofences_found {ids : List UInt32} (leads : d.Leads) (distinct : ids.Nodup) (removed : BiDict UInt32) :
    let found := (ids.foldl removeGeofence (⟨done, d⟩, removed)).1
    found.sessions = done ++ ids.filterMap d.forwardMap.find? ∧
      (∀ id, found.dict.forwardMap.find? id = if id ∈ ids then none else d.forwardMap.find? id) ∧
      ∀ session, session ∈ found.dict.backwardMap ↔
        session ∈ d.backwardMap ∧ session ∉ ids.filterMap d.forwardMap.find? := by
  induction ids generalizing done d removed with
  | nil => exact ⟨(List.append_nil done).symm, fun _ => rfl, fun _ => (and_iff_left List.not_mem_nil).symm⟩
  | cons first rest ih =>
    obtain ⟨notRest, distinct⟩ := List.nodup_cons.mp distinct
    rw [List.foldl_cons, removeGeofence, List.filterMap_cons]
    have session : d.known? first = d.forwardMap.find? first := leads.known?
    cases forward : d.forwardMap.find? first with
    | none =>
      have none : ¬ d.getSession first > 0 := by
        rw [BiDict.getSession, forward]
        exact lt_irrefl 0
      rw [if_neg none]
      obtain ⟨sessions, forwards, backwards⟩ := ih leads distinct removed
      refine ⟨sessions, fun id => ?_, backwards⟩
      rw [forwards]
      rcases eq_or_ne id first with rfl | different
      · rw [if_neg notRest, if_pos List.mem_cons_self, forward]
      · simp only [List.mem_cons, different, false_or]
    | some own =>
      have same : d.getSession first = own := by rw [BiDict.getSession, forward, Option.getD_some]
      have back := leads.back first own forward
      rw [same, if_pos (leads.nonzero own (leads.mem_of_forward forward))]
      have later : rest.filterMap (d.rmBySession own).forwardMap.find? = rest.filterMap d.forwardMap.find? := by
        apply List.filterMap_congr
        intro id member
        rw [BiDict.rmBySession_of_find? back]
        exact SortedMap.find?_erase_of_ne fun same => notRest (same ▸ member)
      obtain ⟨sessions, forwards, backwards⟩ := @ih _ (done ++ [own]) (leads.rmBySession forward) distinct
        (removed.set first own (d.getExtBySession own))
      rw [later] at sessions backwards
      refine ⟨by rw [sessions, List.append_assoc]; rfl, fun id => ?_, fun session => ?_⟩
      · rw [forwards, BiDict.rmBySession_of_find? back, SortedMap.find?_erase]
        rcases eq_or_ne id first with rfl | different
        · rw [if_pos rfl, ite_self, if_pos List.mem_cons_self]
        · simp only [List.mem_cons, different, if_false, false_or]
      · rw [backwards, BiDict.rmBySession_of_find? back, SortedMap.mem_erase, List.mem_cons, not_or]
        tauto

end Rounds

end Cypfr.ClientBase
