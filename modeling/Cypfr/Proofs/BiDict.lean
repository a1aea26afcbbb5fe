import Cypfr.Model.BiDict
import Mathlib.Data.List.Induction

/-! # Dictionaries that describe a bijection

What keeps the three maps of a dictionary together: a new pair, the same pair again, or the removal of a session
that is present. Any other pair leaves an old session behind.
-/

namespace Cypfr.ClientBase

namespace BiDict

variable {T : Type} {d : BiDict T} {id other session session' : UInt32} {ext : T}

/-- The forward and the backward map are inverse to each other, and the sessions are those with more known. -/
structure Bijection (d : BiDict T) : Prop where
  inverse : ∀ id session, d.forwardMap.find? id = some session ↔ d.backwardMap.find? session = some id
  sameSessions : ∀ session, session ∈ d.extMap ↔ session ∈ d.backwardMap

theorem bijection_empty : (empty : BiDict T).Bijection :=
  ⟨fun _ _ => iff_of_false (by rintro ⟨⟩) (by rintro ⟨⟩), fun _ =>
    iff_of_false SortedMap.not_mem_empty SortedMap.not_mem_empty⟩

theorem forward_set : (d.set id session ext).forwardMap.find? other =
    if other = id then some session else d.forwardMap.find? other := SortedMap.find?_insert

theorem backward_set : (d.set id session ext).backwardMap.find? session' =
    if session' = session then some id else d.backwardMap.find? session' := SortedMap.find?_insert

theorem mem_ext_set (sameSessions : ∀ session, session ∈ d.extMap ↔ session ∈ d.backwardMap) :
    session' ∈ (d.set id session ext).extMap ↔ session' ∈ (d.set id session ext).backwardMap := by
  rw [set, SortedMap.mem_insert, SortedMap.mem_insert, sameSessions]

/-- A pair of which neither is known. -/
theorem Bijection.set_new (bijection : d.Bijection) (newId : id ∉ d.forwardMap) (newSession : session ∉ d.backwardMap) :
    (d.set id session ext).Bijection := by
  rw [← SortedMap.find?_eq_none_iff] at newId newSession
  refine ⟨fun other session' => ?_, fun _ => mem_ext_set bijection.sameSessions⟩
  rw [forward_set, backward_set]
  split_ifs with sameId sameSession sameSession
  · exact iff_of_true (congrArg some sameSession.symm) (congrArg some sameId.symm)
  · rw [← bijection.inverse, sameId, newId]
    exact iff_of_false (fun same => sameSession (Option.some.inj same).symm) (by rintro ⟨⟩)
  · rw [bijection.inverse, sameSession, newSession]
    exact iff_of_false (by rintro ⟨⟩) fun same => sameId (Option.some.inj same).symm
  · exact bijection.inverse other session'

/-- The pair of an identifier that has its session leaves the sessions of all identifiers. -/
theorem forward_set_same (known : d.forwardMap.find? id = some session) :
    (d.set id session ext).forwardMap.find? other = d.forwardMap.find? other := by
  rw [forward_set]
  split_ifs with same
  · rw [same, known]
  · rfl

/-- The pair of a session that has its identifier leaves the identifiers of all sessions. -/
theorem backward_set_same (known : d.backwardMap.find? session = some id) :
    (d.set id session ext).backwardMap.find? session' = d.backwardMap.find? session' := by
  rw [backward_set]
  split_ifs with same
  · rw [same, known]
  · rfl

/-- A pair that is known. -/
theorem Bijection.set_same (bijection : d.Bijection) (known : d.forwardMap.find? id = some session) :
    (d.set id session ext).Bijection := by
  have back := (bijection.inverse id session).mp known
  refine ⟨fun other session' => ?_, fun _ => mem_ext_set bijection.sameSessions⟩
  rw [forward_set_same known, backward_set_same back]
  exact bijection.inverse other session'

theorem rmBySession_of_find? (known : d.backwardMap.find? session = some id) : d.rmBySession session =
    { forwardMap := d.forwardMap.erase id, backwardMap := d.backwardMap.erase session,
      extMap := d.extMap.erase session } := by
  rw [rmBySession, subscript, known]

/-- A session that is present is removed from all three maps. -/
theorem Bijection.rmBySession (bijection : d.Bijection) (known : d.backwardMap.find? session = some id) :
    (d.rmBySession session).Bijection := by
  have forth := (bijection.inverse id session).mpr known
  rw [rmBySession_of_find? known]
  constructor
  · intro other session'
    rw [SortedMap.find?_erase, SortedMap.find?_erase]
    split_ifs with sameId sameSession sameSession
    · exact iff_of_false (by rintro ⟨⟩) (by rintro ⟨⟩)
    · refine iff_of_false (by rintro ⟨⟩) fun back => sameSession ?_
      rw [← bijection.inverse, sameId, forth] at back
      exact (Option.some.inj back).symm
    · refine iff_of_false (fun forth' => sameId ?_) (by rintro ⟨⟩)
      rw [bijection.inverse, sameSession, known] at forth'
      exact (Option.some.inj forth').symm
    · exact bijection.inverse other session'
  · intro session'
    rw [SortedMap.mem_erase, SortedMap.mem_erase, bijection.sameSessions]

/-- A session that is found is the one of its identifier. -/
theorem find?_getSession (found : d.getSession id > 0) : d.forwardMap.find? id = some (d.getSession id) := by
  rw [getSession] at found ⊢
  cases known : d.forwardMap.find? id with
  | some session => rfl
  | none =>
    rw [known] at found
    exact absurd found (lt_irrefl 0)

end BiDict

section Rounds

variable {d : BiDict UInt32}

theorem bijection_removeGeofences (bijection : d.Bijection) (ids : List UInt32) :
    (ids.foldl removeGeofence (⟨[], d⟩, .empty)).1.dict.Bijection := by
  refine List.foldlRecOn (motive := fun found : Found × BiDict UInt32 => found.1.dict.Bijection) ids removeGeofence
    (show (Found.mk [] d).dict.Bijection from bijection) fun found kept id _ => ?_
  rw [removeGeofence]
  split_ifs with session
  · exact kept.rmBySession ((kept.inverse id _).mp (BiDict.find?_getSession session))
  · exact kept

theorem bijection_maskGeofences (bijection : d.Bijection) (masked : List (UInt32 × UInt32)) :
    (masked.foldl maskGeofence ⟨[], d⟩).dict.Bijection := by
  refine List.foldlRecOn (motive := fun found : Found => found.dict.Bijection) masked maskGeofence
    (show (Found.mk [] d).dict.Bijection from bijection) fun found kept masked _ => ?_
  rw [maskGeofence]
  split_ifs with session
  · exact kept.set_same (BiDict.find?_getSession session)
  · exact kept

theorem resumeGeofences_dict (ids : List UInt32) : (ids.foldl resumeGeofence ⟨[], d⟩).dict = d := by
  refine List.foldlRecOn (motive := fun found : Found => found.dict = d) ids resumeGeofence rfl fun found kept id _ =>
    ?_
  rw [resumeGeofence]
  split_ifs
  · exact kept
  · exact kept

end Rounds

section Add

variable {T : Type} {d : BiDict UInt32} {added : List ((UInt32 × GeofenceOption) × UInt32)} {id session : UInt32}

variable (id session) in
/-- The sessions that are set last as they were before, and those that are set with their identifiers. -/
theorem backward_setGeofences (distinct : (added.map Prod.snd).Nodup) :
    (added.foldl setGeofence d).backwardMap.find? session = some id ↔
      (∃ options, ((id, options), session) ∈ added) ∨
        session ∉ added.map Prod.snd ∧ d.backwardMap.find? session = some id := by
  induction added generalizing d with
  | nil => simp
  | cons first rest ih =>
    obtain ⟨fresh, distinct⟩ := List.nodup_cons.mp distinct
    rw [List.foldl_cons, ih distinct, setGeofence, BiDict.backward_set]
    obtain ⟨⟨firstId, firstOptions⟩, firstSession⟩ := first
    simp only [List.mem_cons, Prod.mk.injEq, List.map_cons, not_or]
    rcases eq_or_ne session firstSession with rfl | different
    · have notRest (options : GeofenceOption) : ((id, options), session) ∉ rest :=
        fun member => fresh (List.mem_map.mpr ⟨_, member, rfl⟩)
      have notRest' : session ∉ rest.map Prod.snd := fresh
      simp only [if_true, Option.some.injEq, notRest, exists_false, false_or, notRest', not_false_eq_true, true_and,
        not_true_eq_false, false_and, or_false, and_true]
      exact ⟨fun same => ⟨firstOptions, same.symm, rfl⟩, fun ⟨_, same, _⟩ => same.symm⟩
    · rw [if_neg different]
      simp only [different, and_false, false_or, not_false_eq_true, true_and]

/-- An identifier that is set gets one of the new sessions, another keeps its own. -/
theorem forward_setGeofences (added : List ((UInt32 × GeofenceOption) × UInt32)) (d : BiDict UInt32) :
    (∀ id ∈ added.map fun geofence => geofence.1.1, ∃ options session, ((id, options), session) ∈ added ∧
      (added.foldl setGeofence d).forwardMap.find? id = some session) ∧
    ∀ id ∉ added.map fun geofence => geofence.1.1,
      (added.foldl setGeofence d).forwardMap.find? id = d.forwardMap.find? id := by
  induction added using List.reverseRecOn with
  | nil => exact ⟨fun id member => absurd member List.not_mem_nil, fun _ _ => rfl⟩
  | append_singleton done last ih =>
    obtain ⟨⟨lastId, lastOptions⟩, lastSession⟩ := last
    simp only [List.foldl_append, List.foldl_cons, List.foldl_nil, setGeofence, BiDict.forward_set, List.map_append,
      List.map_cons, List.map_nil, List.mem_append, List.mem_singleton]
    constructor
    · intro id member
      rcases eq_or_ne id lastId with rfl | different
      · exact ⟨lastOptions, lastSession, .inr rfl, if_pos rfl⟩
      · obtain ⟨options, session, among, found⟩ := ih.1 id (member.resolve_right different)
        exact ⟨options, session, .inl among, (if_neg different).trans found⟩
    · intro id none
      obtain ⟨notDone, different⟩ := not_or.mp none
      exact (if_neg different).trans (ih.2 id notDone)

/-- New sessions keep a bijection exactly when their identifiers are new and distinct. -/
theorem bijection_setGeofences_iff (bijection : d.Bijection) (distinct : (added.map Prod.snd).Nodup)
    (fresh : ∀ session ∈ added.map Prod.snd, session ∉ d.backwardMap) :
    (added.foldl setGeofence d).Bijection ↔ (added.map fun geofence => geofence.1.1).Nodup ∧
      ∀ id ∈ added.map fun geofence => geofence.1.1, id ∉ d.forwardMap := by
  constructor
  · intro final
    have back {id session : UInt32} := backward_setGeofences (d := d) id session distinct
    constructor
    · rw [List.nodup_map_iff_inj_on (List.Nodup.of_map _ distinct)]
      intro first firstIn second secondIn same
      refine List.inj_on_of_nodup_map distinct firstIn secondIn ?_
      have one := (final.inverse first.1.1 first.2).mpr (back.mpr (.inl ⟨first.1.2, firstIn⟩))
      have two := (final.inverse second.1.1 second.2).mpr (back.mpr (.inl ⟨second.1.2, secondIn⟩))
      rw [same, two] at one
      exact (Option.some.inj one).symm
    · intro id member known
      obtain ⟨old, known⟩ := SortedMap.mem_iff_find?.mp known
      have oldBack := (bijection.inverse id old).mp known
      have notAdded : old ∉ added.map Prod.snd := fun new => fresh old new (SortedMap.mem_iff_find?.mpr ⟨id, oldBack⟩)
      obtain ⟨options, session, among, found⟩ := (forward_setGeofences added d).1 id member
      rw [(final.inverse id old).mpr (back.mpr (.inr ⟨notAdded, oldBack⟩))] at found
      cases found
      exact notAdded (List.mem_map_of_mem among)
  · rintro ⟨distinctIds, newIds⟩
    induction added generalizing d with
    | nil => exact bijection
    | cons first rest ih =>
      obtain ⟨notRest, distinct⟩ := List.nodup_cons.mp distinct
      obtain ⟨notRestId, distinctIds⟩ := List.nodup_cons.mp distinctIds
      have now : (setGeofence d first).Bijection :=
        bijection.set_new (newIds _ List.mem_cons_self) (fresh _ List.mem_cons_self)
      refine ih now distinct (fun session member => ?_) distinctIds fun id member => ?_
      · rw [setGeofence, BiDict.set, SortedMap.mem_insert, not_or]
        exact ⟨fun same => notRest (same ▸ member), fresh session (List.mem_cons_of_mem _ member)⟩
      · rw [setGeofence, BiDict.set, SortedMap.mem_insert, not_or]
        exact ⟨fun same => notRestId (by rwa [same] at member), newIds id (List.mem_cons_of_mem _ member)⟩

end Add

end Cypfr.ClientBase
