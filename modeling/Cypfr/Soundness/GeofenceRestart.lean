import Mathlib.Data.List.Perm.Basic
import Cypfr.Proofs.GeofenceModem

/-! # Geofences over restarts of the modem

A restart adds all geofences again and pauses on the modem those that were paused, but saves none of them as paused.
After one restart the tables therefore say that no geofence is paused, and after two the modem has none that is.
-/

namespace Cypfr.Geofence

open Machine Tracking ClientBase

/-- The object of a geofence that is not paused. -/
def GeofenceObject.unpaused {Client : Type} (object : GeofenceObject Client) : GeofenceObject Client :=
  { object with paused := false }

theorem GeofenceObject.unpaused_of_running {Client : Type} {object : GeofenceObject Client}
    (running : object.paused = false) : object.unpaused = object := by
  rw [unpaused, ← running]

/-- The geofence of a key. -/
def Tables.view {Client : Type} [LinearOrder Client] (t : Tables Client) (key : GeofenceKey Client) :
    Option (GeofenceObject Client) := (t.ids.find? key).bind t.geofences.find?

/-- The key that a request adds again. -/
def readds {Client : Type} : GeofenceRequest × GeofenceResponse Client → Option (GeofenceKey Client)
  | (_, .readded object) => some object.key
  | _ => none

namespace GeofenceSession

variable {Client : Type} [LinearOrder Client]

/-- The map from client and identifier to what a geofence is. -/
def view (s : GeofenceSession Client) (key : GeofenceKey Client) : Option (GeofenceObject Client) :=
  s.adapter.tables.view key

/-- Whether the geofence of a key is paused on the modem. -/
def modemPaused (s : GeofenceSession Client) (key : GeofenceKey Client) : Option Bool :=
  (s.adapter.mGeofenceIds.find? key).bind s.modem.find?

/-- Restarts of the modem, with the requests of each answered with success before the next. -/
inductive Restarts (s : GeofenceSession Client) : ℕ → GeofenceSession Client → Prop
  | none : Restarts s 0 s
  | again {n : ℕ} {s' : GeofenceSession Client} (answers : List (ℕ × UInt32)) : Restarts s n s' →
      EachStep step GivesUnused (s'.step .restartGeofences)
        (answers.map fun answer => .answer answer.1 .success answer.2) →
      ((answers.map fun answer => .answer answer.1 .success answer.2).foldl step
        (s'.step .restartGeofences)).outstanding = [] →
      Restarts s (n + 1)
        ((answers.map fun answer => .answer answer.1 .success answer.2).foldl step (s'.step .restartGeofences))

/-- A geofence is paused on the modem like it was, or will be. -/
def Pauses (s : GeofenceSession Client) (original : GeofenceObject Client) (hwId : UInt32) : Prop :=
  s.modem.find? hwId = some original.paused ∨ s.modem.find? hwId = some false ∧ original.paused = true ∧
    (.pauseGeofence hwId original.key.id, .ignore) ∈ s.outstanding

/-- What the requests after a restart are for. -/
def Restores (old : GeofenceKey Client → Option (GeofenceObject Client)) (s : GeofenceSession Client)
    (sent : GeofenceRequest) : GeofenceResponse Client → Prop
  | .readded original => (∃ id options info, sent = .addGeofence id options info) ∧
      old original.key = some original ∧ s.adapter.mGeofenceIds.find? original.key = .none
  | .ignore => ∃ hwId id original, sent = .pauseGeofence hwId id ∧ original.paused = true ∧
      old original.key = some original ∧ s.adapter.mGeofences.find? hwId = some original.unpaused
  | _ => False

/-- The geofences of before a restart are there again or asked for. -/
structure Restoring (old : GeofenceKey Client → Option (GeofenceObject Client)) (s : GeofenceSession Client) : Prop where
  inverse : s.adapter.tables.Inverse
  same : ∀ hwId, hwId ∈ s.modem ↔ hwId ∈ s.adapter.mGeofences
  restored : ∀ hwId object, s.adapter.mGeofences.find? hwId = some object →
    ∃ original, old object.key = some original ∧ object = original.unpaused ∧ s.Pauses original hwId
  asked : ∀ sent response, (sent, response) ∈ s.outstanding → Restores old s sent response
  once : (s.outstanding.filterMap readds).Nodup
  all : ∀ key original, old key = some original → original.key = key ∧
    ((∃ sent, (sent, .readded original) ∈ s.outstanding) ∨ ∃ hwId, s.adapter.mGeofenceIds.find? key = some hwId)

variable {s : GeofenceSession Client} {old : GeofenceKey Client → Option (GeofenceObject Client)}

/-- A geofence that is added again is saved. -/
theorem restoring_save (restoring : Restoring old s) {rest : List (GeofenceRequest × GeofenceResponse Client)}
    {sent : GeofenceRequest} {original : GeofenceObject Client}
    (perm : ((sent, .readded original) :: rest).Perm s.outstanding) {hwId : UInt32} (unused : hwId ∉ s.modem)
    {s' : GeofenceSession Client} (modem : s'.modem = s.modem.insert hwId false)
    (tables : s'.adapter.tables = (TableChange.save original.unpaused hwId).apply s.adapter.tables)
    (outstanding : s'.outstanding = rest ++
      if original.paused then [(.pauseGeofence hwId original.key.id, .ignore)] else []) : Restoring old s' := by
  obtain ⟨-, isOld, unknown⟩ := restoring.asked _ _ (perm.subset List.mem_cons_self)
  have among {waiting : GeofenceRequest × GeofenceResponse Client} (member : waiting ∈ s.outstanding)
      (other : waiting.2 ≠ .readded original) : waiting ∈ s'.outstanding := by
    rw [outstanding]
    refine List.mem_append_left _ ((List.mem_cons.mp (perm.symm.subset member)).resolve_left ?_)
    rintro rfl
    exact other rfl
  have notThere : s.adapter.tables.geofences.find? hwId = .none := by
    rw [SortedMap.find?_eq_none_iff]
    exact fun there => unused ((restoring.same hwId).mpr there)
  have inserted : s'.adapter.mGeofences = s.adapter.mGeofences.insert hwId original.unpaused :=
    congrArg Tables.geofences tables
  have indexed : s'.adapter.mGeofenceIds = s.adapter.mGeofenceIds.insert original.key hwId :=
    congrArg Tables.ids tables
  have geofences (other : UInt32) : s'.adapter.mGeofences.find? other =
      if other = hwId then some original.unpaused else s.adapter.mGeofences.find? other := by
    rw [inserted]
    exact SortedMap.find?_insert
  have ids (key : GeofenceKey Client) : s'.adapter.mGeofenceIds.find? key =
      if key = original.key then some hwId else s.adapter.mGeofenceIds.find? key := by
    rw [indexed, SortedMap.find?_insert]
    split_ifs <;> rfl
  have once : (original.key :: rest.filterMap readds).Nodup := (perm.filterMap readds).nodup_iff.mpr restoring.once
  constructor
  · rw [tables]
    exact Tables.Linked.save restoring.inverse not_false (restoring.inverse.free unknown notThere)
  · intro other
    rw [modem, SortedMap.mem_insert, restoring.same, inserted]
    exact SortedMap.mem_insert.symm
  · intro other object found
    rw [geofences] at found
    split_ifs at found with sameId
    · cases found
      refine ⟨original, isOld, rfl, ?_⟩
      rw [Pauses, modem, SortedMap.find?_insert, if_pos sameId, outstanding, sameId]
      cases paused : original.paused with
      | false => exact .inl rfl
      | true => exact .inr ⟨rfl, rfl, List.mem_append_right _ List.mem_cons_self⟩
    · obtain ⟨before, wasOld, rfl, pauses⟩ := restoring.restored other object found
      refine ⟨before, wasOld, rfl, ?_⟩
      rw [Pauses, modem, SortedMap.find?_insert, if_neg sameId]
      exact pauses.imp_right fun ⟨running, paused, waits⟩ => ⟨running, paused, among waits (by rintro ⟨⟩)⟩
  · intro sent' response member
    rw [outstanding] at member
    rcases List.mem_append.mp member with left | asked
    · have before := restoring.asked sent' response (perm.subset (List.mem_cons_of_mem _ left))
      cases response with
      | readded object =>
        refine ⟨before.1, before.2.1, ?_⟩
        rw [ids, if_neg, before.2.2]
        intro sameKey
        refine (List.nodup_cons.mp once).1 (List.mem_filterMap.mpr ⟨_, left, ?_⟩)
        exact congrArg some sameKey
      | ignore =>
        obtain ⟨other, id, object, isPause, paused, wasOld, found⟩ := before
        refine ⟨other, id, object, isPause, paused, wasOld, ?_⟩
        rw [geofences, if_neg, found]
        rintro rfl
        exact absurd (found.symm.trans notThere) (by rintro ⟨⟩)
      | _ => exact before
    · split_ifs at asked with paused
      · cases List.mem_singleton.mp asked
        exact ⟨hwId, _, original, rfl, paused, isOld, (geofences hwId).trans (if_pos rfl)⟩
      · cases asked
  · rw [outstanding, List.filterMap_append]
    have none : (if original.paused then [(GeofenceRequest.pauseGeofence hwId original.key.id,
        (GeofenceResponse.ignore : GeofenceResponse Client))] else []).filterMap readds = [] := by
      split_ifs <;> rfl
    rw [none, List.append_nil]
    exact (List.nodup_cons.mp once).2
  · intro key object wasOld
    obtain ⟨own, asked | ⟨other, known⟩⟩ := restoring.all key object wasOld
    · refine ⟨own, ?_⟩
      rcases eq_or_ne key original.key with sameKey | otherKey
      · exact .inr ⟨hwId, (ids key).trans (if_pos sameKey)⟩
      · refine .inl (asked.imp fun sent' member => among member ?_)
        intro same
        cases same
        exact otherKey own.symm
    · refine ⟨own, .inr ?_⟩
      rw [ids]
      split_ifs
      · exact ⟨hwId, rfl⟩
      · exact ⟨other, known⟩

/-- A geofence that was paused is paused on the modem. -/
theorem restoring_pause (restoring : Restoring old s) {rest : List (GeofenceRequest × GeofenceResponse Client)}
    {sent : GeofenceRequest} (perm : ((sent, .ignore) :: rest).Perm s.outstanding) (hwId : UInt32)
    {s' : GeofenceSession Client} (modem : s'.modem = sent.perform .success hwId s.modem)
    (tables : s'.adapter.tables = s.adapter.tables) (outstanding : s'.outstanding = rest) : Restoring old s' := by
  obtain ⟨pausedId, id, original, rfl, paused, isOld, there⟩ := restoring.asked _ _ (perm.subset List.mem_cons_self)
  have geofences : s'.adapter.mGeofences = s.adapter.mGeofences := congrArg Tables.geofences tables
  have ids : s'.adapter.mGeofenceIds = s.adapter.mGeofenceIds := congrArg Tables.ids tables
  have among {waiting : GeofenceRequest × GeofenceResponse Client} (member : waiting ∈ s'.outstanding) :
      waiting ∈ s.outstanding := perm.subset (List.mem_cons_of_mem _ (outstanding ▸ member))
  have known : s.modem.contains pausedId = true := by
    rw [SortedMap.contains_iff, restoring.same]
    exact SortedMap.mem_iff_find?.mpr ⟨_, there⟩
  have modem : s'.modem = s.modem.insert pausedId true := modem.trans (if_pos known)
  constructor
  · rw [tables]
    exact restoring.inverse
  · intro other
    rw [modem, SortedMap.mem_insert, geofences, ← restoring.same]
    exact or_iff_right_of_imp fun same => same ▸ SortedMap.contains_iff.mp known
  · intro other object found
    rw [geofences] at found
    obtain ⟨before, wasOld, rfl, pauses⟩ := restoring.restored other object found
    refine ⟨before, wasOld, rfl, ?_⟩
    rw [Pauses, modem, SortedMap.find?_insert]
    split_ifs with same
    · rw [same, there] at found
      have equal := Option.some.inj found
      have sameKey : original.unpaused.key = before.unpaused.key := congrArg _ equal
      have wasOld : old before.key = some before := wasOld
      rw [show before.key = original.key from sameKey.symm, isOld] at wasOld
      cases wasOld
      exact .inl (congrArg some paused.symm)
    · refine pauses.imp_right fun ⟨running, wasPaused, waits⟩ => ⟨running, wasPaused, ?_⟩
      rw [outstanding]
      refine (List.mem_cons.mp (perm.symm.subset waits)).resolve_left fun equal => same ?_
      cases equal
      rfl
  · intro sent' response member
    have before := restoring.asked sent' response (among member)
    cases response with
    | readded =>
      rw [Restores] at before ⊢
      rwa [ids]
    | ignore =>
      simp only [Restores, geofences] at before ⊢
      exact before
    | _ => exact before
  · rw [outstanding]
    exact (perm.filterMap readds).nodup_iff.mpr restoring.once
  · intro key object wasOld
    obtain ⟨own, asked | known⟩ := restoring.all key object wasOld
    · refine ⟨own, .inl (asked.imp fun sent' member => ?_)⟩
      rw [outstanding]
      refine (List.mem_cons.mp (perm.symm.subset member)).resolve_left ?_
      rintro ⟨⟩
    · rw [ids]
      exact ⟨own, .inr known⟩

/-- An answer with success after a restart. -/
theorem restoring_answer (restoring : Restoring old s) (index : ℕ) (hwId : UInt32)
    (unused : s.GivesUnused (.answer index .success hwId)) : Restoring old (s.step (.answer index .success hwId)) := by
  rw [step]
  cases place : s.outstanding[index]? with
  | none => exact restoring
  | some waiting =>
    obtain ⟨sent, response⟩ := waiting
    obtain ⟨inside, here⟩ := List.getElem?_eq_some_iff.mp place
    have perm : ((sent, response) :: s.outstanding.eraseIdx index).Perm s.outstanding :=
      here ▸ List.getElem_cons_eraseIdx_perm inside
    have purpose := restoring.asked sent response (List.mem_of_getElem? place)
    have tables := tables_proc (a := s.adapter) response .success hwId
    rw [if_pos rfl] at tables
    cases response with
    | readded original =>
      obtain ⟨⟨id, options, info, rfl⟩, -⟩ := purpose
      rw [GivesUnused, place] at unused
      refine restoring_save restoring perm (unused rfl) rfl tables ?_
      rw [outstanding_after, asked_proc, GeofenceResponse.asks]
      simp only [true_and]
    | ignore => exact restoring_pause restoring perm hwId rfl tables (List.append_nil _)
    | _ => exact purpose.elim

theorem view_eq_some_iff {key : GeofenceKey Client} {object : GeofenceObject Client} : s.view key = some object ↔
    ∃ hwId, s.adapter.mGeofenceIds.find? key = some hwId ∧ s.adapter.mGeofences.find? hwId = some object :=
  Option.bind_eq_some_iff

/-- The geofence of a hardware identifier is that of its key. -/
theorem view_key (inverse : s.adapter.tables.Inverse) {hwId : UInt32} {object : GeofenceObject Client}
    (found : s.adapter.mGeofences.find? hwId = some object) : s.view object.key = some object :=
  view_eq_some_iff.mpr ⟨hwId, inverse.back found, found⟩

/-- A restart leaves nothing in the tables. -/
theorem cleared_restartGeofences (inverse : s.adapter.tables.Inverse) :
    (∀ hwId, (s.step .restartGeofences).adapter.tables.geofences.find? hwId = .none) ∧
      ∀ key, (s.step .restartGeofences).adapter.tables.ids.find? key = .none := by
  have tables : (s.step .restartGeofences).adapter.tables = _ := tables_restartGeofences (a := s.adapter)
  rw [tables]
  split_ifs with none
  · have noGeofence (hwId : UInt32) : s.adapter.tables.geofences.find? hwId = .none :=
      SortedMap.find?_eq_none_iff.mpr (SortedMap.isEmpty_iff.mp none hwId)
    refine ⟨noGeofence, fun key => Option.eq_none_iff_forall_ne_some.mpr fun hwId found => ?_⟩
    obtain ⟨object, there, -⟩ := Tables.Linked.leads inverse key hwId found
    rw [noGeofence] at there
    cases there
  · exact ⟨fun _ => rfl, fun _ => rfl⟩

/-- A restart with nothing outstanding asks for all geofences. -/
theorem restoring_restartGeofences (inverse : s.adapter.tables.Inverse) (quiet : s.outstanding = []) :
    Restoring s.view (s.step .restartGeofences) := by
  obtain ⟨noGeofence, noId⟩ := cleared_restartGeofences inverse
  have asks : (s.step .restartGeofences).outstanding = _ :=
    (congrArg (· ++ _) quiet).trans (asked_restartGeofences (a := s.adapter))
  constructor
  · refine ⟨fun key hwId found => ?_, fun hwId object found => ?_, fun _ _ _ => not_false⟩
    · rw [noId] at found
      cases found
    · rw [noGeofence] at found
      cases found
  · intro hwId
    refine iff_of_false SortedMap.not_mem_empty ?_
    exact SortedMap.find?_eq_none_iff.mp (noGeofence hwId)
  · intro hwId object found
    exact absurd ((noGeofence hwId).symm.trans found) (by rintro ⟨⟩)
  · intro sent response member
    rw [asks] at member
    obtain ⟨⟨hwId, object⟩, entry, same⟩ := List.mem_map.mp member
    cases same
    exact ⟨⟨_, _, _, rfl⟩, view_key inverse (SortedMap.find?_eq_some_iff.mpr entry), noId _⟩
  · have keys : (s.step .restartGeofences).outstanding.filterMap readds =
        s.adapter.mGeofences.entries.map fun entry => entry.2.key := by
      rw [asks]
      exact List.filterMap_map.trans (congrFun List.filterMap_eq_map _)
    rw [keys]
    refine List.Nodup.map_on ?_ (List.Nodup.of_map _ SortedMap.nodup_keys)
    intro first isFirst second isSecond sameKey
    have one := inverse.back (SortedMap.find?_eq_some_iff.mpr isFirst)
    have two := inverse.back (SortedMap.find?_eq_some_iff.mpr isSecond)
    rw [sameKey, two] at one
    exact List.inj_on_of_nodup_map SortedMap.nodup_keys isFirst isSecond (Option.some.inj one).symm
  · intro key object isOld
    obtain ⟨hwId, leads, found⟩ := view_eq_some_iff.mp isOld
    refine ⟨Tables.Linked.key_eq inverse leads found, .inl ?_⟩
    rw [asks]
    exact ⟨_, List.mem_map.mpr ⟨(hwId, object), SortedMap.find?_eq_some_iff.mp found, rfl⟩⟩

/-- What restarts leave: no geofence paused in the tables, and on the modem those that the tables had paused. -/
theorem restoring_quiet (restoring : Restoring old s) (quiet : s.outstanding = []) (key : GeofenceKey Client) :
    s.view key = (old key).map GeofenceObject.unpaused ∧ s.modemPaused key = (old key).map GeofenceObject.paused := by
  cases isOld : old key with
  | none =>
    have unknown : s.adapter.mGeofenceIds.find? key = .none := by
      refine Option.eq_none_iff_forall_ne_some.mpr fun hwId found => ?_
      obtain ⟨object, there, sameKey⟩ := Tables.Linked.leads restoring.inverse key hwId found
      obtain ⟨original, wasOld, -⟩ := restoring.restored hwId object there
      rw [sameKey, isOld] at wasOld
      cases wasOld
    refine ⟨Option.bind_eq_none_iff.mpr fun hwId found => ?_, Option.bind_eq_none_iff.mpr fun hwId found => ?_⟩ <;>
      exact absurd (unknown.symm.trans found) (by rintro ⟨⟩)
  | some original =>
    obtain ⟨rfl, asked | ⟨hwId, leads⟩⟩ := restoring.all key original isOld
    · obtain ⟨sent, member⟩ := asked
      rw [quiet] at member
      cases member
    · obtain ⟨object, there, sameKey⟩ := Tables.Linked.leads restoring.inverse _ hwId leads
      obtain ⟨before, wasOld, rfl, pauses⟩ := restoring.restored hwId object there
      rw [sameKey, isOld] at wasOld
      cases wasOld
      refine ⟨view_eq_some_iff.mpr ⟨hwId, leads, there⟩, ?_⟩
      rw [modemPaused, leads]
      refine pauses.resolve_right fun ⟨_, _, waits⟩ => ?_
      rw [quiet] at waits
      cases waits

/-- After a restart whose requests all succeed. -/
theorem restoring_restarted (inverse : s.adapter.tables.Inverse) (quiet : s.outstanding = [])
    (answers : List (ℕ × UInt32))
    (unused : EachStep step GivesUnused (s.step .restartGeofences)
      (answers.map fun answer => .answer answer.1 .success answer.2)) :
    Restoring s.view ((answers.map fun answer => .answer answer.1 .success answer.2).foldl step
      (s.step .restartGeofences)) := by
  refine throughout_of_eachStep (C := fun s e => (∃ index hwId, e = .answer index .success hwId) ∧ s.GivesUnused e)
    (restoring_restartGeofences inverse quiet) ?_ (fun done e reached => ⟨?_, unused done e reached⟩) _ List.prefix_rfl
  · rintro s _ restoring ⟨⟨index, hwId, rfl⟩, unused⟩
    exact restoring_answer restoring index hwId unused
  · obtain ⟨answer, -, rfl⟩ := List.mem_map.mp (reached.subset (List.mem_append_right done List.mem_cons_self))
    exact ⟨_, _, rfl⟩

/-- After any restarts no geofence is paused in the tables, and on the modem at most those that were in the tables. -/
theorem view_restarts (inverse : s.adapter.tables.Inverse) (quiet : s.outstanding = []) {n : ℕ}
    {s' : GeofenceSession Client} (restarts : Restarts s n s') :
    s'.adapter.tables.Inverse ∧ s'.outstanding = [] ∧ (n = 0 ∧ s' = s ∨ n ≠ 0 ∧
      ∀ key, s'.view key = (s.view key).map GeofenceObject.unpaused ∧
        (s'.modemPaused key = some true → ∃ object, s.view key = some object ∧ object.paused = true)) := by
  induction restarts with
  | none => exact ⟨inverse, quiet, .inl ⟨rfl, rfl⟩⟩
  | again answers _ unused quietAfter ih =>
    obtain ⟨inverseBefore, quietBefore, before⟩ := ih
    have restoring := restoring_restarted inverseBefore quietBefore answers unused
    refine ⟨restoring.inverse, quietAfter, .inr ⟨Nat.succ_ne_zero _, fun key => ?_⟩⟩
    obtain ⟨view, modem⟩ := restoring_quiet restoring quietAfter key
    rw [view, modem]
    rcases before with ⟨-, rfl⟩ | ⟨-, before⟩
    · exact ⟨rfl, fun paused => Option.map_eq_some_iff.mp paused⟩
    · rw [(before key).1, Option.map_map, Option.map_map]
      refine ⟨rfl, fun paused => ?_⟩
      obtain ⟨object, -, isPaused⟩ := Option.map_eq_some_iff.mp paused
      cases isPaused

/-- The geofences of a session are what they were, and paused on the modem where they were. -/
def Same (s s' : GeofenceSession Client) : Prop :=
  (∀ key, s'.view key = s.view key) ∧ ∀ key, s'.modemPaused key = some true ↔ s.modemPaused key = some true

/-- After any history of commands that are all answered, restarts of the modem change nothing exactly when there are
none or no geofence is paused. -/
theorem same_restarts_iff (collectiveResponseCb : Client → Bool) (history : List (GeofenceEvent Client)) (n : ℕ)
    (s' : GeofenceSession Client) :
    (∀ e ∈ history, e.IsCommand) →
    EachStep step (fun s e => s.GivesUnused e ∧ s.AddsUnknown e) (initial collectiveResponseCb) history →
    (history.foldl step (initial collectiveResponseCb)).outstanding = [] →
    Restarts (history.foldl step (initial collectiveResponseCb)) n s' →
      (Same (history.foldl step (initial collectiveResponseCb)) s' ↔ n = 0 ∨ ∀ key object,
        (history.foldl step (initial collectiveResponseCb)).view key = some object → object.paused = false) := by
  intro commands each quiet restarts
  have mirrored : (history.foldl step (initial collectiveResponseCb)).Mirrored := by
    refine throughout_of_eachStep (C := fun s e => e.IsCommand ∧ s.GivesUnused e ∧ s.AddsUnknown e)
      (mirrored_initial collectiveResponseCb) (fun s e mirrored ⟨command, unused, unknown⟩ =>
        mirrored_step mirrored e command unused unknown) (fun done e reached => ⟨?_, each done e reached⟩) _
          List.prefix_rfl
    exact commands e (reached.subset (List.mem_append_right done List.mem_cons_self))
  generalize history.foldl step (initial collectiveResponseCb) = s at quiet restarts mirrored ⊢
  rcases (view_restarts mirrored.inverse quiet restarts).2.2 with ⟨rfl, rfl⟩ | ⟨again, after⟩
  · exact iff_of_true ⟨fun _ => rfl, fun _ => Iff.rfl⟩ (.inl rfl)
  · constructor
    · intro same
      refine .inr fun key object isOld => ?_
      have now := (after key).1
      rw [same.1, isOld] at now
      exact congrArg GeofenceObject.paused (Option.some.inj now)
    · intro running
      have running := running.resolve_left again
      refine ⟨fun key => ?_, fun key => iff_of_false ?_ ?_⟩
      · rw [(after key).1]
        cases isOld : s.view key with
        | none => rfl
        | some object =>
          exact congrArg some (GeofenceObject.unpaused_of_running (running key object isOld))
      · intro paused
        obtain ⟨object, isOld, isPaused⟩ := (after key).2 paused
        exact absurd ((running key object isOld).symm.trans isPaused) Bool.false_ne_true
      · intro paused
        obtain ⟨hwId, leads, onModem⟩ := Option.bind_eq_some_iff.mp paused
        rw [mirrored.mirrors] at onModem
        obtain ⟨object, found, isPaused⟩ := Option.map_eq_some_iff.mp onModem
        have isOld : s.view key = some object := view_eq_some_iff.mpr ⟨hwId, leads, found⟩
        exact absurd ((running key object isOld).symm.trans isPaused) Bool.false_ne_true

section Paused

/-- A geofence is added and paused, -/
def addAndPause : List (GeofenceEvent ℕ) :=
  [.addGeofences 0 [(1, ⟨16, 3, 0, 0⟩, ⟨0, 0, 0⟩)], .answer 0 .success 0, .answer 0 .success 7,
    .pauseGeofences 0 [1], .answer 0 .success 0, .answer 0 .success 0]

/-- and the modem restarts. -/
def pausedRestarted : GeofenceSession ℕ :=
  (([(0, 8), (0, 0)].map fun answer => .answer answer.1 .success answer.2).foldl step
    ((addAndPause.foldl step (initial fun _ => true)).step .restartGeofences))

theorem eachStep_addAndPause :
    EachStep step (fun s e => s.GivesUnused e ∧ s.AddsUnknown e) (initial fun _ => true) addAndPause := by
  refine eachStep_cons ⟨trivial, trivial⟩ (eachStep_cons ⟨trivial, ?_⟩ (eachStep_cons ⟨fun _ => ?_, ?_⟩
    (eachStep_cons ⟨trivial, trivial⟩ (eachStep_cons ⟨trivial, ?_⟩ (eachStep_cons ⟨trivial, ?_⟩ eachStep_nil)))))
  · rintro _ _ _ _ _ ⟨⟩
  · exact SortedMap.not_mem_empty
  · rintro _ _ _ _ _ ⟨⟩ -
    rfl
  · rintro _ _ _ _ _ ⟨⟩
  · rintro _ _ _ _ _ ⟨⟩

theorem restarts_addAndPause : Restarts (addAndPause.foldl step (initial fun _ => true)) 1 pausedRestarted := by
  refine .again [(0, 8), (0, 0)] .none (eachStep_cons (fun _ => ?_) (eachStep_cons trivial eachStep_nil)) rfl
  exact SortedMap.not_mem_empty

theorem commands_addAndPause : ∀ e ∈ addAndPause, e.IsCommand := by
  simp [addAndPause, GeofenceEvent.IsCommand]

theorem same_restarts_iff_addAndPause : Same (addAndPause.foldl step (initial fun _ => true)) pausedRestarted ↔
    1 = 0 ∨ ∀ key object, (addAndPause.foldl step (initial fun _ => true)).view key = some object →
      object.paused = false :=
  same_restarts_iff _ addAndPause 1 pausedRestarted commands_addAndPause eachStep_addAndPause rfl restarts_addAndPause

/-- A geofence that was paused is not after a restart. -/
theorem restart_forgets_pause : ¬ ∀ (history : List (GeofenceEvent ℕ)) (n : ℕ) (s' : GeofenceSession ℕ),
    (∀ e ∈ history, e.IsCommand) →
    EachStep step (fun s e => s.GivesUnused e ∧ s.AddsUnknown e) (initial fun _ => true) history →
    (history.foldl step (initial fun _ => true)).outstanding = [] →
    Restarts (history.foldl step (initial fun _ => true)) n s' →
      Same (history.foldl step (initial fun _ => true)) s' := by
  intro always
  have same := always addAndPause 1 pausedRestarted commands_addAndPause eachStep_addAndPause rfl restarts_addAndPause
  have before : (addAndPause.foldl step (initial fun _ => true)).view ⟨0, 1⟩ =
      some ⟨⟨0, 1⟩, 3, 0, 0, 0, 0, 0, true⟩ := rfl
  have after : pausedRestarted.view ⟨0, 1⟩ = some ⟨⟨0, 1⟩, 3, 0, 0, 0, 0, 0, false⟩ := rfl
  rw [same.1, before] at after
  exact absurd (congrArg (Option.map GeofenceObject.paused) after) (by decide)

end Paused

end GeofenceSession

end Cypfr.Geofence
