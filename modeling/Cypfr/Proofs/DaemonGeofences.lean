import Cypfr.Model.LocationApiService
import Cypfr.ToMathlib.MapFold

/-! # Geofence requests and answers of one client of the daemon

What a request and an answer do to the map of the client, by what it maps to what.
-/

namespace Cypfr.HalDaemon

open Tracking Geofence ClientBase LocationApiService LocHalDaemonClientHandler

section Maps

variable {order : IterationOrder} {m : IdsMap} {clientIds : List UInt32} {clientId sessionId : UInt32}

theorem snd_sessionIdOf : (sessionIdOf m clientId).2 = (m.lookup clientId).getD 0 := by
  rw [sessionIdOf]
  split
  · next found => rw [found, Option.getD_some]
  · next absent => rw [absent, Option.getD_none]

/-- The lookup of the identifier of a client inserts it. -/
theorem lookup_fst_sessionIdOf {other : UInt32} :
    (sessionIdOf m clientId).1.lookup other =
      if other = clientId ∧ m.lookup other = none then some 0 else m.lookup other := by
  rw [sessionIdOf]
  split
  · next found =>
    rw [if_neg]
    rintro ⟨rfl, absent⟩
    exact absurd (found.symm.trans absent) (Option.some_ne_none _)
  · next absent =>
    by_cases same : other = clientId
    · subst same
      rw [if_pos ⟨rfl, absent⟩, AList.lookup_insert]
    · rw [if_neg fun both => same both.1, AList.lookup_insert_ne same]

theorem getD_lookup_fst_sessionIdOf {other : UInt32} :
    ((sessionIdOf m clientId).1.lookup other).getD 0 = (m.lookup other).getD 0 := by
  rw [lookup_fst_sessionIdOf]
  split
  · next inserted => rw [inserted.2, Option.getD_some, Option.getD_none]
  · rfl

theorem snd_sessionIdsOf : (sessionIdsOf m clientIds).2 = clientIds.map fun clientId => (m.lookup clientId).getD 0 := by
  induction clientIds generalizing m with
  | nil => rfl
  | cons first rest ih =>
    rw [sessionIdsOf, ih, snd_sessionIdOf]
    exact congrArg (_ :: ·) (List.map_congr_left fun _ _ => getD_lookup_fst_sessionIdOf)

theorem lookup_fst_sessionIdsOf :
    (sessionIdsOf m clientIds).1.lookup clientId =
      if clientId ∈ clientIds ∧ m.lookup clientId = none then some 0 else m.lookup clientId := by
  induction clientIds generalizing m with
  | nil => exact (if_neg fun both => List.not_mem_nil both.1).symm
  | cons first rest ih =>
    rw [sessionIdsOf, ih, lookup_fst_sessionIdOf]
    by_cases absent : m.lookup clientId = none
    · by_cases same : clientId = first
      · rw [if_pos (c := clientId = first ∧ _) ⟨same, absent⟩, if_neg fun both => Option.some_ne_none _ both.2,
          if_pos ⟨same ▸ List.mem_cons_self, absent⟩]
      · rw [if_neg (c := clientId = first ∧ _) fun both => same both.1]
        exact if_congr (and_congr_left' ⟨List.mem_cons_of_mem _, List.mem_of_ne_of_mem same⟩) rfl rfl
    · rw [if_neg (c := clientId = first ∧ _) fun both => absent both.2, if_neg fun both => absent both.2,
        if_neg fun both => absent both.2]

theorem mem_entries_iff : (⟨clientId, sessionId⟩ : Σ _ : UInt32, UInt32) ∈ order.entries m ↔
    m.lookup clientId = some sessionId :=
  (order.perm m).mem_iff.trans AList.mem_lookup_iff.symm

variable (order m sessionId) in
/-- The client identifier for a session is mapped to it, unless nothing is. -/
theorem lookup_clientIdOf :
    m.lookup (clientIdOf order m sessionId) = some sessionId ∨
      (∀ clientId, m.lookup clientId ≠ some sessionId) ∧ clientIdOf order m sessionId = 0 := by
  rcases List.foldl_last (fun entry : Σ _ : UInt32, UInt32 => entry.2 = sessionId) Sigma.fst 0 (order.entries m) with
    ⟨⟨clientId, session⟩, member, rfl, found⟩ | ⟨none, zero⟩
  · refine .inl ?_
    rw [clientIdOf, found]
    exact mem_entries_iff.mp member
  · exact .inr ⟨fun clientId held => none _ (mem_entries_iff.mpr held) rfl, zero⟩

end Maps

section Requests

variable {h : LocHalDaemonClientHandler}

/-- The requests for geofences that were added. -/
inductive FenceRequest where
  | removeGeofences (gfIds : List UInt32)
  | modifyGeofences (gfPayload : List GeofencePayload)
  | pauseGeofences (gfIds : List UInt32)
  | resumeGeofences (gfIds : List UInt32)
deriving DecidableEq

namespace FenceRequest

def run : FenceRequest → HandlerM Unit
  | .removeGeofences gfIds => removeGeofencesHandler gfIds
  | .modifyGeofences gfPayload => modifyGeofencesHandler gfPayload
  | .pauseGeofences gfIds => pauseGeofencesHandler gfIds
  | .resumeGeofences gfIds => resumeGeofencesHandler gfIds

def msgId : FenceRequest → ELocMsgID
  | .removeGeofences _ => .E_LOCAPI_REMOVE_GEOFENCES_MSG_ID
  | .modifyGeofences _ => .E_LOCAPI_MODIFY_GEOFENCES_MSG_ID
  | .pauseGeofences _ => .E_LOCAPI_PAUSE_GEOFENCES_MSG_ID
  | .resumeGeofences _ => .E_LOCAPI_RESUME_GEOFENCES_MSG_ID

/-- The geofences that a request is for: a modification of too many is none. -/
def clientIds : FenceRequest → List UInt32
  | .removeGeofences gfIds | .pauseGeofences gfIds | .resumeGeofences gfIds => gfIds
  | .modifyGeofences gfPayload => if gfPayload.length > MAX_GEOFENCE_COUNT then [] else gfPayload.map (·.gfClientId)

/-- The call of `LocationAPI` for some sessions. -/
def output : FenceRequest → List UInt32 → HandlerOutput
  | .removeGeofences _, ids => .removeGeofences ids
  | .modifyGeofences gfPayload, ids => .modifyGeofences ids (gfPayload.map (·.gfOption))
  | .pauseGeofences _, ids => .pauseGeofences ids
  | .resumeGeofences _, ids => .resumeGeofences ids

end FenceRequest

theorem callGeofences_apply {output : List UInt32 → HandlerOutput} {ids : List UInt32} :
    callGeofences output ids h = ((), h, if ids.length > 0 ∧ h.mLocationApi = true then [output ids] else []) :=
  Emit.get_bind_eq (Emit.emit_ite_apply ..)

theorem geofencesHandler_of_ne_nil {output : List UInt32 → HandlerOutput} {msgId : ELocMsgID} {gfIds : List UInt32}
    (nonempty : gfIds ≠ []) (api : h.mLocationApi = true) :
    geofencesHandler (callGeofences output) msgId gfIds h =
      ((), { h with mGfIdsMap := (sessionIdsOf h.mGfIdsMap gfIds).1,
                    mGfPendingMessages := h.mGfPendingMessages ++ [msgId] },
        [output (gfIds.map fun clientId => (h.mGfIdsMap.lookup clientId).getD 0)]) := by
  have positive : gfIds.length > 0 := List.length_pos_iff.mpr nonempty
  have looked : getSessionIds gfIds h = (some (sessionIdsOf h.mGfIdsMap gfIds).2,
      { h with mGfIdsMap := (sessionIdsOf h.mGfIdsMap gfIds).1 }, []) := by
    rw [getSessionIds, if_pos positive]
    rfl
  refine (Emit.bind_eq looked (Emit.bind_eq (w := []) callGeofences_apply rfl)).trans ?_
  rw [snd_sessionIdsOf, List.length_map, if_pos ⟨positive, api⟩]
  rfl

/-- A request for no geofences does nothing. -/
theorem FenceRequest.run_of_nil {call : FenceRequest} (none : call.clientIds = []) : call.run h = ((), h, []) := by
  cases call with
  | removeGeofences gfIds | pauseGeofences gfIds | resumeGeofences gfIds =>
    subst none
    rfl
  | modifyGeofences gfPayload =>
    rw [clientIds] at none
    rw [run, modifyGeofencesHandler]
    split at none
    · next many => rw [if_pos many]; rfl
    · next few => rw [if_neg few, none]; rfl

theorem FenceRequest.run_of_ne_nil {call : FenceRequest} (nonempty : call.clientIds ≠ [])
    (api : h.mLocationApi = true) :
    call.run h =
      ((), { h with mGfIdsMap := (sessionIdsOf h.mGfIdsMap call.clientIds).1,
                    mGfPendingMessages := h.mGfPendingMessages ++ [call.msgId] },
        [call.output (call.clientIds.map fun clientId => (h.mGfIdsMap.lookup clientId).getD 0)]) := by
  cases call with
  | removeGeofences gfIds => exact geofencesHandler_of_ne_nil nonempty api
  | pauseGeofences gfIds => exact geofencesHandler_of_ne_nil nonempty api
  | resumeGeofences gfIds => exact geofencesHandler_of_ne_nil nonempty api
  | modifyGeofences gfPayload =>
    rw [clientIds] at nonempty ⊢
    split at nonempty
    · exact absurd rfl nonempty
    · next few =>
      rw [run, modifyGeofencesHandler, if_neg few, if_neg few]
      exact geofencesHandler_of_ne_nil nonempty api

section Additions

variable {gfPayload : List GeofencePayload} {ids : Option (List UInt32)}

theorem addGeofencesHandler_of_many (many : gfPayload.length > MAX_GEOFENCE_COUNT) :
    addGeofencesHandler gfPayload ids h = ((), h, []) := by
  rw [addGeofencesHandler, if_pos many]
  rfl

/-- Without a call the identifiers of the last call are used. -/
theorem addGeofencesHandler_of_uncalled (uncalled : ¬ (gfPayload.length > 0 ∧ h.mLocationApi = true))
    (unset : h.mGeofenceIds = none) : addGeofencesHandler gfPayload ids h = ((), h, []) := by
  rw [addGeofencesHandler]
  split
  · rfl
  · have added : LocHalDaemonClientHandler.addGeofences (gfPayload.map (·.gfOption)) (gfPayload.map (·.gfInfo)) ids h =
        (none, h, []) := by
      refine Emit.get_bind_eq ?_
      rw [List.length_map, if_neg uncalled]
      exact congrArg (·, h, []) unset
    exact Emit.bind_eq added rfl

theorem addGeofences_of_called (called : gfPayload.length > 0 ∧ h.mLocationApi = true) :
    LocHalDaemonClientHandler.addGeofences (gfPayload.map (·.gfOption)) (gfPayload.map (·.gfInfo)) ids h =
      (ids, { h with mGeofenceIds := ids },
        [.addGeofences (gfPayload.map (·.gfOption)) (gfPayload.map (·.gfInfo))]) := by
  refine Emit.get_bind_eq ?_
  rw [List.length_map, if_pos called]
  rfl

theorem addGeofencesHandler_of_failed (few : ¬ gfPayload.length > MAX_GEOFENCE_COUNT)
    (called : gfPayload.length > 0 ∧ h.mLocationApi = true) :
    addGeofencesHandler gfPayload none h = ((), { h with mGeofenceIds := none },
      [.addGeofences (gfPayload.map (·.gfOption)) (gfPayload.map (·.gfInfo))]) := by
  rw [addGeofencesHandler, if_neg few]
  exact (Emit.bind_eq (w := []) (addGeofences_of_called called) rfl).trans (by rw [List.append_nil])

/-- The handler after geofences were added. -/
def withGeofences (h : LocHalDaemonClientHandler) (clientIds sessions : List UInt32) : LocHalDaemonClientHandler :=
  { h with
    mGeofenceIds := some sessions,
    mGfIdsMap := (clientIds.zip sessions).foldl (fun m ids => m.insert ids.1 ids.2) h.mGfIdsMap,
    mGfPendingMessages := h.mGfPendingMessages ++ [.E_LOCAPI_ADD_GEOFENCES_MSG_ID] }

theorem addGeofencesHandler_of_called (sessions : List UInt32) (few : ¬ gfPayload.length > MAX_GEOFENCE_COUNT)
    (called : gfPayload.length > 0 ∧ h.mLocationApi = true) :
    addGeofencesHandler gfPayload (some sessions) h =
      ((), withGeofences h (gfPayload.map (·.gfClientId)) sessions,
        [.addGeofences (gfPayload.map (·.gfOption)) (gfPayload.map (·.gfInfo))]) := by
  rw [addGeofencesHandler, if_neg few]
  exact (Emit.bind_eq (w := []) (addGeofences_of_called called) rfl).trans (by rw [List.append_nil]; rfl)

end Additions

/-- The client identifiers that an answer erases. -/
def erasedIds (msgId : ELocMsgID) (clientIds : List UInt32) (errs : List LocationError) : List UInt32 :=
  ((clientIds.zip errs).filter fun item => item.2 ≠ .success).map Prod.fst ++
    if msgId = .E_LOCAPI_REMOVE_GEOFENCES_MSG_ID then clientIds else []

theorem next_onCollectiveResponseCallback {order : IterationOrder} {errs : List LocationError} {ids : List UInt32}
    (sender : h.mIpcSender = true) (nonempty : ids ≠ []) :
    (onCollectiveResponseCallback order errs ids).next h =
      { h with
        mGfPendingMessages := h.mGfPendingMessages.tail,
        mGfIdsMap := (erasedIds (h.mGfPendingMessages.head?.getD .E_LOCAPI_UNDEFINED_MSG_ID)
          (getClientIds order h.mGfIdsMap ids) errs).foldl (fun m clientId => m.erase clientId) h.mGfIdsMap } := by
  have some : ids.length ≠ 0 := fun zero => nonempty (List.length_eq_zero_iff.mp zero)
  rw [onCollectiveResponseCallback, Emit.next_get_bind, if_pos sender, Emit.next_bind, if_neg some, erasedIds,
    List.foldl_append, Emit.next_bind, Emit.next_bind, Emit.next_ite, Emit.next_ite]
  split <;> split <;> rfl

end Requests

end Cypfr.HalDaemon
