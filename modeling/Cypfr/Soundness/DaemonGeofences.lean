import Cypfr.Machine.Run
import Cypfr.Proofs.DaemonGeofences

/-! # The geofence identifiers of a client

An addition maps the identifiers of the client, and an answer erases those of its errors, whatever was asked. The map is
exact as long as every geofence that exists is answered with success and the lookups that insert identifiers are made
up for by answers that erase them.
-/

namespace Cypfr.HalDaemon

open Tracking Geofence ClientBase LocationApiService LocHalDaemonClientHandler Machine

/-- A client adds geofences, for which `LocationAPI` returns sessions, or asks for something else; or `LocationAPI`
answers the oldest call, with an error for each geofence. -/
inductive FenceEvent where
  | addGeofences (gfPayload : List GeofencePayload) (ids : Option (List UInt32))
  | ask (call : FenceRequest)
  | answer (errs : List LocationError)

/-- A call that is to be answered: its message, and the identifiers of the client with their sessions. -/
structure Asked where
  msgId : ELocMsgID
  items : List (UInt32 × UInt32)
deriving DecidableEq

namespace Asked

/-- The geofences that a call adds. -/
def adds (a : Asked) : List (UInt32 × UInt32) := if a.msgId = .E_LOCAPI_ADD_GEOFENCES_MSG_ID then a.items else []

/-- A call for an identifier that had no session. -/
def hasUnknown (a : Asked) : Bool := a.items.any fun item => item.2 = 0

/-- The geofences of a call with their errors. -/
def answers (a : Asked) (errs : List LocationError) : List ((UInt32 × UInt32) × LocationError) := a.items.zip errs

/-- An answer that makes the client forget a geofence: an error, or any answer to a removal. -/
def Forgets (a : Asked) (err : LocationError) : Prop := err ≠ .success ∨ a.msgId = .E_LOCAPI_REMOVE_GEOFENCES_MSG_ID

end Asked

/-- The client, the calls that are to be answered, the geofences that exist by client and session, and the sessions
that were issued. -/
structure Fences where
  h : LocHalDaemonClientHandler
  outstanding : List Asked
  existing : List (UInt32 × UInt32)
  issued : List UInt32

namespace Fences

variable (order : IterationOrder)

def initial (isClientApi : Bool) : Fences := ⟨.construct isClientApi, [], [], []⟩

/-- The calls that what is emitted stands for. -/
def calls (e : FenceEvent) (outputs : List HandlerOutput) : List Asked :=
  outputs.filterMap fun output => match e, output with
    | .addGeofences gfPayload ids, .addGeofences _ _ =>
      ids.map fun ids => ⟨.E_LOCAPI_ADD_GEOFENCES_MSG_ID, (gfPayload.map (·.gfClientId)).zip ids⟩
    | .ask call, .removeGeofences ids | .ask call, .modifyGeofences ids _ | .ask call, .pauseGeofences ids
    | .ask call, .resumeGeofences ids => some ⟨call.msgId, call.clientIds.zip ids⟩
    | _, _ => none

/-- The geofences that exist after an answer. -/
def existingAfter (existing : List (UInt32 × UInt32)) (a : Asked) (errs : List LocationError) : List (UInt32 × UInt32) :=
  if a.msgId = .E_LOCAPI_ADD_GEOFENCES_MSG_ID then
    existing ++ ((a.answers errs).filter fun answer => answer.2 = .success).map Prod.fst
  else if a.msgId = .E_LOCAPI_REMOVE_GEOFENCES_MSG_ID then
    existing.filter fun geofence => (a.answers errs).all fun answer => ¬ (answer.2 = .success ∧ answer.1.2 = geofence.2)
  else
    existing

def step (s : Fences) : FenceEvent → Fences
  | .addGeofences gfPayload ids =>
    let p := addGeofencesHandler gfPayload ids
    let asked := calls (.addGeofences gfPayload ids) (p.emitted s.h)
    { s with h := p.next s.h, outstanding := s.outstanding ++ asked,
             issued := s.issued ++ asked.flatMap fun a => a.items.map Prod.snd }
  | .ask call => { s with h := call.run.next s.h, outstanding := s.outstanding ++ calls (.ask call) (call.run.emitted s.h) }
  | .answer errs => match s.outstanding with
    | [] => s
    | a :: rest =>
      { s with h := (onCollectiveResponseCallback order errs (a.items.map Prod.snd)).next s.h, outstanding := rest,
               existing := existingAfter s.existing a errs }

/-- The geofences that exist or are being added. -/
def known (s : Fences) : List (UInt32 × UInt32) := s.existing ++ s.outstanding.flatMap Asked.adds

/-- A client names each geofence once in a request, and adds none that exists or is being added; new sessions are
distinct, not zero and never issued before; and an answer has an error for each geofence. -/
def Proper (s : Fences) : FenceEvent → Prop
  | .addGeofences gfPayload ids =>
    (gfPayload.map (·.gfClientId)).Nodup ∧ (∀ geofence ∈ gfPayload, ∀ id, (geofence.gfClientId, id) ∉ s.known) ∧
      ∀ sessions, ids = some sessions → sessions.length = gfPayload.length ∧ sessions.Nodup ∧
        ∀ id ∈ sessions, id ≠ 0 ∧ id ∉ s.issued
  | .ask call => call.clientIds.Nodup
  | .answer errs => ∀ a ∈ s.outstanding.head?, errs.length = a.items.length

/-- With no call to be answered, the map of the client is that of the geofences that exist. -/
def Exact (s : Fences) : Prop :=
  s.outstanding = [] → ∀ clientId sessionId,
    s.h.mGfIdsMap.lookup clientId = some sessionId ↔ (clientId, sessionId) ∈ s.existing

/-- The identifiers of the client that have no session. -/
def unknown (s : Fences) : List UInt32 := s.h.mGfIdsMap.keysWith 0

/-- The identifiers of a request that the client does not have. -/
def newIds (s : Fences) (call : FenceRequest) : List UInt32 :=
  call.clientIds.filter fun clientId => s.h.mGfIdsMap.lookup clientId = none

/-- An answer to a call other than an addition: geofences that exist are answered with success, nothing is forgotten
under the identifier zero, and identifiers without a session are at most as many as the calls for such. -/
structure MayAnswer (s : Fences) (a : Asked) (rest : List Asked) (errs : List LocationError) : Prop where
  succeeds : ∀ answer ∈ a.answers errs, (∃ clientId, (clientId, answer.1.2) ∈ s.existing) → answer.2 = .success
  zero : ∀ answer ∈ a.answers errs, a.Forgets answer.2 → (∀ clientId, s.h.mGfIdsMap.lookup clientId ≠ some answer.1.2) →
    ∀ id, (0, id) ∉ s.known
  forgets : a.hasUnknown = true → (∃ answer ∈ a.answers errs, answer.1.2 = 0 ∧ a.Forgets answer.2) ∨
    s.unknown.length ≤ rest.countP Asked.hasUnknown

/-- An addition of no geofences finds no identifiers of an earlier one; a request needs a `LocationAPI`, and for
identifiers that the client does not have there are enough calls. -/
def MayStep (s : Fences) : FenceEvent → Prop
  | .addGeofences gfPayload _ => gfPayload = [] → s.h.mGeofenceIds = none
  | .ask call =>
    (call.clientIds ≠ [] → s.h.mLocationApi = true) ∧
      (s.newIds call ≠ [] → s.unknown.length + (s.newIds call).length ≤ s.outstanding.countP Asked.hasUnknown + 1)
  | .answer errs => ∀ a rest, s.outstanding = a :: rest → a.msgId ≠ .E_LOCAPI_ADD_GEOFENCES_MSG_ID → MayAnswer s a rest errs

/-- What the steps of a run keep: the map holds the geofences that exist or are being added, each once, and for what is
asked besides as many identifiers without a session as there are calls that name one. -/
structure Fits (s : Fences) : Prop where
  sender : s.h.mIpcSender = true
  unset : s.h.mLocationApi = false → s.h.mGeofenceIds = none
  pending : s.h.mGfPendingMessages = s.outstanding.map Asked.msgId
  nonempty : ∀ a ∈ s.outstanding, a.items ≠ []
  held : ∀ g ∈ s.known, s.h.mGfIdsMap.lookup g.1 = some g.2
  only : ∀ clientId id, s.h.mGfIdsMap.lookup clientId = some id → id ≠ 0 → (clientId, id) ∈ s.known
  fresh : ∀ g ∈ s.known, g.2 ≠ 0 ∧ g.2 ∈ s.issued
  distinct : (s.known.map Prod.snd).Nodup
  asked : ∀ a ∈ s.outstanding, ∀ item ∈ a.items, item.2 = 0 ∨ item.2 ∈ s.issued
  order : s.outstanding.Pairwise fun a b => ∀ item ∈ a.items, ∀ g ∈ b.adds, item.2 ≠ g.2
  unknown : s.unknown.length ≤ s.outstanding.countP Asked.hasUnknown

theorem Fits.exact {s : Fences} (fits : Fits s) : Exact s := by
  intro idle clientId sessionId
  have known : s.known = s.existing := by rw [Fences.known, idle, List.flatMap_nil, List.append_nil]
  have none : s.unknown = [] := by
    have few := fits.unknown
    rw [idle, List.countP_nil] at few
    exact List.length_eq_zero_iff.mp (Nat.le_zero.mp few)
  constructor
  · intro held
    refine known ▸ fits.only clientId sessionId held fun zero => ?_
    have member : clientId ∈ s.unknown := AList.mem_keysWith.mpr (zero ▸ held)
    exact absurd (none ▸ member) List.not_mem_nil
  · exact fun exists' => fits.held (clientId, sessionId) (known.symm ▸ exists')

section Additions

variable {s : Fences} {gfPayload : List GeofencePayload}

theorem step_addGeofences_of_silent {ids : Option (List UInt32)}
    (silent : addGeofencesHandler gfPayload ids s.h = ((), s.h, [])) : step order s (.addGeofences gfPayload ids) =
    s := by
  simp only [step, Emit.next, Emit.emitted, silent, calls, List.filterMap_nil, List.flatMap_nil, List.append_nil]

/-- The call for geofences that are added. -/
def added (gfPayload : List GeofencePayload) (sessions : List UInt32) : Asked :=
  ⟨.E_LOCAPI_ADD_GEOFENCES_MSG_ID, (gfPayload.map (·.gfClientId)).zip sessions⟩

theorem known_append (a : Asked) (h : LocHalDaemonClientHandler) (issued : List UInt32) :
    known ⟨h, s.outstanding ++ [a], s.existing, issued⟩ = s.known ++ a.adds := by
  rw [known, known, List.flatMap_append, List.flatMap_singleton, List.append_assoc]

theorem Fits.addGeofences {sessions : List UInt32} (fits : Fits s) (nonempty : gfPayload ≠ [])
    (few : ¬ gfPayload.length > MAX_GEOFENCE_COUNT) (api : s.h.mLocationApi = true)
    (proper : Proper s (.addGeofences gfPayload (some sessions))) :
    Fits (step order s (.addGeofences gfPayload (some sessions))) := by
  obtain ⟨clients, absent, sessions_proper⟩ := proper
  obtain ⟨size, unlike, unused⟩ := sessions_proper sessions rfl
  have ran := addGeofencesHandler_of_called sessions few ⟨List.length_pos_iff.mpr nonempty, api⟩
  have after : step order s (.addGeofences gfPayload (some sessions)) =
      ⟨withGeofences s.h (gfPayload.map (·.gfClientId)) sessions, s.outstanding ++ [added gfPayload sessions],
        s.existing, s.issued ++ (added gfPayload sessions).items.map Prod.snd⟩ := by
    simp only [step, Emit.next, Emit.emitted, ran, calls, List.filterMap_cons, Option.map_some, List.filterMap_nil,
      List.flatMap_cons, List.flatMap_nil, List.append_nil]
    rfl
  have firsts : (added gfPayload sessions).items.map Prod.fst = gfPayload.map (·.gfClientId) :=
    List.map_fst_zip (by rw [List.length_map, size])
  have seconds : (added gfPayload sessions).items.map Prod.snd = sessions :=
    List.map_snd_zip (by rw [List.length_map, size])
  have fresh (g : UInt32 × UInt32) (member : g ∈ (added gfPayload sessions).items) : g.2 ≠ 0 ∧ g.2 ∉ s.issued :=
    unused g.2 (seconds ▸ List.mem_map_of_mem member)
  have other (g : UInt32 × UInt32) (member : g ∈ s.known) : g.1 ∉ (added gfPayload sessions).items.map Prod.fst := by
    rw [firsts]
    intro named
    obtain ⟨geofence, among, same⟩ := List.mem_map.mp named
    exact absent geofence among g.2 (same ▸ member)
  have distinct : ((added gfPayload sessions).items.map Prod.fst).Nodup := firsts.symm ▸ clients
  have lookup (clientId id : UInt32) :
      (withGeofences s.h (gfPayload.map (·.gfClientId)) sessions).mGfIdsMap.lookup clientId = some id ↔
        (clientId, id) ∈ (added gfPayload sessions).items ∨
          clientId ∉ (added gfPayload sessions).items.map Prod.fst ∧ s.h.mGfIdsMap.lookup clientId = some id :=
    AList.lookup_foldl_insert distinct
  have adds : (added gfPayload sessions).adds = (added gfPayload sessions).items := if_pos rfl
  have knows : (step order s (.addGeofences gfPayload (some sessions))).known = s.known ++
    (added gfPayload sessions).items := by
    rw [after, known_append, adds]
  rw [after] at knows ⊢
  refine ⟨fits.sender, fun none => ?_, ?_, fun a member => ?_, fun g member => ?_, fun clientId id held nonzero => ?_,
    fun g member => ?_, ?_, fun a member item among => ?_, ?_, ?_⟩
  · exact absurd (api.symm.trans none) (by decide)
  · change s.h.mGfPendingMessages ++ [_] = _
    rw [List.map_append, fits.pending]
    rfl
  · rcases List.mem_append.mp member with earlier | last
    · exact fits.nonempty a earlier
    · rw [List.mem_singleton.mp last]
      intro empty
      rw [empty] at firsts
      exact nonempty (List.map_eq_nil_iff.mp firsts.symm)
  · rw [knows] at member
    refine (lookup g.1 g.2).mpr ?_
    rcases List.mem_append.mp member with earlier | new
    · exact .inr ⟨other g earlier, fits.held g earlier⟩
    · exact .inl new
  · rw [knows]
    rcases (lookup clientId id).mp held with new | ⟨-, earlier⟩
    · exact List.mem_append_right _ new
    · exact List.mem_append_left _ (fits.only clientId id earlier nonzero)
  · rw [knows] at member
    rcases List.mem_append.mp member with earlier | new
    · exact ⟨(fits.fresh g earlier).1, List.mem_append_left _ (fits.fresh g earlier).2⟩
    · exact ⟨(fresh g new).1, List.mem_append_right _ (List.mem_map_of_mem new)⟩
  · rw [knows, List.map_append]
    refine List.nodup_append.mpr ⟨fits.distinct, seconds.symm ▸ unlike, ?_⟩
    rintro _ earlier _ new rfl
    obtain ⟨g, member, same⟩ := List.mem_map.mp earlier
    obtain ⟨g', member', same'⟩ := List.mem_map.mp new
    exact (fresh g' member').2 (same'.trans same.symm ▸ (fits.fresh g member).2)
  · rcases List.mem_append.mp member with earlier | last
    · exact (fits.asked a earlier item among).imp_right fun issued => List.mem_append_left _ issued
    · rw [List.mem_singleton.mp last] at among
      exact .inr (List.mem_append_right _ (List.mem_map_of_mem among))
  · refine List.pairwise_append.mpr ⟨fits.order, List.pairwise_singleton .., ?_⟩
    rintro a earlier _ last item among g new
    rw [List.mem_singleton.mp last, adds] at new
    intro same
    rcases fits.asked a earlier item among with zero | issued
    · exact (fresh g new).1 (same.symm.trans zero)
    · exact (fresh g new).2 (same ▸ issued)
  · have known_sessions : (added gfPayload sessions).hasUnknown = false :=
      List.any_eq_false.mpr fun g member zero => (fresh g member).1 (of_decide_eq_true zero)
    refine (AList.length_keysWith_le (l := s.unknown) fun clientId held => ?_).trans ?_
    · rcases (lookup clientId 0).mp held with new | ⟨-, earlier⟩
      · exact absurd rfl (fresh _ new).1
      · exact AList.mem_keysWith.mpr earlier
    · rw [List.countP_append, List.countP_singleton, known_sessions]
      exact fits.unknown

end Additions

section Requests

variable {s : Fences} {call : FenceRequest}

/-- The call for a request. -/
def asked (s : Fences) (call : FenceRequest) : Asked :=
  ⟨call.msgId, call.clientIds.map fun clientId => (clientId, (s.h.mGfIdsMap.lookup clientId).getD 0)⟩

theorem adds_asked : (asked s call).adds = [] := by
  have other : call.msgId ≠ .E_LOCAPI_ADD_GEOFENCES_MSG_ID := by cases call <;> rintro ⟨⟩
  exact if_neg other

theorem calls_ask {ids : List UInt32} : calls (.ask call) [call.output ids] =
    [⟨call.msgId, call.clientIds.zip ids⟩] := by
  cases call <;> rfl

theorem step_ask_of_nil (none : call.clientIds = []) : step order s (.ask call) = s := by
  simp only [step, Emit.next, Emit.emitted, FenceRequest.run_of_nil none, calls, List.filterMap_nil, List.append_nil]

theorem step_ask_of_ne_nil (nonempty : call.clientIds ≠ []) (api : s.h.mLocationApi = true) :
    step order s (.ask call) =
      ⟨{ s.h with mGfIdsMap := (sessionIdsOf s.h.mGfIdsMap call.clientIds).1,
                  mGfPendingMessages := s.h.mGfPendingMessages ++ [call.msgId] },
        s.outstanding ++ [asked s call], s.existing, s.issued⟩ := by
  have items := List.zip_map' (f := id) (g := fun clientId => (s.h.mGfIdsMap.lookup clientId).getD 0)
    (l := call.clientIds)
  rw [List.map_id] at items
  simp only [step, Emit.next, Emit.emitted, FenceRequest.run_of_ne_nil nonempty api, calls_ask, items]
  rfl

/-- A request for an identifier that the client does not have calls for an unknown one. -/
theorem hasUnknown_asked (new : s.newIds call ≠ []) : (asked s call).hasUnknown = true := by
  obtain ⟨clientId, member⟩ := List.exists_mem_of_ne_nil _ new
  obtain ⟨among, absent⟩ := List.mem_filter.mp member
  refine List.any_eq_true.mpr ⟨_, List.mem_map_of_mem among, ?_⟩
  rw [of_decide_eq_true absent]
  rfl

theorem Fits.ask (fits : Fits s) (nonempty : call.clientIds ≠ []) (may : MayStep s (.ask call)) :
    Fits (step order s (.ask call)) := by
  have api := may.1 nonempty
  have knows : (step order s (.ask call)).known = s.known := by
    rw [step_ask_of_ne_nil order nonempty api, known_append, adds_asked, List.append_nil]
  have lookup (clientId : UInt32) : (sessionIdsOf s.h.mGfIdsMap call.clientIds).1.lookup clientId =
      if clientId ∈ call.clientIds ∧ s.h.mGfIdsMap.lookup clientId = none then
        some 0 else s.h.mGfIdsMap.lookup clientId :=
    lookup_fst_sessionIdsOf
  rw [step_ask_of_ne_nil order nonempty api] at knows ⊢
  refine ⟨fits.sender, fits.unset, ?_, fun a member => ?_, fun g member => ?_, fun clientId id held nonzero => ?_,
    fun g member => ?_, ?_, fun a member item among => ?_, ?_, ?_⟩
  · rw [List.map_append, fits.pending]
    rfl
  · rcases List.mem_append.mp member with earlier | last
    · exact fits.nonempty a earlier
    · rw [List.mem_singleton.mp last]
      exact fun empty => nonempty (List.map_eq_nil_iff.mp empty)
  · rw [knows] at member
    have before := fits.held g member
    exact (lookup g.1).trans ((if_neg fun both => Option.some_ne_none _ (before.symm.trans both.2)).trans before)
  · rw [knows]
    refine fits.only clientId id ?_ nonzero
    rw [lookup] at held
    split at held
    · exact absurd (Option.some.inj held).symm nonzero
    · exact held
  · exact fits.fresh g (knows ▸ member)
  · exact knows ▸ fits.distinct
  · rcases List.mem_append.mp member with earlier | last
    · exact fits.asked a earlier item among
    · rw [List.mem_singleton.mp last] at among
      obtain ⟨clientId, -, rfl⟩ := List.mem_map.mp among
      cases held : s.h.mGfIdsMap.lookup clientId with
      | none => exact .inl rfl
      | some id =>
        by_cases zero : id = 0
        · exact .inl zero
        · exact .inr (fits.fresh _ (fits.only clientId id held zero)).2
  · refine List.pairwise_append.mpr ⟨fits.order, List.pairwise_singleton .., ?_⟩
    rintro a - _ last item - g new
    rw [List.mem_singleton.mp last, adds_asked] at new
    exact absurd new List.not_mem_nil
  · refine (AList.length_keysWith_le (l := s.unknown ++ s.newIds call) fun clientId held => ?_).trans ?_
    · rw [lookup] at held
      split at held
      · next inserted => exact List.mem_append_right _ (List.mem_filter.mpr ⟨inserted.1, decide_eq_true inserted.2⟩)
      · exact List.mem_append_left _ (AList.mem_keysWith.mpr held)
    · rw [List.length_append, List.countP_append, List.countP_singleton]
      by_cases new : s.newIds call = []
      · rw [new, List.length_nil, Nat.add_zero]
        exact fits.unknown.trans (Nat.le_add_right ..)
      · rw [hasUnknown_asked new]
        exact may.2 new

end Requests

section Answers

variable {order} {s : Fences} {a : Asked} {rest : List Asked} {errs : List LocationError} {clientId id : UInt32}

theorem known_of_cons (oldest : s.outstanding = a :: rest) :
    s.known = s.existing ++ (a.adds ++ rest.flatMap Asked.adds) := by rw [known, oldest, List.flatMap_cons]

/-- An answer erases the client identifiers of the sessions that it forgets. -/
theorem mem_erasedIds {m : IdsMap} (size : errs.length = a.items.length) :
    clientId ∈ erasedIds a.msgId (getClientIds order m (a.items.map Prod.snd)) errs ↔
      ∃ answer ∈ a.answers errs, a.Forgets answer.2 ∧ clientIdOf order m answer.1.2 = clientId := by
  have paired : (getClientIds order m (a.items.map Prod.snd)).zip errs =
      (a.answers errs).map (Prod.map (fun item => clientIdOf order m item.2) id) := by
    rw [getClientIds, List.map_map, List.zip_map_left]
    rfl
  have all : getClientIds order m (a.items.map Prod.snd) =
      (a.answers errs).map fun answer => clientIdOf order m answer.1.2 := by
    have items : (a.answers errs).map Prod.fst = a.items := List.map_fst_zip size.ge
    rw [getClientIds, ← items, List.map_map, List.map_map]
    rfl
  rw [erasedIds, List.mem_append, paired, all, List.mem_map]
  constructor
  · rintro (⟨item, failed, rfl⟩ | removed)
    · obtain ⟨member, err⟩ := List.mem_filter.mp failed
      obtain ⟨answer, among, rfl⟩ := List.mem_map.mp member
      exact ⟨answer, among, .inl (of_decide_eq_true err), rfl⟩
    · split at removed
      · next removal =>
        obtain ⟨answer, among, same⟩ := List.mem_map.mp removed
        exact ⟨answer, among, .inr removal, same⟩
      · exact absurd removed List.not_mem_nil
  · rintro ⟨answer, among, failed | removal, rfl⟩
    · exact .inl ⟨_, List.mem_filter.mpr ⟨List.mem_map_of_mem among, decide_eq_true failed⟩, rfl⟩
    · rw [if_pos removal]
      exact .inr (List.mem_map_of_mem among)

/-- The handler after the oldest call was answered. -/
def answered (order : IterationOrder) (s : Fences) (a : Asked) (errs : List LocationError) : LocHalDaemonClientHandler :=
  { s.h with
    mGfPendingMessages := s.h.mGfPendingMessages.tail,
    mGfIdsMap := (erasedIds a.msgId (getClientIds order s.h.mGfIdsMap (a.items.map Prod.snd)) errs).foldl
      (fun m clientId => m.erase clientId) s.h.mGfIdsMap }

theorem step_answer (fits : Fits s) (oldest : s.outstanding = a :: rest) :
    step order s (.answer errs) = ⟨answered order s a errs, rest, existingAfter s.existing a errs, s.issued⟩ := by
  have nonempty : a.items.map Prod.snd ≠ [] := fun empty =>
    fits.nonempty a (oldest ▸ List.mem_cons_self) (List.map_eq_nil_iff.mp empty)
  have head : s.h.mGfPendingMessages.head?.getD .E_LOCAPI_UNDEFINED_MSG_ID = a.msgId := by
    rw [fits.pending, oldest]
    rfl
  simp only [step, oldest]
  rw [next_onCollectiveResponseCallback fits.sender nonempty, head]
  rfl

/-- What the map of the client holds after an answer. -/
theorem lookup_answered (size : errs.length = a.items.length) :
    (answered order s a errs).mGfIdsMap.lookup clientId = some id ↔
      s.h.mGfIdsMap.lookup clientId = some id ∧
        ∀ answer ∈ a.answers errs, a.Forgets answer.2 → clientIdOf order s.h.mGfIdsMap answer.1.2 ≠ clientId := by
  rw [answered, AList.lookup_foldl_erase]
  split
  · next forgotten =>
    obtain ⟨answer, among, forgets, same⟩ := (mem_erasedIds size).mp forgotten
    exact iff_of_false (Option.some_ne_none id).symm fun both => both.2 answer among forgets same
  · next kept =>
    refine (and_iff_left fun answer among forgets same => kept ?_).symm
    exact (mem_erasedIds size).mpr ⟨answer, among, forgets, same⟩

/-- Each session is that of one geofence. -/
theorem Fits.unique (fits : Fits s) {g g' : UInt32 × UInt32} (member : g ∈ s.known) (member' : g' ∈ s.known)
    (same : g.2 = g'.2) : g = g' := List.inj_on_of_nodup_map fits.distinct member member' same

theorem Fits.clientIdOf_eq (fits : Fits s) (member : (clientId, id) ∈ s.known) :
    clientIdOf order s.h.mGfIdsMap id = clientId := by
  rcases lookup_clientIdOf order s.h.mGfIdsMap id with held | ⟨none, -⟩
  · exact congrArg Prod.fst (fits.unique (fits.only _ id held (fits.fresh _ member).1) member rfl)
  · exact absurd (fits.held _ member) (none clientId)

/-- A geofence is forgotten under its own session, unless one without an identifier stands for it. -/
theorem Fits.session_of_forgotten (fits : Fits s) (member : (clientId, id) ∈ s.known) {session : UInt32}
    (forgotten : clientIdOf order s.h.mGfIdsMap session = clientId) :
    session = id ∨ (∀ clientId, s.h.mGfIdsMap.lookup clientId ≠ some session) ∧ clientId = 0 := by
  rcases lookup_clientIdOf order s.h.mGfIdsMap session with held | ⟨none, zero⟩
  · rw [forgotten, fits.held _ member] at held
    exact .inl (Option.some.inj held).symm
  · exact .inr ⟨none, forgotten.symm.trans zero⟩

/-- After an answer at most as many identifiers have no session. -/
theorem length_unknown_answered (size : errs.length = a.items.length) :
    ((answered order s a errs).mGfIdsMap.keysWith 0).length ≤ s.unknown.length :=
  AList.length_keysWith_le fun _ held => AList.mem_keysWith.mpr ((lookup_answered size).mp held).1

/-- An answer that forgets an identifier without a session leaves fewer of them. -/
theorem length_unknown_answered_of_forgets (size : errs.length = a.items.length)
    {answer : (UInt32 × UInt32) × LocationError} (among : answer ∈ a.answers errs) (zero : answer.1.2 = 0)
    (forgets : a.Forgets answer.2) :
    ((answered order s a errs).mGfIdsMap.keysWith 0).length ≤ s.unknown.length - 1 := by
  rcases lookup_clientIdOf order s.h.mGfIdsMap 0 with held | ⟨none, -⟩
  · have member : clientIdOf order s.h.mGfIdsMap 0 ∈ s.unknown := AList.mem_keysWith.mpr held
    rw [← List.length_erase_of_mem member]
    refine AList.length_keysWith_le fun other held' => ?_
    obtain ⟨before, kept⟩ := (lookup_answered size).mp held'
    refine (List.Nodup.mem_erase_iff AList.nodup_keysWith).mpr ⟨fun same => ?_, AList.mem_keysWith.mpr before⟩
    exact kept answer among forgets (zero ▸ same.symm)
  · have empty : s.unknown = [] := List.eq_nil_iff_forall_not_mem.mpr fun other member =>
      none other (AList.mem_keysWith.mp member)
    exact (length_unknown_answered size).trans (by rw [empty]; exact le_rfl)

/-- What an answer keeps, from which geofences it leaves and which of them it forgets. -/
theorem Fits.answer (fits : Fits s) (oldest : s.outstanding = a :: rest) (size : errs.length = a.items.length)
    (within : (existingAfter s.existing a errs ++ rest.flatMap Asked.adds).Sublist s.known)
    (exactly : ∀ g ∈ s.known, g ∈ existingAfter s.existing a errs ++ rest.flatMap Asked.adds ↔
      ∀ answer ∈ a.answers errs, a.Forgets answer.2 → clientIdOf order s.h.mGfIdsMap answer.1.2 ≠ g.1)
    (bound : ((answered order s a errs).mGfIdsMap.keysWith 0).length ≤ rest.countP Asked.hasUnknown) :
    Fits (step order s (.answer errs)) := by
  rw [step_answer fits oldest]
  have later (b : Asked) (member : b ∈ rest) : b ∈ s.outstanding := oldest ▸ List.mem_cons_of_mem _ member
  refine ⟨fits.sender, fits.unset, ?_, fun b member => fits.nonempty b (later b member), fun g member => ?_,
    fun clientId id held nonzero => ?_, fun g member => fits.fresh g (within.subset member),
    fits.distinct.sublist (within.map _), fun b member => fits.asked b (later b member), ?_, bound⟩
  · change s.h.mGfPendingMessages.tail = _
    rw [fits.pending, oldest]
    rfl
  · have before := within.subset member
    exact (lookup_answered size).mpr ⟨fits.held g before, (exactly g before).mp member⟩
  · obtain ⟨before, kept⟩ := (lookup_answered size).mp held
    exact (exactly (clientId, id) (fits.only clientId id before nonzero)).mpr kept
  · have order := fits.order
    rw [oldest] at order
    exact (List.pairwise_cons.mp order).2

/-- The sessions of a call are not among those that are added later. -/
theorem Fits.later_ne (fits : Fits s) (oldest : s.outstanding = a :: rest) {item g : UInt32 × UInt32}
    (among : item ∈ a.items)
    (later : g ∈ rest.flatMap Asked.adds) : item.2 ≠ g.2 := by
  have order := fits.order
  rw [oldest] at order
  obtain ⟨b, member, adds⟩ := List.mem_flatMap.mp later
  exact (List.pairwise_cons.mp order).1 b member item among g adds

theorem mem_items_of_mem_answers {answer : (UInt32 × UInt32) × LocationError} (among : answer ∈ a.answers errs) :
    answer.1 ∈ a.items := (List.of_mem_zip among).1

theorem countP_of_cons (oldest : s.outstanding = a :: rest) :
    s.outstanding.countP Asked.hasUnknown = rest.countP Asked.hasUnknown + if a.hasUnknown then 1 else 0 := by
  rw [oldest, List.countP_cons]

theorem exists_answer (size : errs.length = a.items.length) {item : UInt32 × UInt32} (among : item ∈ a.items) :
    ∃ err, (item, err) ∈ a.answers errs := by
  have items : (a.answers errs).map Prod.fst = a.items := List.map_fst_zip size.ge
  rw [← items] at among
  obtain ⟨answer, member, rfl⟩ := List.mem_map.mp among
  exact ⟨answer.2, member⟩

/-- The answer to an addition leaves what was added with success. -/
theorem Fits.answer_add (fits : Fits s) (oldest : s.outstanding = a :: rest) (size : errs.length = a.items.length)
    (addition : a.msgId = .E_LOCAPI_ADD_GEOFENCES_MSG_ID) : Fits (step order s (.answer errs)) := by
  have known : s.known = s.existing ++ (a.items ++ rest.flatMap Asked.adds) := by
    rw [known_of_cons oldest, Asked.adds, if_pos addition]
  have items : (a.answers errs).map Prod.fst = a.items := List.map_fst_zip size.ge
  have after : existingAfter s.existing a errs =
      s.existing ++ ((a.answers errs).filter fun answer => answer.2 = .success).map Prod.fst := if_pos addition
  have failed {err : LocationError} (forgets : a.Forgets err) : err ≠ .success :=
    forgets.resolve_right fun removal => absurd (addition.symm.trans removal) (by decide)
  have distinct := fits.distinct
  rw [known, List.map_append, List.map_append] at distinct
  obtain ⟨-, inside, apart⟩ := List.nodup_append.mp distinct
  have added {item : UInt32 × UInt32} (among : item ∈ a.items) : item ∈ s.known :=
    known ▸ List.mem_append_right _ (List.mem_append_left _ among)
  have single {answer answer' : (UInt32 × UInt32) × LocationError} (among : answer ∈ a.answers errs)
      (among' : answer' ∈ a.answers errs) (same : answer.1 = answer'.1) : answer = answer' := by
    refine List.inj_on_of_nodup_map (f := Prod.fst) ?_ among among' same
    rw [items]
    exact List.Nodup.of_map _ (List.nodup_append.mp inside).1
  refine fits.answer oldest size ?_ (fun g member => ⟨?_, fun kept => ?_⟩) ?_
  · rw [known, after, List.append_assoc]
    refine (List.Sublist.refl _).append (List.Sublist.append ?_ (List.Sublist.refl _))
    exact items ▸ List.filter_sublist.map _
  · rintro stays answer among forgets forgotten
    have among_items := mem_items_of_mem_answers among
    rcases fits.session_of_forgotten member forgotten with same | ⟨none, -⟩
    · have self : answer.1 = g := fits.unique (added among_items) member same
      rcases List.mem_append.mp stays with exists' | later
      · rcases List.mem_append.mp (after ▸ exists') with before | succeeded
        · exact apart g.2 (List.mem_map_of_mem before) g.2
            (List.mem_append_left _ (self ▸ List.mem_map_of_mem among_items)) rfl
        · obtain ⟨answer', filtered, self'⟩ := List.mem_map.mp succeeded
          obtain ⟨among', success⟩ := List.mem_filter.mp filtered
          have one := single among among' (self.trans self'.symm)
          exact failed forgets (one ▸ of_decide_eq_true success)
      · exact fits.later_ne oldest among_items later same
    · exact none answer.1.1 (fits.held _ (added among_items))
  · rcases List.mem_append.mp (known ▸ member) with before | new
    · exact List.mem_append_left _ (after ▸ List.mem_append_left _ before)
    · rcases List.mem_append.mp new with among | later
      · obtain ⟨err, answer⟩ := exists_answer size among
        have success : err = .success := by
          by_contra error
          exact kept (g, err) answer (.inl error) (fits.clientIdOf_eq member)
        refine List.mem_append_left _ (after ▸ List.mem_append_right _ ?_)
        exact List.mem_map.mpr ⟨(g, err), List.mem_filter.mpr ⟨answer, decide_eq_true success⟩, rfl⟩
      · exact List.mem_append_right _ later
  · have known_sessions : a.hasUnknown = false :=
      List.any_eq_false.mpr fun item among zero => (fits.fresh item (added among)).1 (of_decide_eq_true zero)
    have unknown := fits.unknown
    rw [countP_of_cons oldest, known_sessions] at unknown
    exact (length_unknown_answered size).trans unknown

/-- Another answer leaves what exists, but for what a removal removes. -/
theorem Fits.answer_other (fits : Fits s) (oldest : s.outstanding = a :: rest) (size : errs.length = a.items.length)
    (other : a.msgId ≠ .E_LOCAPI_ADD_GEOFENCES_MSG_ID) (may : MayAnswer s a rest errs) :
    Fits (step order s (.answer errs)) := by
  have known : s.known = s.existing ++ rest.flatMap Asked.adds := by
    rw [known_of_cons oldest, Asked.adds, if_neg other, List.nil_append]
  have fewer : (existingAfter s.existing a errs).Sublist s.existing := by
    rw [existingAfter, if_neg other]
    split
    · exact List.filter_sublist
    · exact List.Sublist.refl _
  refine fits.answer oldest size (known ▸ fewer.append_right _) (fun g member => ⟨?_, fun kept => ?_⟩) ?_
  · rintro stays answer among forgets forgotten
    rcases fits.session_of_forgotten member forgotten with same | ⟨none, zero⟩
    · rcases List.mem_append.mp stays with exists' | later
      · have success := may.succeeds answer among ⟨g.1, same ▸ fewer.subset exists'⟩
        have removal := forgets.resolve_left fun error => error success
        rw [existingAfter, if_neg other, if_pos removal] at exists'
        have untouched := List.all_eq_true.mp (List.mem_filter.mp exists').2 answer among
        exact of_decide_eq_true untouched ⟨success, same⟩
      · exact fits.later_ne oldest (mem_items_of_mem_answers among) later same
    · have member : (0, g.2) ∈ s.known := zero ▸ member
      exact may.zero answer among forgets none g.2 member
  · rcases List.mem_append.mp (known ▸ member) with before | later
    · refine List.mem_append_left _ ?_
      rw [existingAfter, if_neg other]
      split
      · next removal =>
        refine List.mem_filter.mpr ⟨before, List.all_eq_true.mpr fun answer among => decide_eq_true fun gone => ?_⟩
        exact kept answer among (.inr removal) (gone.2 ▸ fits.clientIdOf_eq member)
      · exact before
    · exact List.mem_append_right _ later
  · have unknown := fits.unknown
    rw [countP_of_cons oldest] at unknown
    by_cases named : a.hasUnknown = true
    · rw [if_pos named] at unknown
      rcases may.forgets named with ⟨answer, among, zero, forgets⟩ | spare
      · exact (length_unknown_answered_of_forgets size among zero forgets).trans (by omega)
      · exact (length_unknown_answered size).trans spare
    · rw [if_neg named] at unknown
      exact (length_unknown_answered size).trans unknown

end Answers

section Runs

variable {order} {s : Fences}

/-- An addition that fails only forgets the identifiers of the last one. -/
theorem Fits.addGeofences_of_failed {gfPayload : List GeofencePayload} (fits : Fits s)
    (few : ¬ gfPayload.length > MAX_GEOFENCE_COUNT) (called : gfPayload.length > 0 ∧ s.h.mLocationApi = true) :
    Fits (step order s (.addGeofences gfPayload none)) := by
  have after : step order s (.addGeofences gfPayload none) = { s with h := { s.h with mGeofenceIds := none } } := by
    simp only [step, Emit.next, Emit.emitted, addGeofencesHandler_of_failed few called, calls, List.filterMap_cons,
      Option.map_none, List.filterMap_nil, List.flatMap_nil, List.append_nil]
  rw [after]
  exact ⟨fits.sender, fun _ => rfl, fits.pending, fits.nonempty, fits.held, fits.only, fits.fresh, fits.distinct,
    fits.asked, fits.order, fits.unknown⟩

theorem Fits.step (fits : Fits s) {e : FenceEvent} (proper : Proper s e) (may : MayStep s e) :
    Fits (step order s e) := by
  cases e with
  | addGeofences gfPayload ids =>
    by_cases many : gfPayload.length > MAX_GEOFENCE_COUNT
    · rwa [step_addGeofences_of_silent order (addGeofencesHandler_of_many many)]
    · by_cases called : gfPayload.length > 0 ∧ s.h.mLocationApi = true
      · cases ids with
        | none => exact fits.addGeofences_of_failed many called
        | some sessions => exact fits.addGeofences order (List.length_pos_iff.mp called.1) many called.2 proper
      · have unset : s.h.mGeofenceIds = none := by
          by_cases empty : gfPayload = []
          · exact may empty
          · exact fits.unset (Bool.eq_false_of_not_eq_true fun api => called ⟨List.length_pos_iff.mpr empty, api⟩)
        rwa [step_addGeofences_of_silent order (addGeofencesHandler_of_uncalled called unset)]
  | ask call =>
    by_cases none : call.clientIds = []
    · rwa [step_ask_of_nil order none]
    · exact fits.ask order none may
  | answer errs =>
    cases oldest : s.outstanding with
    | nil =>
      have same : s.step order (.answer errs) = s := by rw [Fences.step, oldest]
      rwa [same]
    | cons a rest =>
      have size := proper a (oldest ▸ rfl)
      by_cases addition : a.msgId = .E_LOCAPI_ADD_GEOFENCES_MSG_ID
      · exact fits.answer_add oldest size addition
      · exact fits.answer_other oldest size addition (may a rest oldest addition)

end Runs

end Fences

end Cypfr.HalDaemon
