import Cypfr.Model.ClientSession
import Cypfr.Proofs.BiDict

/-! # What the calls for sessions do

Each call either does nothing or queues one request of its kind, issues its operations and files the session it
leaves. An answer takes the request that comes next, if its session is known.
-/

namespace Cypfr.ClientBase

open Tracking Batching

/-- The kinds of calls. -/
inductive RequestKind where
  | start
  | stop
  | update
  | getBatched
deriving DecidableEq

def RequestType.kind : RequestType → RequestKind
  | .startTracking | .startBatching => .start
  | .stopTracking | .stopBatching => .stop
  | .updateTrackingOptions | .updateBatchingOptions => .update
  | .getBatchedLocations => .getBatched

def ResponseCallback.kind : ResponseCallback → RequestKind
  | .onStartTrackingCb _ | .onStartBatchingCb _ => .start
  | .onStopTrackingCb _ | .onStopBatchingCb _ => .stop
  | .onUpdateTrackingOptionsCb _ | .onUpdateBatchingOptionsCb _ => .update
  | .onGetBatchedLocationsCb _ => .getBatched

def LocationCall.session : LocationCall → UInt32
  | .startTracking session _ | .stopTracking session | .updateTrackingOptions session _ | .startBatching session _
  | .stopBatching session | .updateBatchingOptions session _ | .getBatchedLocations session _ => session

/-- Whether an operation stops its session. -/
def LocationCall.stops : LocationCall → Bool
  | .stopTracking _ | .stopBatching _ => true
  | _ => false

/-- The session of an entity, by its mode. -/
def SessionEntity.session (entity : SessionEntity) : UInt32 :=
  if entity.sessionMode ≠ sessionModeOnFix then entity.batchingSession else entity.trackingSession

namespace BiDict

variable {T : Type} {d : BiDict T} {id other session newSession : UInt32} {ext : T}

theorem Bijection.rmById_eq (bijection : d.Bijection) (known : d.forwardMap.find? id = some session) :
    d.rmById id = d.rmBySession session := by
  rw [rmBySession_of_find? ((bijection.inverse id session).mp known), rmById, subscript, known]

/-- The pair of an identifier is replaced by one with a session that is not in use. -/
theorem Bijection.replace (bijection : d.Bijection) (known : d.forwardMap.find? id = some session)
    (free : newSession = session ∨ newSession ∉ d.backwardMap) : ((d.rmById id).set id newSession ext).Bijection := by
  have back := (bijection.inverse id session).mp known
  have removed := bijection.rmBySession back
  rw [bijection.rmById_eq known]
  rw [rmBySession_of_find? back] at removed ⊢
  refine removed.set_new (fun member => ?_) fun member => ?_
  · exact (SortedMap.mem_erase.mp member).1 rfl
  · obtain ⟨different, member⟩ := SortedMap.mem_erase.mp member
    rcases free with same | free
    · exact different same
    · exact free member

theorem Bijection.backward_replace (bijection : d.Bijection) (known : d.forwardMap.find? id = some session) :
    ((d.rmById id).set id newSession ext).backwardMap.find? other =
      if other = newSession then some id else if other = session then none else d.backwardMap.find? other := by
  rw [backward_set, bijection.rmById_eq known, rmBySession_of_find? ((bijection.inverse id session).mp known),
    SortedMap.find?_erase]

theorem Bijection.ext_replace (bijection : d.Bijection) (known : d.forwardMap.find? id = some session) :
    ((d.rmById id).set id newSession ext).extMap.find? other =
      if other = newSession then some ext else if other = session then none else d.extMap.find? other := by
  rw [set, SortedMap.find?_insert, bijection.rmById_eq known,
    rmBySession_of_find? ((bijection.inverse id session).mp known), SortedMap.find?_erase]

end BiDict

/-- The dictionary is a bijection between identifiers and sessions that are not zero, and each entity has its own
session. -/
structure SessionClient.Filed (c : SessionClient) : Prop where
  bijection : c.sessionBiDict.Bijection
  nonzero : 0 ∉ c.sessionBiDict.backwardMap
  entities : ∀ session entity, c.sessionBiDict.extMap.find? session = some entity → entity.session = session

/-- A request of a kind is queued; the other queues stay as they are. -/
structure Queued (kind : RequestKind) (c c' : SessionClient) : Prop where
  pushed : ∃ type : RequestType, type.kind = kind ∧
    c'.requestSession.queue = c.requestSession.queue ++ [⟨c.allocated, type⟩]
  allocated : c'.allocated = c.allocated + 1
  tracking : c'.requestTracking = c.requestTracking
  niResponse : c'.requestNiResponse = c.requestNiResponse

/-- What a call for an identifier does and the operations it issues. -/
inductive Called (id newSession : UInt32) (c c' : SessionClient) : RequestKind → List LocationCall → Prop
  | refused {kind : RequestKind} (same : c' = c) : Called id newSession c c' kind []
  | opened {entity : SessionEntity} {call : LocationCall} (queued : Queued .start c c')
      (unknown : id ∉ c.sessionBiDict.forwardMap)
      (filed : c'.sessionBiDict = c.sessionBiDict.set id newSession entity) (own : entity.session = newSession)
      (about : call.session = newSession) (goes : call.stops = false) : Called id newSession c c' .start [call]
  | used {kind : RequestKind} {session : UInt32} {call : LocationCall} (queued : Queued kind c c')
      (notUpdate : kind ≠ .update) (known : c.sessionBiDict.forwardMap.find? id = some session)
      (same : c'.sessionBiDict = c.sessionBiDict) (about : call.session = session) : Called id newSession c c' kind [call]
  | updated {entity : SessionEntity} {session : UInt32} {call : LocationCall} (queued : Queued .update c c')
      (known : c.sessionBiDict.forwardMap.find? id = some session)
      (filed : c'.sessionBiDict = (c.sessionBiDict.rmById id).set id session entity) (own : entity.session = session)
      (about : call.session = session) (goes : call.stops = false) : Called id newSession c c' .update [call]
  | switched {entity : SessionEntity} {session : UInt32} {stop start : LocationCall} (queued : Queued .update c c')
      (known : c.sessionBiDict.forwardMap.find? id = some session)
      (filed : c'.sessionBiDict = (c.sessionBiDict.rmById id).set id newSession entity)
      (own : entity.session = newSession) (aboutStop : stop.session = session) (stops : stop.stops = true)
      (aboutStart : start.session = newSession) (goes : start.stops = false) :
      Called id newSession c c' .update [stop, start]

section Calls

variable {c : SessionClient} (id newSession sessionMode : UInt32) (options : TrackingOptions)

theorem locAPIStartSession_called :
    Called id newSession c ((locAPIStartSession id sessionMode options newSession).next c)
    .start ((locAPIStartSession id sessionMode options newSession).emitted c) := by
  rw [locAPIStartSession, Emit.next_get_bind, Emit.emitted_get_bind]
  cases c.hasLocationAPI with
  | false => exact .refused rfl
  | true =>
    cases has : c.sessionBiDict.hasId id with
    | true => exact .refused rfl
    | false =>
      have unknown := SortedMap.contains_eq_false_iff.mp has
      by_cases mode : sessionMode = sessionModeOnFix
      · rw [if_pos mode]
        refine .opened ⟨⟨.startTracking, rfl, rfl⟩, rfl, rfl, rfl⟩ unknown
          (show _ = c.sessionBiDict.set id newSession ⟨id, newSession, 0, sessionMode⟩ from rfl) ?_ rfl rfl
        exact if_neg fun different => different mode
      · rw [if_neg mode]
        refine .opened ⟨⟨.startBatching, rfl, rfl⟩, rfl, rfl, rfl⟩ unknown
          (show _ = c.sessionBiDict.set id newSession ⟨id, 0, newSession, sessionMode⟩ from rfl) ?_ rfl rfl
        exact if_pos mode

/-- The entity of an identifier that is known. -/
theorem getExtById_of_known (filed : c.Filed) (has : c.sessionBiDict.hasId id = true) :
    ∃ session entity, c.sessionBiDict.forwardMap.find? id = some session ∧ entity.session = session ∧
      (getExtById id).result c = entity ∧ (getExtById id).next c = c ∧ (getExtById id).emitted c = [] := by
  obtain ⟨session, known⟩ := SortedMap.mem_iff_find?.mp (SortedMap.contains_iff.mp has)
  have back := (filed.bijection.inverse id session).mp known
  have member : session ∈ c.sessionBiDict.backwardMap := SortedMap.mem_iff_find?.mpr ⟨id, back⟩
  obtain ⟨entity, ext⟩ := SortedMap.mem_iff_find?.mp ((filed.bijection.sameSessions session).mpr member)
  have positive : session > 0 := by
    refine lt_of_le_of_ne (UInt32.le_iff_toNat_le.mpr (Nat.zero_le _)) fun zero => filed.nonzero ?_
    rwa [zero]
  have found : c.sessionBiDict.getExtById id = (entity, c.sessionBiDict) := by
    rw [BiDict.getExtById, subscript, known]
    exact Prod.ext ((if_pos positive).trans (by rw [ext]; rfl)) rfl
  refine ⟨session, entity, known, filed.entities session entity ext, ?_, ?_, rfl⟩
  · exact congrArg Prod.fst found
  · exact congrArg (fun dict => { c with sessionBiDict := dict }) (congrArg Prod.snd found)

theorem locAPIStopSession_called (filed : c.Filed) :
    Called id newSession c ((locAPIStopSession id).next c) .stop ((locAPIStopSession id).emitted c) := by
  rw [locAPIStopSession, Emit.next_get_bind, Emit.emitted_get_bind]
  cases c.hasLocationAPI with
  | false => exact .refused rfl
  | true =>
    cases has : c.sessionBiDict.hasId id with
    | false => exact .refused rfl
    | true =>
      obtain ⟨session, entity, known, own, result, next, emitted⟩ := getExtById_of_known id filed has
      simp only [Bool.not_true, if_true, Bool.false_eq_true, if_false, Emit.next_bind, Emit.emitted_bind, result, next,
        emitted, List.nil_append]
      by_cases mode : entity.sessionMode = sessionModeOnFix
      · rw [if_pos mode]
        refine .used ⟨⟨.stopTracking, rfl, rfl⟩, rfl, rfl, rfl⟩ (by rintro ⟨⟩) known rfl (Eq.trans ?_ own)
        exact (if_neg fun different => different mode).symm
      · rw [if_neg mode]
        refine .used ⟨⟨.stopBatching, rfl, rfl⟩, rfl, rfl, rfl⟩ (by rintro ⟨⟩) known rfl (Eq.trans ?_ own)
        exact (if_pos mode).symm

theorem locAPIGetBatchedLocations_called (filed : c.Filed) (count : ℕ) :
    Called id newSession c ((locAPIGetBatchedLocations id count).next c) .getBatched
      ((locAPIGetBatchedLocations id count).emitted c) := by
  rw [locAPIGetBatchedLocations, Emit.next_get_bind, Emit.emitted_get_bind]
  cases c.hasLocationAPI with
  | false => exact .refused rfl
  | true =>
    cases has : c.sessionBiDict.hasId id with
    | false => exact .refused rfl
    | true =>
      obtain ⟨session, entity, known, own, result, next, emitted⟩ := getExtById_of_known id filed has
      simp only [Bool.not_true, if_true, Bool.false_eq_true, if_false, Emit.next_bind, Emit.emitted_bind, result, next,
        emitted, List.nil_append]
      by_cases mode : entity.sessionMode = sessionModeOnFix
      · rw [if_neg fun different => different mode]
        exact .refused rfl
      · rw [if_pos mode]
        refine .used ⟨⟨.getBatchedLocations, rfl, rfl⟩, rfl, rfl, rfl⟩ (by rintro ⟨⟩) known rfl (Eq.trans ?_ own)
        exact (if_pos mode).symm

theorem locAPIUpdateSessionOptions_called (filed : c.Filed) :
    Called id newSession c ((locAPIUpdateSessionOptions id sessionMode options newSession).next c) .update
      ((locAPIUpdateSessionOptions id sessionMode options newSession).emitted c) := by
  rw [locAPIUpdateSessionOptions, Emit.next_get_bind, Emit.emitted_get_bind]
  cases c.hasLocationAPI with
  | false => exact .refused rfl
  | true =>
    cases has : c.sessionBiDict.hasId id with
    | false => exact .refused rfl
    | true =>
      obtain ⟨session, entity, known, own, result, next, emitted⟩ := getExtById_of_known id filed has
      simp only [Bool.not_true, if_true, Bool.false_eq_true, if_false, Emit.next_bind, Emit.emitted_bind, result, next,
        emitted, List.nil_append, updateOperations]
      by_cases mode : sessionMode = sessionModeOnFix
      · have after : ¬ sessionMode ≠ sessionModeOnFix := fun different => different mode
        simp only [if_pos mode, if_neg after]
        by_cases old : entity.sessionMode = sessionModeOnFix
        · rw [SessionEntity.session, if_neg fun different => different old] at own
          cases own
          simp only [if_pos old]
          exact .updated ⟨⟨.updateTrackingOptions, rfl, rfl⟩, rfl, rfl, rfl⟩ known
            (show _ = (c.sessionBiDict.rmById id).set id _
              ⟨entity.id, entity.trackingSession, entity.batchingSession, sessionMode⟩ from rfl) (if_neg after) rfl rfl
        · rw [SessionEntity.session, if_pos old] at own
          simp only [if_neg old]
          exact .switched ⟨⟨.updateTrackingOptions, rfl, rfl⟩, rfl, rfl, rfl⟩ known
            (show _ = (c.sessionBiDict.rmById id).set id newSession ⟨entity.id, newSession, 0, sessionMode⟩ from rfl)
            (if_neg after) own rfl rfl rfl
      · simp only [if_neg mode, if_pos (show sessionMode ≠ sessionModeOnFix from mode)]
        by_cases old : entity.sessionMode = sessionModeOnFix
        · rw [SessionEntity.session, if_neg fun different => different old] at own
          simp only [if_pos old]
          exact .switched ⟨⟨.updateBatchingOptions, rfl, rfl⟩, rfl, rfl, rfl⟩ known
            (show _ = (c.sessionBiDict.rmById id).set id newSession ⟨entity.id, 0, newSession, sessionMode⟩ from rfl)
            (if_pos mode) own rfl rfl rfl
        · rw [SessionEntity.session, if_pos old] at own
          cases own
          simp only [if_neg old]
          exact .updated ⟨⟨.updateBatchingOptions, rfl, rfl⟩, rfl, rfl, rfl⟩ known
            (show _ = (c.sessionBiDict.rmById id).set id _
              ⟨entity.id, entity.trackingSession, entity.batchingSession, sessionMode⟩ from rfl) (if_pos mode) rfl rfl

end Calls

section Answers

variable {c : SessionClient} {request : Option LocationAPIRequest} {error : LocationError} {session : UInt32}

/-- While no other call waits, the request of a known session is the first of the queue. -/
theorem getRequestBySession_of_empty (session : UInt32) (tracking : c.requestTracking.queue = [])
    (niResponse : c.requestNiResponse.queue = []) : getRequestBySession session c =
      if c.sessionBiDict.hasSession session then
        (c.requestSession.queue.head?, { c with requestSession := c.requestSession.pop.2 }, [])
      else (none, c, []) := by
  obtain ⟨hasLocationAPI, ⟨first, firstQueue⟩, asked, ⟨second, secondQueue⟩, dict, allocated⟩ := c
  obtain rfl : firstQueue = [] := tracking
  obtain rfl : secondQueue = [] := niResponse
  rw [getRequestBySession, Emit.get_bind_apply]
  cases known : dict.hasSession session <;> by_cases isFirst : first = session <;>
    by_cases isSecond : second = session <;> simp only [isFirst, isSecond] <;> rfl

/-- A request tells the client once, in its own kind. -/
theorem respond_callbacks : ((respond request error session).emitted c).map ResponseCallback.kind =
    request.toList.map fun request => request.type.kind := by
  cases request with
  | none => rfl
  | some request =>
    obtain ⟨number, type⟩ := request
    cases type <;> cases error <;> rfl

theorem onResponse_next {request : LocationAPIRequest} : (request.onResponse error session).next c =
    if request.type.kind = .start ∧ error ≠ .success ∨ request.type.kind = .stop ∧ error = .success then
      (removeSession session).next c
    else c := by
  obtain ⟨number, type⟩ := request
  cases type <;> cases error <;> rfl

/-- A session is removed by a start that failed or a stop that succeeded. -/
theorem respond_cases (request : Option LocationAPIRequest) (error : LocationError) (session : UInt32) :
    (respond request error session).next c = c ∨
    c.sessionBiDict.hasSession session = true ∧
      (respond request error session).next c = { c with sessionBiDict := c.sessionBiDict.rmBySession session } ∧
      ∃ asked, request = some asked ∧
        (asked.type.kind = .start ∧ error ≠ .success ∨ asked.type.kind = .stop ∧ error = .success) := by
  cases request with
  | none => exact .inl rfl
  | some asked =>
    rw [respond, onResponse_next, removeSession, Emit.next_modify]
    split_ifs with removes known
    · exact .inr ⟨known, rfl, asked, rfl, removes⟩
    · exact .inl rfl
    · exact .inl rfl

end Answers

end Cypfr.ClientBase
