import Cypfr.Machine.Run
import Cypfr.Proofs.ClientSession

/-! # Answers and requests over a run

The location API answers the operations of one session in order, those of different sessions in any order. An
answer reaches the request it belongs to exactly as long as the answers come in the order of the calls, by their
kinds, and each while its session is known.
-/

namespace Cypfr.ClientBase

open Machine Tracking

/-- An operation the location API has not answered: the identifier and the kind of the call that issued it, and
whether the request of the call waits for it. An update that stops a session and starts another has its request
wait for the start. -/
structure Operation where
  id : UInt32
  session : UInt32
  kind : RequestKind
  own : Bool
deriving DecidableEq

/-- The callback an answer should reach. -/
def Operation.expected (op : Operation) : Option RequestKind := if op.own then some op.kind else none

/-- An answer with the request it took. -/
structure Answer where
  operation : Operation
  error : LocationError
  request : Option LocationAPIRequest

/-- What was done about an answer: the callbacks and the pairs that left the dictionary. -/
structure Report where
  answer : Answer
  callbacks : List ResponseCallback
  removed : List (UInt32 × UInt32)

/-- A client and its location API: the operations under way, those with a request of their own ever issued, and
the answers ever given, under way and done. -/
structure Exchange where
  client : SessionClient
  operations : List Operation
  issued : List Operation
  answers : List Answer
  responding : List Answer
  reports : List Report

/-- The calls of a client, with the session the location API returns if it is asked to start one, the answers to
the first operation of a session, and what follows on an answer. -/
inductive SessionEvent where
  | startSession (id sessionMode : UInt32) (options : TrackingOptions) (newSession : UInt32)
  | updateSessionOptions (id sessionMode : UInt32) (options : TrackingOptions) (newSession : UInt32)
  | stopSession (id : UInt32)
  | getBatchedLocations (id : UInt32) (count : ℕ)
  | answer (session : UInt32) (error : LocationError)
  | respond (index : ℕ)

/-- The operation of a call of a kind for an identifier. -/
def operationOf (id : UInt32) (kind : RequestKind) (call : LocationCall) : Operation :=
  ⟨id, call.session, kind, !(kind = .update && call.stops)⟩

/-- The pairs of one dictionary that are not in another. -/
def lost (before after : BiDict SessionEntity) : List (UInt32 × UInt32) :=
  before.forwardMap.entries.filter fun entry => entry ∉ after.forwardMap.entries

namespace Exchange

variable {x : Exchange} {e : SessionEvent}

def start (hasLocationAPI : Bool) : Exchange := ⟨.initial hasLocationAPI, [], [], [], [], []⟩

/-- A call of a kind for an identifier. -/
def called (x : Exchange) (id : UInt32) (kind : RequestKind) (p : SessionM LocationError) : Exchange :=
  let operations := (p.emitted x.client).map (operationOf id kind)
  { x with
    client := p.next x.client
    operations := x.operations ++ operations
    issued := x.issued ++ operations.filter (·.own) }

/-- The request of an answer is taken. -/
def answered (x : Exchange) (op : Operation) (error : LocationError) : Exchange :=
  let answer : Answer := ⟨op, error, (getRequestBySession op.session).result x.client⟩
  { x with
    client := (getRequestBySession op.session).next x.client
    operations := x.operations.erase op
    answers := x.answers ++ [answer]
    responding := x.responding ++ [answer] }

/-- The request that an answer took has its way. -/
def responded (x : Exchange) (index : ℕ) (answer : Answer) : Exchange :=
  let response := ClientBase.respond answer.request answer.error answer.operation.session
  { x with
    client := response.next x.client
    responding := x.responding.eraseIdx index
    reports := x.reports ++ [⟨answer, response.emitted x.client,
      lost x.client.sessionBiDict (response.next x.client).sessionBiDict⟩] }

/-- One event of a run. -/
def step (x : Exchange) : SessionEvent → Exchange
  | .startSession id mode options newSession => x.called id .start (locAPIStartSession id mode options newSession)
  | .updateSessionOptions id mode options newSession =>
    x.called id .update (locAPIUpdateSessionOptions id mode options newSession)
  | .stopSession id => x.called id .stop (locAPIStopSession id)
  | .getBatchedLocations id count => x.called id .getBatched (locAPIGetBatchedLocations id count)
  | .answer session error =>
    match x.operations.find? fun op => op.session = session with
    | some op => x.answered op error
    | none => x
  | .respond index =>
    match x.responding[index]? with
    | some answer => x.responded index answer
    | none => x

/-- The operations that are not yet done with. -/
def pending (x : Exchange) : List Operation := x.operations ++ x.responding.map Answer.operation

/-- A session that is not in use. -/
structure Unused (x : Exchange) (session : UInt32) : Prop where
  nonzero : session ≠ 0
  unknown : session ∉ x.client.sessionBiDict.backwardMap
  free : ∀ op ∈ x.pending, op.session ≠ session

/-- The location API returns sessions that are not in use. -/
def ReturnsUnused (x : Exchange) : SessionEvent → Prop
  | .startSession _ _ _ newSession => x.Unused newSession
  | .updateSessionOptions _ _ _ newSession => x.Unused newSession
  | _ => True

/-- The requests that answers took. -/
def consumed (x : Exchange) : List LocationAPIRequest := x.answers.filterMap Answer.request

/-- Every answer takes a request of its own kind, or none when it has none, the client is told in that kind, no
request is taken twice, and what leaves the dictionary is the pair of a start that failed or a stop that succeeded. -/
structure ReachesOwn (x : Exchange) : Prop where
  taken : ∀ answer ∈ x.answers, answer.request.map (fun request => request.type.kind) = answer.operation.expected
  told : ∀ report ∈ x.reports,
    report.callbacks.map ResponseCallback.kind = report.answer.operation.expected.toList
  once : (x.consumed.map LocationAPIRequest.number).Nodup
  removed : ∀ report ∈ x.reports, ∀ pair ∈ report.removed,
    pair = (report.answer.operation.id, report.answer.operation.session) ∧
      (report.answer.operation.expected = some .start ∧ report.answer.error ≠ .success ∨
        report.answer.operation.expected = some .stop ∧ report.answer.error = .success)

/-- An answer with a request of its own comes while its session is known and is, by its kind, the next in the
order of the calls. -/
def InOrder (x : Exchange) : SessionEvent → Prop
  | .answer session _ => ∀ op, x.operations.find? (fun op => op.session = session) = some op → op.own →
      x.client.sessionBiDict.hasSession session ∧
        x.issued[(x.answers.filter (·.operation.own)).length]?.map Operation.kind = some op.kind
  | _ => True

/-- What holds in every run: the dictionary is in order, knows the session of an operation only under the
identifier of its call, and the requests are taken in the order in which they were queued. -/
structure Orderly (x : Exchange) : Prop where
  filed : x.client.Filed
  tracking : x.client.requestTracking.queue = []
  niResponse : x.client.requestNiResponse.queue = []
  owner : ∀ op ∈ x.pending, ∀ id, x.client.sessionBiDict.backwardMap.find? op.session = some id →
    id = op.id ∧ op.own = true
  numbers : (x.consumed ++ x.client.requestSession.queue).map LocationAPIRequest.number =
    List.range x.client.allocated
  kinds : (x.consumed ++ x.client.requestSession.queue).map (fun request => request.type.kind) =
    x.issued.map Operation.kind
  underWay : ∀ answer ∈ x.responding, answer ∈ x.answers
  done : ∀ report ∈ x.reports, report.answer ∈ x.answers ∧
    report.callbacks.map ResponseCallback.kind = report.answer.request.toList.map fun request => request.type.kind

end Exchange

section Dictionary

variable {c c' : SessionClient} {id newSession session : UInt32} {kind : RequestKind} {calls : List LocationCall}
  {entity : SessionEntity}

theorem SessionClient.Filed.of_same (filed : c.Filed) (same : c'.sessionBiDict = c.sessionBiDict) : c'.Filed := by
  constructor
  · rw [same]
    exact filed.bijection
  · rw [same]
    exact filed.nonzero
  · rw [same]
    exact filed.entities

/-- A session that is started under an identifier that is not known. -/
theorem SessionClient.Filed.opened (filed : c.Filed) (unknown : id ∉ c.sessionBiDict.forwardMap)
    (dict : c'.sessionBiDict = c.sessionBiDict.set id newSession entity) (own : entity.session = newSession)
    (nonzero : newSession ≠ 0) (unused : newSession ∉ c.sessionBiDict.backwardMap) : c'.Filed := by
  refine ⟨?_, ?_, fun session other found => ?_⟩
  · rw [dict]
    exact filed.bijection.set_new unknown unused
  · rw [dict, BiDict.set, SortedMap.mem_insert, not_or]
    exact ⟨nonzero.symm, filed.nonzero⟩
  · rw [dict, BiDict.set, SortedMap.find?_insert] at found
    split_ifs at found with same
    · cases found
      rw [own, same]
    · exact filed.entities session other found

/-- A session that takes the place of one. -/
theorem SessionClient.Filed.replaced (filed : c.Filed) (known : c.sessionBiDict.forwardMap.find? id = some session)
    (dict : c'.sessionBiDict = (c.sessionBiDict.rmById id).set id newSession entity) (own : entity.session = newSession)
    (nonzero : newSession ≠ 0) (free : newSession = session ∨ newSession ∉ c.sessionBiDict.backwardMap) : c'.Filed := by
  refine ⟨?_, ?_, fun other entity' found => ?_⟩
  · rw [dict]
    exact filed.bijection.replace known free
  · rw [dict, ← SortedMap.find?_eq_none_iff, filed.bijection.backward_replace known, if_neg nonzero.symm,
      SortedMap.find?_eq_none_iff.mpr filed.nonzero, ite_self]
  · rw [dict, filed.bijection.ext_replace known] at found
    split_ifs at found with same
    · cases found
      rw [own, same]
    · exact filed.entities other entity' found

theorem SessionClient.Filed.nonzero_of_known (filed : c.Filed)
    (known : c.sessionBiDict.forwardMap.find? id = some session) : session ≠ 0 := by
  rintro rfl
  exact filed.nonzero (SortedMap.mem_iff_find?.mpr ⟨id, (filed.bijection.inverse id 0).mp known⟩)

/-- A session is known no longer. -/
theorem SessionClient.Filed.removed (filed : c.Filed) (known : c.sessionBiDict.backwardMap.find? session = some id)
    (dict : c'.sessionBiDict = c.sessionBiDict.rmBySession session) : c'.Filed := by
  refine ⟨?_, ?_, fun other entity' found => ?_⟩
  · rw [dict]
    exact filed.bijection.rmBySession known
  · rw [dict, BiDict.rmBySession_of_find? known, SortedMap.mem_erase]
    exact fun member => filed.nonzero member.2
  · rw [dict, BiDict.rmBySession_of_find? known, SortedMap.find?_erase] at found
    split_ifs at found
    exact filed.entities other entity' found

/-- A session that a call starts is neither zero nor in use. -/
def Fresh (c : SessionClient) (newSession : UInt32) (kind : RequestKind) : Prop :=
  kind = .start ∨ kind = .update → newSession ≠ 0 ∧ newSession ∉ c.sessionBiDict.backwardMap

theorem Called.filed (called : Called id newSession c c' kind calls) (filed : c.Filed)
    (fresh : Fresh c newSession kind) :
    c'.Filed := by
  cases called with
  | refused same => rwa [same]
  | opened _ unknown dict own =>
    obtain ⟨nonzero, unused⟩ := fresh (.inl rfl)
    exact filed.opened unknown dict own nonzero unused
  | used _ _ _ same => exact filed.of_same same
  | updated _ known dict own => exact filed.replaced known dict own (filed.nonzero_of_known known) (.inl rfl)
  | switched _ known dict own =>
    obtain ⟨nonzero, unused⟩ := fresh (.inr rfl)
    exact filed.replaced known dict own nonzero (.inr unused)

/-- A call makes no session known but the one it starts. -/
theorem Called.backward_old (called : Called id newSession c c' kind calls) (filed : c.Filed) {other known : UInt32}
    (old : kind = .start ∨ kind = .update → other ≠ newSession) (after : c'.sessionBiDict.backwardMap.find? other =
    some known) :
    c.sessionBiDict.backwardMap.find? other = some known := by
  cases called with
  | refused same => rwa [same] at after
  | opened _ _ dict =>
    rw [dict, BiDict.backward_set, if_neg (old (.inl rfl))] at after
    exact after
  | used _ _ _ same => rwa [same] at after
  | updated _ known dict =>
    rw [dict, filed.bijection.backward_replace known] at after
    split_ifs at after with same
    · rw [same, (filed.bijection.inverse _ _).mp known, after]
    · exact after
  | switched _ known dict =>
    rw [dict, filed.bijection.backward_replace known, if_neg (old (.inr rfl))] at after
    split_ifs at after
    exact after

/-- The operations of a call are about its identifier; a session it stops to start another is known no longer. -/
theorem Called.owner (called : Called id newSession c c' kind calls) (filed : c.Filed)
    (fresh : Fresh c newSession kind) :
    ∀ op ∈ calls.map (operationOf id kind), ∀ known, c'.sessionBiDict.backwardMap.find? op.session = some known →
      known = op.id ∧ op.own = true := by
  intro op member other after
  cases called with
  | refused => exact absurd member List.not_mem_nil
  | opened _ _ dict _ about =>
    cases List.mem_singleton.mp member
    rw [operationOf, about, dict, BiDict.backward_set, if_pos rfl] at after
    exact ⟨(Option.some.inj after).symm, rfl⟩
  | used _ notUpdate known same about =>
    cases List.mem_singleton.mp member
    rw [operationOf, about, same, (filed.bijection.inverse _ _).mp known] at after
    exact ⟨(Option.some.inj after).symm, by simp [operationOf, notUpdate]⟩
  | updated _ _ dict _ about goes =>
    cases List.mem_singleton.mp member
    rw [operationOf, about, dict, BiDict.backward_set, if_pos rfl] at after
    exact ⟨(Option.some.inj after).symm, by simp [operationOf, goes]⟩
  | switched _ known dict _ aboutStop _ aboutStart goes =>
    rcases List.mem_cons.mp member with same | member
    · cases same
      have back := (filed.bijection.inverse _ _).mp known
      rw [operationOf, aboutStop, dict, filed.bijection.backward_replace known, if_neg, if_pos rfl] at after
      · cases after
      · rintro rfl
        exact (fresh (.inr rfl)).2 (SortedMap.mem_iff_find?.mpr ⟨id, back⟩)
    · cases List.mem_singleton.mp member
      rw [operationOf, aboutStart, dict, BiDict.backward_set, if_pos rfl] at after
      exact ⟨(Option.some.inj after).symm, by simp [operationOf, goes]⟩

/-- A call that is not refused queues one request and has it wait for one operation. -/
theorem Called.queued (called : Called id newSession c c' kind calls) : c' = c ∧ calls = [] ∨
    Queued kind c c' ∧ ((calls.map (operationOf id kind)).filter (·.own)).map Operation.kind = [kind] := by
  cases called with
  | refused same => exact .inl ⟨same, rfl⟩
  | opened queued => exact .inr ⟨queued, rfl⟩
  | used queued notUpdate => exact .inr ⟨queued, by simp [operationOf, notUpdate]⟩
  | updated queued _ _ _ _ goes => exact .inr ⟨queued, by simp [operationOf, goes]⟩
  | switched queued _ _ _ _ stops _ goes => exact .inr ⟨queued, by simp [operationOf, stops, goes]⟩

end Dictionary

/-- A response leaves the queues as they are. -/
theorem respond_same {c : SessionClient} (request : Option LocationAPIRequest) (error : LocationError)
    (session : UInt32) :
    let after := (respond request error session).next c
    after.requestTracking = c.requestTracking ∧ after.requestSession = c.requestSession ∧
      after.requestNiResponse = c.requestNiResponse ∧ after.allocated = c.allocated := by
  rcases respond_cases (c := c) request error session with same | ⟨-, removed, -⟩
  · rw [same]
    exact ⟨rfl, rfl, rfl, rfl⟩
  · rw [removed]
    exact ⟨rfl, rfl, rfl, rfl⟩

namespace Exchange

variable {x : Exchange} {e : SessionEvent} {id newSession : UInt32} {kind : RequestKind} {p : SessionM LocationError}

theorem orderly_start (hasLocationAPI : Bool) : (start hasLocationAPI).Orderly where
  filed := ⟨BiDict.bijection_empty, SortedMap.not_mem_empty, fun _ _ found => by cases found⟩
  tracking := rfl
  niResponse := rfl
  owner := fun _ member => absurd member List.not_mem_nil
  numbers := rfl
  kinds := rfl
  underWay := fun _ member => absurd member List.not_mem_nil
  done := fun _ member => absurd member List.not_mem_nil

theorem mem_pending_called {op : Operation} : op ∈ (x.called id kind p).pending ↔
    op ∈ x.pending ∨ op ∈ (p.emitted x.client).map (operationOf id kind) := by
  simp only [pending, called, List.mem_append]
  exact or_right_comm

theorem orderly_called (orderly : x.Orderly)
    (called : Called id newSession x.client (p.next x.client) kind (p.emitted x.client))
    (fresh : kind = .start ∨ kind = .update → x.Unused newSession) : (x.called id kind p).Orderly := by
  have fresh' : Fresh x.client newSession kind := fun starts => ⟨(fresh starts).nonzero, (fresh starts).unknown⟩
  refine ⟨called.filed orderly.filed fresh', ?_, ?_, ?_, ?_, ?_, orderly.underWay, orderly.done⟩
  · rcases called.queued with ⟨same, -⟩ | ⟨queued, -⟩
    · exact (congrArg (fun c => c.requestTracking.queue) same).trans orderly.tracking
    · exact (congrArg RequestQueue.queue queued.tracking).trans orderly.tracking
  · rcases called.queued with ⟨same, -⟩ | ⟨queued, -⟩
    · exact (congrArg (fun c => c.requestNiResponse.queue) same).trans orderly.niResponse
    · exact (congrArg RequestQueue.queue queued.niResponse).trans orderly.niResponse
  · intro op member other after
    rcases mem_pending_called.mp member with old | new
    · exact orderly.owner op old other
        (called.backward_old orderly.filed (fun starts => (fresh starts).free op old) after)
    · exact called.owner orderly.filed fresh' op new other after
  · rcases called.queued with ⟨same, -⟩ | ⟨⟨⟨type, -, pushed⟩, allocated, -⟩, -⟩
    · exact (congrArg (fun c => (x.consumed ++ c.requestSession.queue).map LocationAPIRequest.number) same).trans
        (orderly.numbers.trans (congrArg (fun c : SessionClient => List.range c.allocated) same).symm)
    · change (x.consumed ++ (p.next x.client).requestSession.queue).map _ = List.range (p.next x.client).allocated
      rw [pushed, allocated, List.range_succ, ← List.append_assoc, List.map_append, orderly.numbers]
      rfl
  · rcases called.queued with ⟨same, none⟩ | ⟨⟨⟨type, isKind, pushed⟩, -⟩, own⟩
    · change (x.consumed ++ (p.next x.client).requestSession.queue).map _ =
        (x.issued ++ ((p.emitted x.client).map (operationOf id kind)).filter (·.own)).map _
      rw [same, none, orderly.kinds, List.map_nil, List.filter_nil, List.append_nil]
    · change (x.consumed ++ (p.next x.client).requestSession.queue).map _ =
        (x.issued ++ ((p.emitted x.client).map (operationOf id kind)).filter (·.own)).map _
      rw [pushed, ← List.append_assoc, List.map_append, orderly.kinds, List.map_append, own, ← isKind]
      rfl

theorem RequestQueue.pop_queue (q : RequestQueue) : q.pop.1.toList ++ q.pop.2.queue = q.queue := by
  obtain ⟨session, queue⟩ := q
  cases queue <;> rfl

/-- What taking the request of an answer does. -/
theorem take_cases (orderly : x.Orderly) (session : UInt32) :
    let taken := getRequestBySession session
    (taken.next x.client).sessionBiDict = x.client.sessionBiDict ∧
      (taken.next x.client).requestTracking = x.client.requestTracking ∧
      (taken.next x.client).requestNiResponse = x.client.requestNiResponse ∧
      (taken.next x.client).allocated = x.client.allocated ∧
      (taken.result x.client).toList ++ (taken.next x.client).requestSession.queue = x.client.requestSession.queue ∧
      taken.result x.client =
        if x.client.sessionBiDict.hasSession session then x.client.requestSession.queue.head? else none := by
  have spec := getRequestBySession_of_empty session orderly.tracking orderly.niResponse
  simp only [Emit.next, Emit.result, spec]
  split_ifs
  · refine ⟨rfl, rfl, rfl, rfl, ?_, rfl⟩
    exact RequestQueue.pop_queue _
  · exact ⟨rfl, rfl, rfl, rfl, rfl, rfl⟩

theorem consumed_answered (op : Operation) (error : LocationError) : (x.answered op error).consumed =
    x.consumed ++ ((getRequestBySession op.session).result x.client).toList := by
  rw [consumed, answered, List.filterMap_append]
  cases (getRequestBySession op.session).result x.client <;> rfl

theorem orderly_answered (orderly : x.Orderly) {op : Operation} (waits : op ∈ x.operations) (error : LocationError) :
    (x.answered op error).Orderly := by
  obtain ⟨dict, tracking, niResponse, allocated, queue, -⟩ := take_cases orderly op.session
  refine ⟨orderly.filed.of_same dict, ?_, ?_, ?_, ?_, ?_, ?_, ?_⟩
  · exact (congrArg RequestQueue.queue tracking).trans orderly.tracking
  · exact (congrArg RequestQueue.queue niResponse).trans orderly.niResponse
  · intro other member id known
    refine orderly.owner other ?_ id (dict ▸ known)
    rcases List.mem_append.mp member with open' | response
    · exact List.mem_append_left _ (List.mem_of_mem_erase open')
    · obtain ⟨answer, among, rfl⟩ := List.mem_map.mp response
      rcases List.mem_append.mp among with old | new
      · exact List.mem_append_right _ (List.mem_map_of_mem old)
      · cases List.mem_singleton.mp new
        exact List.mem_append_left _ waits
  · rw [consumed_answered]
    change (_ ++ ((getRequestBySession op.session).next x.client).requestSession.queue).map _ =
      List.range ((getRequestBySession op.session).next x.client).allocated
    rw [List.append_assoc, queue, allocated, orderly.numbers]
  · rw [consumed_answered]
    change (_ ++ ((getRequestBySession op.session).next x.client).requestSession.queue).map _ = x.issued.map _
    rw [List.append_assoc, queue, orderly.kinds]
  · intro answer member
    rcases List.mem_append.mp member with old | new
    · exact List.mem_append_left _ (orderly.underWay answer old)
    · exact List.mem_append_right _ new
  · exact fun report member => ⟨List.mem_append_left _ (orderly.done report member).1, (orderly.done report member).2⟩

theorem orderly_responded (orderly : x.Orderly) {index : ℕ} {answer : Answer}
    (waits : x.responding[index]? = some answer) : (x.responded index answer).Orderly := by
  have removes := respond_cases (c := x.client) answer.request answer.error answer.operation.session
  have pending : ∀ op ∈ (x.responded index answer).pending, op ∈ x.pending := by
    intro op member
    rcases List.mem_append.mp member with open' | response
    · exact List.mem_append_left _ open'
    · obtain ⟨other, among, rfl⟩ := List.mem_map.mp response
      exact List.mem_append_right _ (List.mem_map_of_mem (List.mem_of_mem_eraseIdx among))
  have done : ∀ report ∈ (x.responded index answer).reports, report.answer ∈ x.answers ∧
      report.callbacks.map ResponseCallback.kind =
        report.answer.request.toList.map fun request => request.type.kind := by
    intro report member
    rcases List.mem_append.mp member with old | new
    · exact orderly.done report old
    · cases List.mem_singleton.mp new
      exact ⟨orderly.underWay answer (List.mem_of_getElem? waits), respond_callbacks⟩
  obtain ⟨tracking, asked, niResponse, allocated⟩ := respond_same (c := x.client) answer.request answer.error
    answer.operation.session
  have dictionary : (x.responded index answer).client.Filed ∧
      ∀ session id, (x.responded index answer).client.sessionBiDict.backwardMap.find? session = some id →
        x.client.sessionBiDict.backwardMap.find? session = some id := by
    rcases removes with same | ⟨has, removed, -⟩
    · exact ⟨orderly.filed.of_same (congrArg SessionClient.sessionBiDict same), fun _ _ found => same ▸ found⟩
    · have dict : (x.responded index answer).client.sessionBiDict =
          x.client.sessionBiDict.rmBySession answer.operation.session := congrArg SessionClient.sessionBiDict removed
      obtain ⟨id, known⟩ := SortedMap.mem_iff_find?.mp (SortedMap.contains_iff.mp has)
      refine ⟨orderly.filed.removed known dict, fun session id found => ?_⟩
      rw [dict, BiDict.rmBySession_of_find? known, SortedMap.find?_erase] at found
      split_ifs at found
      exact found
  refine ⟨dictionary.1, ?_, ?_, ?_, ?_, ?_, fun other member =>
    orderly.underWay other (List.mem_of_mem_eraseIdx member), done⟩
  · exact (congrArg RequestQueue.queue tracking).trans orderly.tracking
  · exact (congrArg RequestQueue.queue niResponse).trans orderly.niResponse
  · exact fun op member id found => orderly.owner op (pending op member) id (dictionary.2 op.session id found)
  · change (x.consumed ++ ((respond _ _ _).next x.client).requestSession.queue).map _ =
      List.range ((respond _ _ _).next x.client).allocated
    rw [asked, allocated, orderly.numbers]
  · change (x.consumed ++ ((respond _ _ _).next x.client).requestSession.queue).map _ = x.issued.map _
    rw [asked, orderly.kinds]

theorem orderly_step (orderly : x.Orderly) (unused : x.ReturnsUnused e) : (x.step e).Orderly := by
  cases e with
  | startSession id mode options newSession =>
    exact orderly_called orderly (locAPIStartSession_called id newSession mode options) fun _ => unused
  | updateSessionOptions id mode options newSession =>
    exact orderly_called orderly (locAPIUpdateSessionOptions_called id newSession mode options orderly.filed)
      fun _ => unused
  | stopSession id =>
    exact orderly_called orderly (locAPIStopSession_called id 0 orderly.filed) (by rintro (same | same) <;> cases same)
  | getBatchedLocations id count =>
    exact orderly_called orderly (locAPIGetBatchedLocations_called id 0 orderly.filed count)
      (by rintro (same | same) <;> cases same)
  | answer session error =>
    rw [step]
    cases first : x.operations.find? fun op => op.session = session with
    | none => exact orderly
    | some op => exact orderly_answered orderly (List.mem_of_find?_eq_some first) error
  | respond index =>
    rw [step]
    cases waits : x.responding[index]? with
    | none => exact orderly
    | some answer => exact orderly_responded orderly waits

/-- As long as answers reach their own requests, each with a request of its own took one. -/
theorem ReachesOwn.length_consumed (reaches : x.ReachesOwn) :
    x.consumed.length = (x.answers.filter (·.operation.own)).length := by
  rw [consumed, List.length_filterMap_eq_countP, ← List.countP_eq_length_filter]
  refine List.countP_congr fun answer member => ?_
  have taken := congrArg Option.isSome (reaches.taken answer member)
  rw [Option.isSome_map, Operation.expected] at taken
  rw [taken]
  cases answer.operation.own <;> rfl

/-- The first request of the queue is of the kind of the call that comes next. -/
theorem Orderly.next_kind (orderly : x.Orderly) : x.client.requestSession.queue.head?.map
    (fun request => request.type.kind) =
    x.issued[x.consumed.length]?.map Operation.kind := by
  have next := congrArg (fun kinds => kinds[x.consumed.length]?) orderly.kinds
  rwa [List.map_append, List.getElem?_append_right (Nat.le_of_eq (List.length_map _)), List.length_map, Nat.sub_self,
    List.getElem?_map, List.getElem?_map, ← List.head?_eq_getElem?] at next

theorem Orderly.once (orderly : x.Orderly) : (x.consumed.map LocationAPIRequest.number).Nodup := by
  have numbers := orderly.numbers
  rw [List.map_append] at numbers
  exact (List.nodup_append.mp (numbers ▸ List.nodup_range)).1

theorem reachesOwn_answered_iff (orderly : x.Orderly) {op : Operation} (waits : op ∈ x.operations)
    (error : LocationError) (reaches : x.ReachesOwn) : (x.answered op error).ReachesOwn ↔
      (op.own → x.client.sessionBiDict.hasSession op.session ∧
        x.issued[(x.answers.filter (·.operation.own)).length]?.map Operation.kind = some op.kind) := by
  have taken := (take_cases orderly op.session).2.2.2.2.2
  have exactly : (x.answered op error).ReachesOwn ↔
      ((getRequestBySession op.session).result x.client).map (fun request => request.type.kind) = op.expected := by
    constructor
    · exact fun after => after.taken _ (List.mem_append_right _ (List.mem_singleton_self _))
    · refine fun own => ⟨fun answer member => ?_, reaches.told, (orderly_answered orderly waits error).once,
        reaches.removed⟩
      rcases List.mem_append.mp member with old | new
      · exact reaches.taken answer old
      · cases List.mem_singleton.mp new
        exact own
  rw [exactly, taken, ← reaches.length_consumed, ← orderly.next_kind, Operation.expected]
  cases own : op.own with
  | false =>
    have unknown : x.client.sessionBiDict.hasSession op.session = false := by
      refine SortedMap.contains_eq_false_iff.mpr fun known => ?_
      obtain ⟨id, known⟩ := SortedMap.mem_iff_find?.mp known
      exact absurd (orderly.owner op (List.mem_append_left _ waits) id known).2 (by simp [own])
    rw [unknown]
    exact iff_of_true rfl (by rintro ⟨⟩)
  | true =>
    cases x.client.sessionBiDict.hasSession op.session with
    | false => exact iff_of_false (by rintro ⟨⟩) fun inOrder => absurd (inOrder rfl).1 Bool.false_ne_true
    | true => exact ⟨fun next _ => ⟨rfl, next⟩, fun inOrder => (inOrder rfl).2⟩

/-- A pair that leaves a dictionary with a session is that of the session. -/
theorem eq_of_lost {d : BiDict SessionEntity} {id session : UInt32} (bijection : d.Bijection)
    (known : d.backwardMap.find? session = some id) {pair : UInt32 × UInt32}
    (gone : pair ∈ lost d (d.rmBySession session)) :
    pair = (id, session) := by
  obtain ⟨before, after⟩ := List.mem_filter.mp gone
  rw [BiDict.rmBySession_of_find? known, decide_eq_true_eq, SortedMap.mem_entries_erase, not_and', not_not] at after
  obtain ⟨other, session'⟩ := pair
  obtain rfl : other = id := after before
  have forth := (bijection.inverse _ _).mpr known
  rw [SortedMap.find?_eq_some_iff.mpr before] at forth
  cases forth
  rfl

theorem lost_self (d : BiDict SessionEntity) : lost d d = [] :=
  List.filter_eq_nil_iff.mpr fun _ member => by simp [member]

theorem reachesOwn_responded (orderly : x.Orderly) {index : ℕ} {answer : Answer}
    (waits : x.responding[index]? = some answer) (reaches : x.ReachesOwn) : (x.responded index answer).ReachesOwn := by
  have among := List.mem_of_getElem? waits
  have taken := reaches.taken answer (orderly.underWay answer among)
  refine ⟨reaches.taken, fun report member => ?_, reaches.once, fun report member pair gone => ?_⟩
  · obtain ⟨known, callbacks⟩ := (orderly_responded orderly waits).done report member
    rw [callbacks, ← reaches.taken report.answer known]
    cases report.answer.request <;> rfl
  · rcases List.mem_append.mp member with old | new
    · exact reaches.removed report old pair gone
    · cases List.mem_singleton.mp new
      rcases respond_cases (c := x.client) answer.request answer.error answer.operation.session with same |
        ⟨has, removed, asked, isAsked, removes⟩
      · rw [same, lost_self] at gone
        exact absurd gone List.not_mem_nil
      · obtain ⟨id, known⟩ := SortedMap.mem_iff_find?.mp (SortedMap.contains_iff.mp has)
        obtain ⟨rfl, -⟩ := orderly.owner answer.operation (List.mem_append_right _ (List.mem_map_of_mem among)) id known
        rw [removed] at gone
        rw [isAsked] at taken
        refine ⟨eq_of_lost orderly.filed.bijection known gone, removes.imp ?_ ?_⟩
        · exact fun ⟨isStart, failed⟩ => ⟨taken.symm.trans (congrArg some isStart), failed⟩
        · exact fun ⟨isStop, succeeded⟩ => ⟨taken.symm.trans (congrArg some isStop), succeeded⟩

theorem reachesOwn_step_iff (orderly : x.Orderly) (reaches : x.ReachesOwn) : (x.step e).ReachesOwn ↔ x.InOrder e := by
  have kept {id : UInt32} {kind : RequestKind} (p : SessionM LocationError) : (x.called id kind p).ReachesOwn :=
    ⟨reaches.taken, reaches.told, reaches.once, reaches.removed⟩
  cases e with
  | startSession => exact iff_of_true (kept _) trivial
  | updateSessionOptions => exact iff_of_true (kept _) trivial
  | stopSession => exact iff_of_true (kept _) trivial
  | getBatchedLocations => exact iff_of_true (kept _) trivial
  | answer session error =>
    rw [step, InOrder]
    cases first : x.operations.find? fun op => op.session = session with
    | none => exact iff_of_true reaches (by rintro _ ⟨⟩)
    | some op =>
      have about := List.find?_some first
      obtain rfl : op.session = session := of_decide_eq_true about
      refine (reachesOwn_answered_iff orderly (List.mem_of_find?_eq_some first) error reaches).trans ?_
      constructor
      · intro inOrder other same
        cases same
        exact inOrder
      · exact fun inOrder => inOrder op rfl
  | respond index =>
    refine iff_of_true ?_ trivial
    rw [step]
    cases waits : x.responding[index]? with
    | none => exact reaches
    | some answer => exact reachesOwn_responded orderly waits reaches

/-- In every run answers reach their own requests throughout exactly when they come in order. -/
theorem reachesOwn_throughout_iff (hasLocationAPI : Bool) (events : List SessionEvent) :
    EachStep step ReturnsUnused (start hasLocationAPI) events →
      (Throughout step ReachesOwn (start hasLocationAPI) events ↔
        EachStep step InOrder (start hasLocationAPI) events) := by
  intro unused
  refine throughout_iff_eachStep_of unused (orderly_start hasLocationAPI)
    (fun _ _ orderly unused => orderly_step orderly unused) ⟨?_, ?_, List.nodup_nil, ?_⟩
    fun _ _ orderly _ reaches => reachesOwn_step_iff orderly reaches
  · exact fun _ member => absurd member List.not_mem_nil
  · exact fun _ member => absurd member List.not_mem_nil
  · exact fun _ member => absurd member List.not_mem_nil

end Exchange

section Overtaking

open Exchange

/-- A session runs, another is started and the first is stopped; the stop is answered first. -/
def stopOvertakesStart : List SessionEvent :=
  [.startSession 1 sessionModeOnFix .zero 11, .answer 11 .success, .respond 0,
    .startSession 2 sessionModeOnFix .zero 12, .stopSession 1, .answer 11 .success]

theorem returnsUnused_stopOvertakesStart :
    EachStep step ReturnsUnused (Exchange.start true) stopOvertakesStart := by
  refine eachStep_cons ⟨by decide, SortedMap.not_mem_empty, fun _ member => absurd member List.not_mem_nil⟩ ?_
  refine eachStep_cons trivial (eachStep_cons trivial (eachStep_cons ?_ (eachStep_cons trivial
    (eachStep_cons trivial eachStep_nil))))
  exact ⟨by decide, SortedMap.contains_eq_false_iff.mp (by decide), by decide⟩

theorem reachesOwn_throughout_iff_stopOvertakesStart :
    Throughout step ReachesOwn (Exchange.start true) stopOvertakesStart ↔
      EachStep step InOrder (Exchange.start true) stopOvertakesStart :=
  reachesOwn_throughout_iff true stopOvertakesStart returnsUnused_stopOvertakesStart

/-- The answer to the stop takes the request of the start. -/
theorem stop_takes_start_request : ¬ ∀ events, EachStep step ReturnsUnused (Exchange.start true) events →
    Throughout step ReachesOwn (Exchange.start true) events := by
  intro always
  have final := always stopOvertakesStart returnsUnused_stopOvertakesStart _ List.prefix_rfl
  have mistaken : (stopOvertakesStart.foldl step (Exchange.start true)).answers.map (fun answer =>
      (answer.request.map fun request => request.type.kind, answer.operation.expected)) =
        [(some .start, some .start), (some .start, some .stop)] := by decide
  have second : (some RequestKind.start, some RequestKind.stop) ∈
      (stopOvertakesStart.foldl step (Exchange.start true)).answers.map (fun answer =>
        (answer.request.map fun request => request.type.kind, answer.operation.expected)) := by
    rw [mistaken]
    decide
  obtain ⟨answer, member, same⟩ := List.mem_map.mp second
  obtain ⟨took, expected⟩ := Prod.mk.inj same
  exact absurd (took.symm.trans ((final.taken answer member).trans expected)) (by decide)

end Overtaking

end Cypfr.ClientBase
