import Cypfr.Proofs.Batching

/-! # The two tables of batching

Trips are in a table of their own, beside that of all sessions. What each change of the tables keeps of their agreement,
which responses a message asks for, and when a session is looked up that is not there.
-/

namespace Cypfr.Batching

open Tracking

section Agreement

variable {Client : Type} [LinearOrder Client] {a : BatchingAdapter Client} {key : LocationSessionKey Client}
  {options : BatchingOptions} {status : TripSessionStatus}

/-- The trips are the sessions with the mode of a trip. -/
def Agree (sessions : SortedMap (LocationSessionKey Client) BatchingOptions)
    (trips : SortedMap UInt32 TripSessionStatus) : Prop :=
  ∀ id, id ∈ trips ↔ ∃ key options, sessions.find? key = some options ∧ key.id = id ∧ options.batchingMode = .trip

/-- Each session is that of the owner of its identifier. -/
def Owned (owner : UInt32 → Client) (sessions : SortedMap (LocationSessionKey Client) BatchingOptions) : Prop :=
  ∀ key ∈ sessions, key.client = owner key.id

variable {sessions : SortedMap (LocationSessionKey Client) BatchingOptions} {trips : SortedMap UInt32 TripSessionStatus}
  {owner : UInt32 → Client}

theorem agree_of_mem_iff (agree : Agree sessions trips) {trips' : SortedMap UInt32 TripSessionStatus}
    (same : ∀ id, id ∈ trips' ↔ id ∈ trips) : Agree sessions trips' := fun id => (same id).trans (agree id)

/-- A session is saved in the mode that its trip says. -/
theorem agree_save (agree : Agree sessions trips) (mode : options.batchingMode = .trip ↔ key.id ∈ trips) :
    Agree (sessions.insert key options) trips := by
  intro id
  rw [agree id]
  constructor
  · rintro ⟨other, saved, found, rfl, isTrip⟩
    rcases eq_or_ne other key with rfl | different
    · refine ⟨other, options, SortedMap.find?_insert.trans (if_pos rfl), rfl, mode.mpr ?_⟩
      exact (agree _).mpr ⟨other, saved, found, rfl, isTrip⟩
    · exact ⟨other, saved, SortedMap.find?_insert.trans ((if_neg different).trans found), rfl, isTrip⟩
  · rintro ⟨other, saved, found, rfl, isTrip⟩
    rw [SortedMap.find?_insert] at found
    split_ifs at found with same
    · cases found
      rw [same]
      exact (agree _).mp (mode.mp isTrip)
    · exact ⟨other, saved, found, rfl, isTrip⟩

/-- A trip is saved in both tables. -/
theorem agree_save_trip (agree : Agree sessions trips) (mode : options.batchingMode = .trip) :
    Agree (sessions.insert key options) (trips.insert key.id status) := by
  intro id
  rw [SortedMap.mem_insert, agree id]
  constructor
  · rintro (rfl | ⟨other, saved, found, rfl, isTrip⟩)
    · exact ⟨key, options, SortedMap.find?_insert.trans (if_pos rfl), rfl, mode⟩
    · rcases eq_or_ne other key with rfl | different
      · exact ⟨other, options, SortedMap.find?_insert.trans (if_pos rfl), rfl, mode⟩
      · exact ⟨other, saved, SortedMap.find?_insert.trans ((if_neg different).trans found), rfl, isTrip⟩
  · rintro ⟨other, saved, found, rfl, isTrip⟩
    rw [SortedMap.find?_insert] at found
    split_ifs at found with same
    · exact .inl (congrArg LocationSessionKey.id same)
    · exact .inr ⟨other, saved, found, rfl, isTrip⟩

/-- A session that is not a trip is erased. -/
theorem agree_erase (agree : Agree sessions trips)
    (mode : ∀ options, sessions.find? key = some options → options.batchingMode ≠ .trip) :
    Agree (sessions.erase key) trips := by
  intro id
  rw [agree id]
  constructor
  · rintro ⟨other, saved, found, rfl, isTrip⟩
    have different : other ≠ key := by
      rintro rfl
      exact mode saved found isTrip
    exact ⟨other, saved, SortedMap.find?_erase.trans ((if_neg different).trans found), rfl, isTrip⟩
  · rintro ⟨other, saved, found, rfl, isTrip⟩
    rw [SortedMap.find?_erase] at found
    split_ifs at found
    exact ⟨other, saved, found, rfl, isTrip⟩

/-- A session is erased from both tables. -/
theorem agree_erase_both (agree : Agree sessions trips) (owned : Owned owner sessions)
    (own : key.client = owner key.id) : Agree (sessions.erase key) (trips.erase key.id) := by
  intro id
  rw [SortedMap.mem_erase, agree id]
  constructor
  · rintro ⟨otherId, other, saved, found, rfl, isTrip⟩
    have different : other ≠ key := fun same => otherId (congrArg LocationSessionKey.id same)
    exact ⟨other, saved, SortedMap.find?_erase.trans ((if_neg different).trans found), rfl, isTrip⟩
  · rintro ⟨other, saved, found, rfl, isTrip⟩
    rw [SortedMap.find?_erase] at found
    split_ifs at found with same
    refine ⟨fun sameId => same ?_, other, saved, found, rfl, isTrip⟩
    have isOwn := owned other (SortedMap.mem_iff_find?.mpr ⟨saved, found⟩)
    rw [sameId, ← own] at isOwn
    cases other
    cases key
    congr

theorem owned_insert (owned : Owned owner sessions) (own : key.client = owner key.id) :
    Owned owner (sessions.insert key options) := by
  intro other member
  rcases SortedMap.mem_insert.mp member with rfl | member
  · exact own
  · exact owned other member

theorem owned_erase (owned : Owned owner sessions) : Owned owner (sessions.erase key) :=
  fun other member => owned other (SortedMap.mem_erase.mp member).2

end Agreement

section Asked

variable {Client : Type}

/-- The session that a response is about. -/
def BatchingResponse.key : BatchingResponse Client → Option (LocationSessionKey Client)
  | .started client sessionId _ | .stopped client sessionId .. | .tripStarted client sessionId _
  | .queriedForStart client sessionId _ | .tripRestarted client sessionId | .tripStopped client sessionId .. =>
    some ⟨client, sessionId⟩
  | .queriedForRestart .. | .rebased .. | .tripsRestarted | .ignore => none

/-- A response to a stop. -/
def BatchingResponse.stops : BatchingResponse Client → Bool
  | .stopped .. | .tripStopped .. => true
  | _ => false

/-- A response goes on with what is done for a session, and does not stop it. -/
def BatchingResponse.Continues (key : Option (LocationSessionKey Client)) (response : BatchingResponse Client) : Prop :=
  response.stops = false ∧ (response.key = none ∨ response.key = key)

variable [LinearOrder Client] {a : BatchingAdapter Client} {sent : BatchingRequest} {response : BatchingResponse Client}
  {client : Client} {sessionId : UInt32} {options : BatchingOptions}

theorem continues_startSession (member : (sent, response) ∈ asked (startSession client sessionId options) a) :
    response.Continues (some ⟨client, sessionId⟩) := by
  rw [startSession] at member
  cases mode : options.batchingMode with
  | routine | noAutoReport =>
    rw [mode, asked_startBatching] at member
    cases List.mem_singleton.mp member
    exact ⟨rfl, .inr rfl⟩
  | trip =>
    rw [mode, asked_startTripBatchingMultiplex] at member
    split_ifs at member <;> cases List.mem_singleton.mp member <;> exact ⟨rfl, .inr rfl⟩
  | invalid =>
    rw [mode] at member
    cases member

theorem continues_restartTripBatching {query : Bool} {accDist numbatchedPos : ℕ}
    {key : Option (LocationSessionKey Client)}
    (member : (sent, response) ∈ asked (restartTripBatching query accDist numbatchedPos) a) :
    response.Continues key := by
  rw [asked_restartTripBatching] at member
  split_ifs at member <;> cases List.mem_singleton.mp member <;> exact ⟨rfl, .inl rfl⟩

theorem continues_continueTrips {key : Option (LocationSessionKey Client)}
    (member : (sent, response) ∈ asked continueTrips a) : response.Continues key := by
  rw [continueTrips, asked_get_bind, asked_ite] at member
  split_ifs at member
  · cases member
  · exact continues_restartTripBatching member

theorem continues_stopTripBatchingMultiplexCommon {err : LocationError} {restartNeeded : Bool}
    (member : (sent, response) ∈ asked (stopTripBatchingMultiplexCommon err client sessionId restartNeeded options) a) :
    response.Continues (some ⟨client, sessionId⟩) := by
  cases found : a.mTripSessions.find? sessionId with
  | none =>
    rw [stopTripBatchingMultiplexCommon, asked_get_bind, found] at member
    cases member
  | some trip =>
    rw [asked_stopTripBatchingMultiplexCommon _ _ _ _ _ found] at member
    rcases List.mem_append.mp member with others | again
    · exact continues_continueTrips others
    · split_ifs at again
      · exact continues_startSession again
      · cases again

theorem key_stopBatching {restartNeeded : Bool}
    (member : (sent, response) ∈ asked (stopBatching client sessionId restartNeeded options) a) :
    response.key = some ⟨client, sessionId⟩ := by
  rw [asked_stopBatching, Option.mem_toList, Option.map_eq_some_iff] at member
  obtain ⟨_, -, same⟩ := member
  cases same
  rfl

theorem key_stopTripBatchingMultiplex {restartNeeded : Bool}
    (member : (sent, response) ∈ asked (stopTripBatchingMultiplex client sessionId restartNeeded options) a) :
    response.key = none ∨ response.key = some ⟨client, sessionId⟩ := by
  rw [stopTripBatchingMultiplex, asked_get_bind, asked_ite] at member
  split_ifs at member
  · cases List.mem_singleton.mp member
    exact .inr rfl
  · exact (continues_stopTripBatchingMultiplexCommon member).2

/-- A response asks only to go on with its session. -/
theorem continues_proc {answered : BatchingResponse Client} {err : LocationError} {data : LocApiBatchData}
    (member : (sent, response) ∈ asked (answered.proc err data) a) : response.Continues answered.key := by
  cases answered with
  | started client sessionId options =>
    simp [BatchingResponse.proc, eraseBatchingSession] at member
  | stopped client sessionId flpOptions restartNeeded options =>
    simp only [BatchingResponse.proc, saveBatchingSession, asked_bind, asked_ite, asked_modify, asked_leaveBatchFull,
      asked_pure, asked_reportResponse, ite_self, List.append_nil, List.nil_append] at member
    split_ifs at member
    · cases member
    · exact continues_startSession member
    · exact continues_startSession member
    · cases member
  | tripStarted client sessionId options =>
    simp [BatchingResponse.proc, eraseBatchingSession, setTripSessions] at member
  | queriedForStart client sessionId options =>
    rw [BatchingResponse.proc, asked_joinTripBatch] at member
    split at member
    · cases List.mem_singleton.mp member
      exact ⟨rfl, .inr rfl⟩
    · cases member
  | tripStopped client sessionId restartNeeded options =>
    simp only [BatchingResponse.proc, asked_bind, asked_get, asked_ite, asked_setBatchFull, asked_pure, ite_self,
      List.nil_append] at member
    exact continues_stopTripBatchingMultiplexCommon member
  | queriedForRestart query minRemainingDistance minTBFInterval accDist =>
    rw [BatchingResponse.proc, asked_restartWithDistance] at member
    split at member
    · cases List.mem_singleton.mp member
      exact ⟨rfl, .inl rfl⟩
    · cases member
  | rebased =>
    simp [BatchingResponse.proc, asked_rebaseTrips] at member
  | tripsRestarted => simp [BatchingResponse.proc] at member
  | tripRestarted | ignore => cases member

theorem continues_reportCompletedTripsEvent {distance : ℕ} {key : Option (LocationSessionKey Client)}
    (member : (sent, response) ∈ asked (reportCompletedTripsEvent distance) a) : response.Continues key := by
  rw [reportCompletedTripsEvent, asked_get_bind, asked_bind, asked_completeTrips, List.nil_append, asked_ite] at member
  split_ifs at member
  · exact continues_restartTripBatching member
  · cases member

theorem continues_handleEngineUpEvent {key : Option (LocationSessionKey Client)}
    (member : (sent, response) ∈ asked handleEngineUpEvent a) : response.Continues key := by
  rw [handleEngineUpEvent, asked_bind, asked_bind, asked_modify, asked_modify, List.nil_append, List.append_nil,
    asked_restartSessions, asked_restartBatching, asked_restartTrips] at member
  rcases List.mem_append.mp member with session | trips
  · obtain ⟨_, -, same⟩ := List.mem_map.mp session
    cases same
    exact ⟨rfl, .inl rfl⟩
  · split_ifs at trips
    · cases List.mem_singleton.mp trips
      exact ⟨rfl, .inl rfl⟩
    · cases trips

end Asked

section Missed

variable {Client : Type} [LinearOrder Client] {a : BatchingAdapter Client} {client : Client} {sessionId : UInt32}
  {options : BatchingOptions}

/-- A program looks up a session that is not there. -/
def Misses {α : Type} (p : BatchingM Client α) (a : BatchingAdapter Client) : Prop := BatchingOutput.missed ∈ p.emitted a

@[simp] theorem misses_pure {α : Type} (x : α) : ¬ Misses (pure x) a := List.not_mem_nil

@[simp] theorem misses_get : ¬ Misses Emit.get a := List.not_mem_nil

@[simp] theorem misses_modify (f : BatchingAdapter Client → BatchingAdapter Client) : ¬ Misses (Emit.modify f) a :=
  List.not_mem_nil

@[simp] theorem misses_bind {α β : Type} (p : BatchingM Client α) (f : α → BatchingM Client β) :
    Misses (p >>= f) a ↔ Misses p a ∨ Misses (f (p.result a)) (p.next a) := List.mem_append

@[simp high] theorem misses_get_bind {β : Type} (g : BatchingAdapter Client → BatchingM Client β) :
    Misses (Emit.get >>= g) a ↔ Misses (g a) a := Iff.rfl

@[simp] theorem misses_ite {α : Type} (c : Prop) [Decidable c] (p q : BatchingM Client α) :
    Misses (if c then p else q) a ↔ if c then Misses p a else Misses q a := by
  split <;> rfl

@[simp] theorem misses_emit (output : BatchingOutput Client) : Misses (Emit.emit output) a ↔ output = .missed := by
  rw [Misses, Emit.emitted_emit, List.mem_singleton, eq_comm]

@[simp] theorem misses_request (sent : BatchingRequest) (response : BatchingResponse Client) :
    ¬ Misses (request sent response) a := by
  simp [request]

@[simp] theorem misses_reportResponse (err : LocationError) : ¬ Misses (reportResponse client err sessionId) a := by
  simp [Misses, reportResponse]

@[simp] theorem misses_setBatchFull (enabled : Bool) : ¬ Misses (setBatchFull enabled) a := List.not_mem_nil

@[simp] theorem misses_setOngoingTrip (distance interval : ℕ) : ¬ Misses (setOngoingTrip distance interval) a :=
  List.not_mem_nil

@[simp] theorem misses_setTripSessions (f : SortedMap UInt32 TripSessionStatus → SortedMap UInt32 TripSessionStatus) :
    ¬ Misses (setTripSessions f) a := List.not_mem_nil

@[simp] theorem misses_leaveBatchFull : ¬ Misses leaveBatchFull a := by
  simp [leaveBatchFull]

theorem misses_of_wrapped {α : Type} {p : BatchingM Client α} (only : ∀ output ∈ p.emitted a, output = .wrapped) :
    ¬ Misses p a := by
  intro member
  cases only _ member

@[simp] theorem misses_minus (x y : ℕ) : ¬ Misses (minus x y) a := misses_of_wrapped wrapped_minus

@[simp] theorem misses_leastRemaining (trips : List (UInt32 × TripSessionStatus)) (distance interval : ℕ) :
    ¬ Misses (leastRemaining trips distance interval) a :=
    misses_of_wrapped (wrapped_leastRemaining trips distance interval)

@[simp] theorem misses_startSession : ¬ Misses (startSession client sessionId options) a := by
  rw [startSession]
  cases options.batchingMode <;> simp [startBatching, startTripBatchingMultiplex, saveBatchingSession]

@[simp] theorem misses_restartTripBatching (query : Bool) (accDist numbatchedPos : ℕ) :
    ¬ Misses (restartTripBatching query accDist numbatchedPos) a := by
  simp [restartTripBatching]

/-- A trip that is stopped is looked up when its stop is answered. -/
theorem misses_stopTripBatchingMultiplexCommon {err : LocationError} {restartNeeded : Bool} :
    Misses (stopTripBatchingMultiplexCommon err client sessionId restartNeeded options) a ↔
      sessionId ∉ a.mTripSessions := by
  rw [stopTripBatchingMultiplexCommon, misses_get_bind]
  cases found : a.mTripSessions.find? sessionId with
  | none => exact iff_of_true List.mem_cons_self (SortedMap.find?_eq_none_iff.mp found)
  | some trip =>
    have known : sessionId ∈ a.mTripSessions := SortedMap.mem_iff_find?.mpr ⟨trip, found⟩
    simp [dropTrip, continueTrips, eraseBatchingSession, known]

@[simp] theorem misses_stopBatching {restartNeeded : Bool} :
    ¬ Misses (stopBatching client sessionId restartNeeded options) a := by
  rw [stopBatching, misses_get_bind]
  cases a.mBatchingSessions.find? ⟨client, sessionId⟩ <;> simp [eraseBatchingSession]

theorem misses_stopTripBatchingMultiplex {restartNeeded : Bool} (known : sessionId ∈ a.mTripSessions) :
    ¬ Misses (stopTripBatchingMultiplex client sessionId restartNeeded options) a := by
  simp [stopTripBatchingMultiplex, misses_stopTripBatchingMultiplexCommon, known]

/-- A command looks its session up before it goes on. -/
theorem misses_command (command : BatchingCommand Client) : ¬ Misses command.proc a := by
  cases command with
  | start => simp [BatchingCommand.proc]
  | update client sessionId | stop client sessionId =>
    by_cases trip : sessionId ∈ a.mTripSessions <;>
      simp [BatchingCommand.proc, SortedMap.contains_iff, trip, misses_stopTripBatchingMultiplex]

theorem misses_joinTripBatch {err : LocationError} {data : LocApiBatchData} :
    ¬ Misses (joinTripBatch client sessionId options err data) a := by
  have saves : ¬ Misses (saveTrip sessionId options err data) a := by
    simp [saveTrip]
  rw [joinTripBatch, misses_get_bind, misses_bind]
  cases a.distanceWith options ((saveTrip sessionId options err data).result a) <;> simp [saves]

theorem misses_restartWithDistance {query : Bool} {minRemainingDistance minTBFInterval accDist : ℕ}
    {data : LocApiBatchData} :
    ¬ Misses (restartWithDistance query minRemainingDistance minTBFInterval accDist data) a := by
  have leaves (distance : ℕ) : ¬ Misses (leftInBatch distance) a := by
    simp [leftInBatch]
  rw [restartWithDistance, misses_bind, next_leftInBatch, misses_get_bind, not_or]
  refine ⟨leaves _, ?_⟩
  generalize a.batchWithout minRemainingDistance minTBFInterval _ = batch
  cases batch <;> simp

/-- A response looks a session up that is not there only when a trip has been stopped that is none any more. -/
theorem misses_proc {response : BatchingResponse Client} {err : LocationError} {data : LocApiBatchData}
    (misses : Misses (response.proc err data) a) :
    ∃ client sessionId restartNeeded options, response = .tripStopped client sessionId restartNeeded options ∧
      sessionId ∉ a.mTripSessions := by
  cases response with
  | tripStopped client sessionId restartNeeded options =>
    rw [BatchingResponse.proc, misses_get_bind, misses_bind] at misses
    refine ⟨client, sessionId, restartNeeded, options, rfl, fun known => ?_⟩
    simp [misses_stopTripBatchingMultiplexCommon] at misses
    split_ifs at misses <;> exact misses known
  | rebased accumulatedDistance =>
    have each := misses_of_wrapped (a := a) (wrapped_rebaseTrips accumulatedDistance a.mTripSessions.entries)
    simp [BatchingResponse.proc, each] at misses
  | queriedForStart client sessionId options => exact absurd misses misses_joinTripBatch
  | queriedForRestart => exact absurd misses misses_restartWithDistance
  | _ => simp [BatchingResponse.proc, saveBatchingSession, eraseBatchingSession] at misses

theorem misses_reportCompletedTripsEvent (distance : ℕ) : ¬ Misses (reportCompletedTripsEvent distance) a := by
  have each := misses_of_wrapped (a := a) (wrapped_completeTrips distance a.mTripSessions.entries)
  simp [reportCompletedTripsEvent, each]

theorem misses_restartBatching : ¬ Misses restartBatching a := by
  rw [restartBatching, misses_get_bind, Misses, Emit.emitted_forM _
    (fun session => [.request (.startBatching session.1.id session.2 a.mBatchingAccuracy a.mBatchingTimeout) .ignore])
    fun _ _ => rfl]
  simp

theorem misses_handleEngineUpEvent : ¬ Misses handleEngineUpEvent a := by
  simp [handleEngineUpEvent, restartSessions, misses_restartBatching, restartTrips]

end Missed

end Cypfr.Batching
