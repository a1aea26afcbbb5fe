import Cypfr.Proofs.BatchingTables

/-! # Sessions as their clients know them

What clients are told makes sessions live: a reported start that succeeded, until a stop that succeeded or a
completion is reported. Beside them stand the sessions that the two tables count for the event for full batches.
-/

namespace Cypfr.Batching

open Tracking

section Told

variable {Client : Type} [LinearOrder Client]

/-- The mode that a session has when the answer to a response is told; none when it is then stopped. -/
def BatchingResponse.starts : BatchingResponse Client → Option BatchingMode
  | .started _ _ options => some options.batchingMode
  | .tripStarted .. | .queriedForStart .. | .tripRestarted .. => some .trip
  | _ => none

/-- What clients know after the answer for a session. -/
def told (live : LocationSessionKey Client → Option BatchingMode) (key : LocationSessionKey Client)
    (mode : Option BatchingMode) : LocationSessionKey Client → Option BatchingMode :=
  fun other => if other = key then mode else live other

/-- The live sessions, with their modes, after an output. -/
def note (starts : Option BatchingMode) (live : LocationSessionKey Client → Option BatchingMode) :
    BatchingOutput Client → LocationSessionKey Client → Option BatchingMode
  | .reportResponse client err sessionId _ =>
    if err = .success then told live ⟨client, sessionId⟩ starts else live
  | .reportBatchStatusChange completedTrips => fun key => if key.id ∈ completedTrips then none else live key
  | _ => live

variable {a : BatchingAdapter Client} {client : Client} {sessionId : UInt32} {options : BatchingOptions}
  {starts : Option BatchingMode} {live : LocationSessionKey Client → Option BatchingMode}

/-- The live sessions after a program. -/
def hear {α : Type} (starts : Option BatchingMode) (p : BatchingM Client α) (a : BatchingAdapter Client)
    (live : LocationSessionKey Client → Option BatchingMode) : LocationSessionKey Client → Option BatchingMode :=
  (p.emitted a).foldl (note starts) live

@[simp] theorem hear_pure {α : Type} (x : α) : hear starts (pure x) a live = live := rfl

@[simp] theorem hear_get : hear starts Emit.get a live = live := rfl

@[simp] theorem hear_modify (f : BatchingAdapter Client → BatchingAdapter Client) :
    hear starts (Emit.modify f) a live = live := rfl

@[simp] theorem hear_emit (output : BatchingOutput Client) :
    hear starts (Emit.emit output) a live = note starts live output := rfl

@[simp] theorem hear_bind {α β : Type} (p : BatchingM Client α) (f : α → BatchingM Client β) :
    hear starts (p >>= f) a live = hear starts (f (p.result a)) (p.next a) (hear starts p a live) :=
  List.foldl_append

@[simp high] theorem hear_get_bind {β : Type} (g : BatchingAdapter Client → BatchingM Client β) :
    hear starts (Emit.get >>= g) a live = hear starts (g a) a live := rfl

@[simp] theorem hear_ite {α : Type} (c : Prop) [Decidable c] (p q : BatchingM Client α) :
    hear starts (if c then p else q) a live = if c then hear starts p a live else hear starts q a live := by
  split <;> rfl

@[simp] theorem hear_request (sent : BatchingRequest) (response : BatchingResponse Client) :
    hear starts (request sent response) a live = live := rfl

@[simp] theorem hear_setBatchFull (enabled : Bool) : hear starts (setBatchFull enabled) a live = live := rfl

@[simp] theorem hear_setOngoingTrip (distance interval : ℕ) :
    hear starts (setOngoingTrip distance interval) a live = live := rfl

@[simp] theorem hear_setTripSessions (f : SortedMap UInt32 TripSessionStatus → SortedMap UInt32 TripSessionStatus) :
    hear starts (setTripSessions f) a live = live := rfl

@[simp] theorem hear_saveBatchingSession : hear starts (saveBatchingSession client sessionId options) a live = live :=
  rfl

@[simp] theorem hear_eraseBatchingSession : hear starts (eraseBatchingSession client sessionId) a live = live := rfl

@[simp] theorem hear_dropTrip (trip : TripSessionStatus) : hear starts (dropTrip sessionId trip) a live = live := rfl

@[simp] theorem hear_reportResponse (err : LocationError) : hear starts (reportResponse client err sessionId) a live =
    if err = .success then told live ⟨client, sessionId⟩ starts else live := rfl

@[simp] theorem hear_leaveBatchFull : hear starts leaveBatchFull a live = live := by
  simp [leaveBatchFull]

theorem hear_of_wrapped {α : Type} {p : BatchingM Client α} (only : ∀ output ∈ p.emitted a, output = .wrapped) :
    hear starts p a live = live := by
  rw [hear]
  generalize p.emitted a = outputs at only
  induction outputs with
  | nil => rfl
  | cons first rest ih =>
    rw [only first List.mem_cons_self]
    exact ih fun output member => only output (List.mem_cons_of_mem _ member)

@[simp] theorem hear_minus (x y : ℕ) : hear starts (minus x y) a live = live := hear_of_wrapped wrapped_minus

@[simp] theorem hear_leastRemaining (trips : List (UInt32 × TripSessionStatus)) (distance interval : ℕ) :
    hear starts (leastRemaining trips distance interval) a live = live :=
  hear_of_wrapped (wrapped_leastRemaining trips distance interval)

@[simp] theorem hear_rebaseTrips (distance : ℕ) (trips : List (UInt32 × TripSessionStatus)) :
    hear starts (rebaseTrips distance trips) a live = live := hear_of_wrapped (wrapped_rebaseTrips distance trips)

@[simp] theorem hear_startSession : hear starts (startSession client sessionId options) a live = live := by
  rw [startSession]
  cases options.batchingMode <;> simp [startBatching, startTripBatchingMultiplex]

@[simp] theorem hear_restartTripBatching (query : Bool) (accDist numbatchedPos : ℕ) :
    hear starts (restartTripBatching query accDist numbatchedPos) a live = live := by
  simp [restartTripBatching]

@[simp] theorem hear_stopBatching (restartNeeded : Bool) :
    hear starts (stopBatching client sessionId restartNeeded options) a live = live := by
  rw [stopBatching, hear_get_bind]
  cases a.mBatchingSessions.find? ⟨client, sessionId⟩ <;> simp

/-- A trip that is stopped is told of. -/
theorem hear_stopTripBatchingMultiplexCommon (err : LocationError) (restartNeeded : Bool)
    (known : sessionId ∈ a.mTripSessions) :
    hear starts (stopTripBatchingMultiplexCommon err client sessionId restartNeeded options) a live =
      if err = .success then told live ⟨client, sessionId⟩ starts else live := by
  obtain ⟨trip, found⟩ := SortedMap.mem_iff_find?.mp known
  rw [stopTripBatchingMultiplexCommon, hear_get_bind, found]
  simp [continueTrips]

theorem hear_restartSessions : hear starts restartSessions a live = live := by
  have each (a : BatchingAdapter Client) : hear starts restartBatching a live = live := by
    rw [restartBatching, hear_get_bind]
    induction a.mBatchingSessions.entries.filter fun session => session.2.batchingMode ≠ .trip with
    | nil => rfl
    | cons first rest ih => exact ih
  simp [restartSessions, restartTrips, each]

/-- A response with a request of its own goes on without a word; a session that joins the trips without a restart has
been started. -/
theorem hear_joinTripBatch (err : LocationError) (data : LocApiBatchData) :
    hear starts (joinTripBatch client sessionId options err data) a live =
      if a.distanceWith options ((saveTrip sessionId options err data).result a) = none then
        told live ⟨client, sessionId⟩ starts
      else live := by
  have saves : hear starts (saveTrip sessionId options err data) a live = live := by
    simp [saveTrip]
  rw [joinTripBatch, hear_get_bind, hear_bind, saves]
  cases a.distanceWith options ((saveTrip sessionId options err data).result a) <;> simp

theorem hear_restartWithDistance (query : Bool) (minRemainingDistance minTBFInterval accDist : ℕ)
    (data : LocApiBatchData) :
    hear starts (restartWithDistance query minRemainingDistance minTBFInterval accDist data) a live = live := by
  have leaves (distance : ℕ) : hear starts (leftInBatch distance) a live = live := by
    simp [leftInBatch]
  rw [restartWithDistance, hear_bind, leaves, hear_get_bind, next_leftInBatch]
  generalize a.batchWithout minRemainingDistance minTBFInterval _ = batch
  cases batch <;> rfl

/-- A report of completed trips is heard of as the trips that it completes. -/
theorem hear_reportCompletedTripsEvent (distance : ℕ) (key : LocationSessionKey Client) :
    hear starts (reportCompletedTripsEvent distance) a live key =
      if ∃ trip, a.mTripSessions.find? key.id = some trip ∧ trip.report distance = none then none else live key := by
  have before : hear starts (completeTrips distance a.mTripSessions.entries) a live = live :=
    hear_of_wrapped (wrapped_completeTrips distance a.mTripSessions.entries)
  rw [reportCompletedTripsEvent, hear_get_bind, hear_bind, before, hear_ite]
  simp only [← mem_completeTrips_iff]
  by_cases any : (completeTrips distance a.mTripSessions.entries).result a = []
  · rw [if_neg (not_not.mpr any), if_neg (any ▸ List.not_mem_nil), hear_pure]
  · rw [if_pos any, hear_bind, hear_restartTripBatching, hear_emit, note]

end Told

section Counted

variable {Client : Type} [LinearOrder Client] {owner : UInt32 → Client} {a after : BatchingAdapter Client}
  {key other : LocationSessionKey Client} {live : LocationSessionKey Client → Option BatchingMode}

/-- A live session that is interested in full batches. -/
def Wants (live : LocationSessionKey Client → Option BatchingMode) (key : LocationSessionKey Client) : Prop :=
  ∃ mode, live key = some mode ∧ mode ≠ .noAutoReport

/-- A session that the tables count, once or twice. -/
def BatchingAdapter.Counts (a : BatchingAdapter Client) (owner : UInt32 → Client) (key : LocationSessionKey Client) :
    Prop :=
  (∃ options, a.mBatchingSessions.find? key = some options ∧ options.batchingMode ≠ .noAutoReport) ∨
    key.client = owner key.id ∧ key.id ∈ a.mTripSessions

theorem count_eq_zero_iff (owner : UInt32 → Client) :
    a.autoReportBatchingSessionsCount = 0 ↔ ∀ key, ¬ a.Counts owner key := by
  rw [autoReportBatchingSessionsCount_eq_zero_iff]
  constructor
  · rintro ⟨sessions, trips⟩ key (⟨options, found, interested⟩ | ⟨-, member⟩)
    · exact interested (sessions key options found)
    · exact trips key.id member
  · intro uncounted
    refine ⟨fun key options found => ?_, fun id member => uncounted ⟨owner id, id⟩ (.inr ⟨rfl, member⟩)⟩
    by_contra interested
    exact uncounted key (.inl ⟨options, found, interested⟩)

theorem count_ne_zero_iff (owner : UInt32 → Client) :
    a.autoReportBatchingSessionsCount ≠ 0 ↔ ∃ key, a.Counts owner key := by
  rw [ne_eq, count_eq_zero_iff owner, not_forall_not]

/-- A trip that is saved in both tables counts twice. -/
theorem count_ne_one {options : BatchingOptions} (found : a.mBatchingSessions.find? key = some options)
    (interested : options.batchingMode ≠ .noAutoReport) (one : a.mTripSessions.size = 1) :
    a.autoReportBatchingSessionsCount ≠ 1 := by
  have counted : 0 < a.mBatchingSessions.entries.countP fun session => session.2.batchingMode ≠ .noAutoReport :=
    List.countP_pos_iff.mpr ⟨(key, options), SortedMap.find?_eq_some_iff.mp found, decide_eq_true interested⟩
  rw [BatchingAdapter.autoReportBatchingSessionsCount, one]
  omega

/-- The tables change for one session only. -/
structure Beside (key : LocationSessionKey Client) (a after : BatchingAdapter Client) : Prop where
  sessions : ∀ other ≠ key, after.mBatchingSessions.find? other = a.mBatchingSessions.find? other
  trips : ∀ id ≠ key.id, id ∈ after.mTripSessions ↔ id ∈ a.mTripSessions

omit [LinearOrder Client] in
theorem eq_of_own (own : key.client = owner key.id) (isOwn : other.client = owner other.id) (same : other.id = key.id) :
    other = key := by
  rw [same, ← own] at isOwn
  cases other
  cases key
  congr

/-- Whether another session counts does not change. -/
theorem Beside.counts (beside : Beside key a after) (own : key.client = owner key.id) (different : other ≠ key) :
    after.Counts owner other ↔ a.Counts owner other := by
  rw [BatchingAdapter.Counts, BatchingAdapter.Counts, beside.sessions other different]
  exact or_congr_right (and_congr_right fun isOwn => beside.trips _ fun same => different (eq_of_own own isOwn same))

/-- The rest of what is counted. -/
theorem Beside.exists_counts_iff (beside : Beside key a after) (own : key.client = owner key.id) :
    (∃ other, after.Counts owner other) ↔ after.Counts owner key ∨ ∃ other ≠ key, a.Counts owner other := by
  constructor
  · rintro ⟨other, counts⟩
    rcases eq_or_ne other key with rfl | different
    · exact .inl counts
    · exact .inr ⟨other, different, (beside.counts own different).mp counts⟩
  · rintro (counts | ⟨other, different, counts⟩)
    · exact ⟨key, counts⟩
    · exact ⟨other, (beside.counts own different).mpr counts⟩

theorem Beside.refl (key : LocationSessionKey Client) (a : BatchingAdapter Client) : Beside key a a :=
  ⟨fun _ _ => rfl, fun _ _ => Iff.rfl⟩

theorem Beside.symm (beside : Beside key a after) : Beside key after a :=
  ⟨fun other different => (beside.sessions other different).symm, fun id different => (beside.trips id different).symm⟩

/-- What counts after a change for one session is that session, or there was one before. -/
theorem Beside.exists_counts (beside : Beside key a after) (own : key.client = owner key.id)
    (counts : ∃ other, after.Counts owner other) : after.Counts owner key ∨ ∃ other, a.Counts owner other :=
  ((beside.exists_counts_iff own).mp counts).imp_right fun ⟨other, _, counts⟩ => ⟨other, counts⟩

theorem exists_counts_of_not (uncounted : ¬ a.Counts owner key) :
    (∃ other, a.Counts owner other) ↔ ∃ other ≠ key, a.Counts owner other := by
  constructor
  · rintro ⟨other, counts⟩
    refine ⟨other, ?_, counts⟩
    rintro rfl
    exact uncounted counts
  · rintro ⟨other, -, counts⟩
    exact ⟨other, counts⟩

theorem not_counts (owner : UInt32 → Client) (unsaved : key ∉ a.mBatchingSessions)
    (untried : key.id ∉ a.mTripSessions) :
    ¬ a.Counts owner key := by
  rintro (⟨options, found, -⟩ | ⟨-, member⟩)
  · exact unsaved (SortedMap.mem_iff_find?.mpr ⟨options, found⟩)
  · exact untried member

theorem counts_of_saved (owner : UInt32 → Client) {options : BatchingOptions}
    (saved : a.mBatchingSessions.find? key = some options)
    (untried : key.id ∉ a.mTripSessions) : a.Counts owner key ↔ options.batchingMode ≠ .noAutoReport := by
  constructor
  · rintro (⟨_, found, interested⟩ | ⟨-, member⟩)
    · cases saved.symm.trans found
      exact interested
    · exact absurd member untried
  · exact fun interested => .inl ⟨options, saved, interested⟩

theorem counts_of_trip (own : key.client = owner key.id) (trip : key.id ∈ a.mTripSessions) : a.Counts owner key :=
  .inr ⟨own, trip⟩

/-- The tables count what the clients want, but perhaps for one session. -/
structure Apart (owner : UInt32 → Client) (a : BatchingAdapter Client)
    (live : LocationSessionKey Client → Option BatchingMode) (key : LocationSessionKey Client) : Prop where
  own : key.client = owner key.id
  same : ∀ other ≠ key, Wants live other ↔ a.Counts owner other
  owned : Owned owner a.mBatchingSessions
  trips : ∀ key options, a.mBatchingSessions.find? key = some options → key.id ∈ a.mTripSessions →
    options.batchingMode ≠ .noAutoReport

/-- The tables count what the clients want, and the event for full batches follows it. -/
structure Settled (owner : UInt32 → Client) (a : BatchingAdapter Client)
    (live : LocationSessionKey Client → Option BatchingMode) : Prop where
  same : ∀ key, Wants live key ↔ a.Counts owner key
  full : a.batchFull = true ↔ ∃ key, a.Counts owner key
  owned : Owned owner a.mBatchingSessions
  trips : ∀ key options, a.mBatchingSessions.find? key = some options → key.id ∈ a.mTripSessions →
    options.batchingMode ≠ .noAutoReport

theorem Settled.apart (settled : Settled owner a live) (own : key.client = owner key.id) : Apart owner a live key :=
  ⟨own, fun _ _ => settled.same _, settled.owned, settled.trips⟩

theorem Apart.settled (apart : Apart owner a live key) (same : Wants live key ↔ a.Counts owner key)
    (full : a.batchFull = true ↔ ∃ key, a.Counts owner key) : Settled owner a live where
  same := fun other => by
    rcases eq_or_ne other key with rfl | different
    · exact same
    · exact apart.same other different
  full := full
  owned := apart.owned
  trips := apart.trips

/-- The tables and what the clients know change for one session. -/
theorem Apart.change {live' : LocationSessionKey Client → Option BatchingMode} (apart : Apart owner a live key)
    (beside : Beside key a after)
    (mode : ∀ options, after.mBatchingSessions.find? key = some options → key.id ∈ after.mTripSessions →
      options.batchingMode ≠ .noAutoReport)
    (told : ∀ other ≠ key, live' other = live other) : Apart owner after live' key where
  own := apart.own
  same := fun other different => by
    rw [beside.counts apart.own different, ← apart.same other different, Wants, Wants, told other different]
  owned := fun other member => by
    rcases eq_or_ne other key with rfl | different
    · exact apart.own
    · obtain ⟨options, found⟩ := SortedMap.mem_iff_find?.mp member
      rw [beside.sessions other different] at found
      exact apart.owned other (SortedMap.mem_iff_find?.mpr ⟨options, found⟩)
  trips := fun other options found trip => by
    rcases eq_or_ne other key with rfl | different
    · exact mode options found trip
    · rw [beside.sessions other different] at found
      have isOwn := apart.owned other (SortedMap.mem_iff_find?.mpr ⟨options, found⟩)
      refine apart.trips other options found ((beside.trips other.id fun same => different ?_).mp trip)
      exact eq_of_own apart.own isOwn same

/-- What is known while a session waits for its answer: it is about to start, and not live; or it is stopped, and in
neither table; or it is a trip that is stopped. -/
def Waiting (owner : UInt32 → Client) (a : BatchingAdapter Client)
    (live : LocationSessionKey Client → Option BatchingMode) : BatchingResponse Client → Prop
  | .started client sessionId options =>
    Apart owner a live ⟨client, sessionId⟩ ∧ ¬ Wants live ⟨client, sessionId⟩ ∧
      (a.batchFull = true ↔ ∃ key, a.Counts owner key) ∧
      a.mBatchingSessions.find? ⟨client, sessionId⟩ = some options ∧ sessionId ∉ a.mTripSessions
  | .stopped client sessionId flpOptions restartNeeded options =>
    Apart owner a live ⟨client, sessionId⟩ ∧ (restartNeeded = true → options.batchingMode ≠ .invalid) ∧
      (Wants live ⟨client, sessionId⟩ ↔ flpOptions.batchingMode ≠ .noAutoReport) ∧
      (a.batchFull = true ↔ flpOptions.batchingMode ≠ .noAutoReport ∨ ∃ key, a.Counts owner key) ∧
      ⟨client, sessionId⟩ ∉ a.mBatchingSessions ∧ sessionId ∉ a.mTripSessions
  | .tripStarted client sessionId _ =>
    Apart owner a live ⟨client, sessionId⟩ ∧ ¬ Wants live ⟨client, sessionId⟩ ∧
      (a.batchFull = true ↔ ∃ key, a.Counts owner key) ∧ sessionId ∈ a.mTripSessions
  | .queriedForStart client sessionId _ =>
    Apart owner a live ⟨client, sessionId⟩ ∧ ¬ Wants live ⟨client, sessionId⟩ ∧
      (a.batchFull = true ∧ ∃ key, a.Counts owner key) ∧
      ⟨client, sessionId⟩ ∉ a.mBatchingSessions ∧ sessionId ∉ a.mTripSessions
  | .tripRestarted client sessionId =>
    Apart owner a live ⟨client, sessionId⟩ ∧ ¬ Wants live ⟨client, sessionId⟩ ∧
      (a.batchFull = true ∧ ∃ key, a.Counts owner key) ∧
      (a.Counts owner ⟨client, sessionId⟩ ↔ sessionId ∈ a.mTripSessions)
  | .tripStopped client sessionId restartNeeded options =>
    Settled owner a live ∧ (restartNeeded = true → options.batchingMode ≠ .invalid) ∧
      ⟨client, sessionId⟩ ∈ a.mBatchingSessions ∧ sessionId ∈ a.mTripSessions ∧ a.mTripSessions.size = 1
  | _ => False

/-- A session that starts waits for one answer. -/
theorem startSession_waits {client : Client} {sessionId : UInt32} {options : BatchingOptions}
    (apart : Apart owner a live ⟨client, sessionId⟩) (idle : ¬ Wants live ⟨client, sessionId⟩)
    (unsaved : ⟨client, sessionId⟩ ∉ a.mBatchingSessions) (untried : sessionId ∉ a.mTripSessions)
    (valid : options.batchingMode ≠ .invalid) (registered : (∃ key, a.Counts owner key) → a.batchFull = true)
    (needed : a.batchFull = true → options.batchingMode ≠ .noAutoReport ∨ ∃ key, a.Counts owner key) :
    ∃ sent response, asked (startSession client sessionId options) a = [(sent, response)] ∧ response.key.isSome ∧
      Waiting owner ((startSession client sessionId options).next a) live response := by
  have others := exists_counts_of_not (not_counts owner unsaved untried)
  have zero : a.autoReportBatchingSessionsCount = 0 ↔ ¬ ∃ key, a.Counts owner key := by
    rw [count_eq_zero_iff owner, not_exists]
  rw [startSession]
  cases mode : options.batchingMode with
  | invalid => exact absurd mode valid
  | routine | noAutoReport =>
    refine ⟨_, _, asked_startBatching _ _ _, rfl, ?_⟩
    have beside : Beside ⟨client, sessionId⟩ a ((startBatching client sessionId options).next a) := by
      rw [next_startBatching]
      exact ⟨fun _ different => SortedMap.find?_insert_of_ne different, fun _ _ => Iff.rfl⟩
    have registers := beside.exists_counts_iff apart.own
    simp only [next_startBatching] at beside registers ⊢
    refine ⟨apart.change beside (fun _ _ trip => absurd trip untried) (fun _ _ => rfl), idle, ?_,
      SortedMap.find?_insert_self, untried⟩
    rw [registers, ← others, counts_of_saved owner SortedMap.find?_insert_self untried]
    by_cases some : ∃ key, a.Counts owner key
    · simp [mt zero.mp (not_not.mpr some), some, registered some]
    · simpa [zero.mpr some, some] using needed
  | trip =>
    by_cases first : a.mTripSessions.size = 0
    · rw [asked_startTripBatchingMultiplex, if_pos first]
      refine ⟨_, _, rfl, rfl, ?_⟩
      have trip : sessionId ∈ ((startTripBatchingMultiplex client sessionId options).next a).mTripSessions := by
        simp [next_startTripBatchingMultiplex, first]
      have beside : Beside ⟨client, sessionId⟩ a ((startTripBatchingMultiplex client sessionId options).next a) := by
        rw [next_startTripBatchingMultiplex, if_pos first]
        exact ⟨fun _ different => SortedMap.find?_insert_of_ne different, fun id other => by simp [other]⟩
      have registers := beside.exists_counts_iff apart.own
      simp only [next_startTripBatchingMultiplex, if_pos first] at trip beside registers ⊢
      refine ⟨apart.change beside (fun saved found _ => ?_) (fun _ _ => rfl), idle, ?_, trip⟩
      · cases SortedMap.find?_insert_self.symm.trans found
        simp [mode]
      · rw [registers]
        refine iff_of_true ?_ (.inl (counts_of_trip apart.own trip))
        by_cases some : ∃ key, a.Counts owner key
        · simp [mt zero.mp (not_not.mpr some), registered some]
        · simp [zero.mpr some]
    · rw [asked_startTripBatchingMultiplex, if_neg first]
      refine ⟨_, _, rfl, rfl, ?_⟩
      rw [next_startTripBatchingMultiplex, if_neg first]
      obtain ⟨id, trip⟩ : ∃ id, id ∈ a.mTripSessions := by
        simpa [SortedMap.size_eq_zero_iff] using first
      have some : ∃ key, a.Counts owner key := ⟨⟨owner id, id⟩, counts_of_trip rfl trip⟩
      exact ⟨apart, idle, ⟨registered some, some⟩, unsaved, untried⟩

end Counted

end Cypfr.Batching
