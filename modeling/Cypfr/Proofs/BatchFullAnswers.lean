import Cypfr.Proofs.BatchFull

/-! # Answers and the event for full batches

A command leaves at most one session waiting for an answer. What each answer leaves of the agreement between the
tables, the event for full batches and what clients know.
-/

namespace Cypfr.Batching

open Tracking

section Keyed

variable {Client : Type} {waiting : List (BatchingRequest × BatchingResponse Client)}

/-- What is outstanding for sessions. -/
def keyed (waiting : List (BatchingRequest × BatchingResponse Client)) :
    List (BatchingRequest × BatchingResponse Client) := waiting.filter fun awaited => awaited.2.key.isSome

theorem keyed_eq_nil (unkeyed : ∀ sent response, (sent, response) ∈ waiting → response.key = none) :
    keyed waiting = [] := by
  refine List.filter_eq_nil_iff.mpr fun awaited member => ?_
  simp [unkeyed awaited.1 awaited.2 member]

theorem keyed_append (first second : List (BatchingRequest × BatchingResponse Client)) :
    keyed (first ++ second) = keyed first ++ keyed second := List.filter_append ..

/-- What is answered is taken out. -/
theorem keyed_eraseIdx {index : ℕ} {awaited : BatchingRequest × BatchingResponse Client}
    (place : waiting[index]? = some awaited) : ∃ before after,
      keyed waiting = before ++ keyed [awaited] ++ after ∧ keyed (waiting.eraseIdx index) = before ++ after := by
  obtain ⟨bound, same⟩ := List.getElem?_eq_some_iff.mp place
  refine ⟨keyed (waiting.take index), keyed (waiting.drop (index + 1)), ?_, ?_⟩
  · rw [← keyed_append, ← keyed_append, List.append_assoc, ← same, List.singleton_append,
      ← List.drop_eq_getElem_cons bound, List.take_append_drop]
  · rw [← keyed_append, List.eraseIdx_eq_take_drop_succ]

end Keyed

section Answered

variable {Client : Type} [LinearOrder Client] {owner : UInt32 → Client} {a after : BatchingAdapter Client}
  {live : LocationSessionKey Client → Option BatchingMode} {client : Client} {sessionId : UInt32}
  {options : BatchingOptions} {err : LocationError} {data : LocApiBatchData}

/-- No session waits for an answer, or one. -/
def Pending (owner : UInt32 → Client) (a : BatchingAdapter Client)
    (live : LocationSessionKey Client → Option BatchingMode)
    (waiting : List (BatchingRequest × BatchingResponse Client)) : Prop :=
  (keyed waiting = [] ∧ Settled owner a live) ∨
    ∃ awaited, keyed waiting = [awaited] ∧ Waiting owner a live awaited.2

/-- A session that starts is pending. -/
theorem pending_startSession (apart : Apart owner a live ⟨client, sessionId⟩) (idle : ¬ Wants live ⟨client, sessionId⟩)
    (unsaved : ⟨client, sessionId⟩ ∉ a.mBatchingSessions) (untried : sessionId ∉ a.mTripSessions)
    (valid : options.batchingMode ≠ .invalid) (registered : (∃ key, a.Counts owner key) → a.batchFull = true)
    (needed : a.batchFull = true → options.batchingMode ≠ .noAutoReport ∨ ∃ key, a.Counts owner key) :
    Pending owner ((startSession client sessionId options).next a) live
    (asked (startSession client sessionId options) a) := by
  obtain ⟨sent, response, asks, isKeyed, waits⟩ := startSession_waits apart idle unsaved untried valid registered needed
  rw [asks]
  exact .inr ⟨(sent, response), List.filter_cons_of_pos isKeyed, waits⟩

/-- The event for full batches after a session has left. -/
theorem batchFull_left {mode : BatchingMode} (registered : (∃ key, a.Counts owner key) → a.batchFull = true)
    (needed : a.batchFull = true → mode ≠ .noAutoReport ∨ ∃ key, a.Counts owner key) :
    (a.left mode).batchFull = true ↔ ∃ key, a.Counts owner key := by
  have zero : a.autoReportBatchingSessionsCount = 0 ↔ ¬ ∃ key, a.Counts owner key := by
    rw [count_eq_zero_iff owner, not_exists]
  rw [BatchingAdapter.left]
  by_cases some : ∃ key, a.Counts owner key
  · simp [mt zero.mp (not_not.mpr some), some, registered some]
  · refine iff_of_false ?_ some
    simp only [zero.mpr some, and_true]
    split_ifs with interested
    · exact id
    · exact fun full => (needed full).elim interested some

/-- The tables are settled after a session has left. -/
theorem Apart.settled_left {key : LocationSessionKey Client} {mode : BatchingMode} (apart : Apart owner a live key)
    (same : Wants live key ↔ a.Counts owner key) (registered : (∃ key, a.Counts owner key) → a.batchFull = true)
    (needed : a.batchFull = true → mode ≠ .noAutoReport ∨ ∃ key, a.Counts owner key) :
    Settled owner (a.left mode) live where
  same := fun other => by
    rcases eq_or_ne other key with rfl | different
    · exact same
    · exact apart.same other different
  full := batchFull_left registered needed
  owned := apart.owned
  trips := apart.trips

theorem beside_erase (key : LocationSessionKey Client) (a : BatchingAdapter Client) :
    Beside key a { a with mBatchingSessions := a.mBatchingSessions.erase key } :=
  ⟨fun _ different => SortedMap.find?_erase_of_ne different, fun _ _ => Iff.rfl⟩

theorem beside_insert (key : LocationSessionKey Client) (a : BatchingAdapter Client) (options : BatchingOptions) :
    Beside key a { a with mBatchingSessions := a.mBatchingSessions.insert key options } :=
  ⟨fun _ different => SortedMap.find?_insert_of_ne different, fun _ _ => Iff.rfl⟩

theorem told_of_ne {key other : LocationSessionKey Client} {mode : Option BatchingMode} (different : other ≠ key) :
    told live key mode other = live other := if_neg different

theorem wants_told {key : LocationSessionKey Client} {mode : BatchingMode} :
    Wants (told live key (some mode)) key ↔ mode ≠ .noAutoReport := by
  simp [Wants, told]

theorem not_wants_told {key : LocationSessionKey Client} : ¬ Wants (told live key none) key := by
  simp [Wants, told]

theorem pending_started (waits : Waiting owner a live (.started client sessionId options)) :
    let response := BatchingResponse.started client sessionId options
    Pending owner ((response.proc err data).next a) (hear response.starts (response.proc err data) a live)
      (asked (response.proc err data) a) := by
  obtain ⟨apart, idle, full, saved, untried⟩ := waits
  have counts := counts_of_saved owner saved untried
  have asks : asked ((BatchingResponse.started client sessionId options).proc err data) a = [] := by
    simp [BatchingResponse.proc, eraseBatchingSession]
  refine .inl ⟨congrArg keyed asks, ?_⟩
  have hears : hear (some options.batchingMode) ((BatchingResponse.started client sessionId options).proc err data) a
    live =
      if err = .success then told live ⟨client, sessionId⟩ (some options.batchingMode) else live := by
    by_cases success : err = .success <;> simp [BatchingResponse.proc, success]
  rw [BatchingResponse.starts, hears, next_started]
  split_ifs
  · refine (apart.change (.refl _ _) (apart.trips _) fun _ => told_of_ne).settled ?_ full
    rw [wants_told, counts]
  · have beside := beside_erase ⟨client, sessionId⟩ a
    have gone := not_counts owner (a := { a with mBatchingSessions := a.mBatchingSessions.erase ⟨client, sessionId⟩ })
      SortedMap.notMem_erase_self untried
    refine (apart.change beside (fun _ _ trip => absurd trip untried) fun _ _ => rfl).settled_left
      (iff_of_false idle gone) (fun some => ?_) fun registered => ?_
    · exact full.mpr ((beside.exists_counts apart.own some).resolve_left gone)
    · exact (beside.symm.exists_counts apart.own (full.mp registered)).imp_left counts.mp

theorem pending_stopped {flpOptions : BatchingOptions} {restartNeeded : Bool}
    (waits : Waiting owner a live (.stopped client sessionId flpOptions restartNeeded options))
    (may : err ≠ .success → (options.batchingMode = .noAutoReport ↔ flpOptions.batchingMode = .noAutoReport)) :
    let response := BatchingResponse.stopped client sessionId flpOptions restartNeeded options
    Pending owner ((response.proc err data).next a) (hear response.starts (response.proc err data) a live)
      (asked (response.proc err data) a) := by
  obtain ⟨apart, valid, wants, full, unsaved, untried⟩ := waits
  have gone := not_counts owner unsaved untried
  have hears : hear none ((BatchingResponse.stopped client sessionId flpOptions restartNeeded options).proc err data) a
      live = if err = .success then told live ⟨client, sessionId⟩ none else live := by
    by_cases success : err = .success <;> simp [BatchingResponse.proc, success]
  have asks : asked ((BatchingResponse.stopped client sessionId flpOptions restartNeeded options).proc err data) a =
      if err = .success ∧ restartNeeded = true then
        asked (startSession client sessionId options) (a.left flpOptions.batchingMode) else [] := by
    simp only [BatchingResponse.proc, saveBatchingSession, asked_bind, asked_ite, asked_modify, asked_leaveBatchFull,
      asked_pure, asked_reportResponse, ite_self, List.append_nil, List.nil_append]
    have left := next_ite_leaveBatchFull (a := a) flpOptions.batchingMode
    rw [left]
    by_cases success : err = .success <;> simp [success]
  show Pending owner _ (hear none _ a live) _
  rw [hears, next_stopped, asks]
  by_cases success : err = .success
  · have settled := (apart.change (.refl _ _) (fun _ _ trip => absurd trip untried) fun _ => told_of_ne).settled_left
      (iff_of_false not_wants_told gone) (fun some => full.mpr (.inr some)) full.mp
    rw [if_pos success, if_pos success]
    by_cases again : restartNeeded = true
    · rw [if_pos again, if_pos ⟨success, again⟩]
      exact pending_startSession (settled.apart apart.own) not_wants_told unsaved untried (valid again) settled.full.mpr
        fun registered => .inr (settled.full.mp registered)
    · rw [if_neg again, if_neg fun both => again both.2]
      exact .inl ⟨rfl, settled⟩
  · have counts := counts_of_saved owner
      (a := { a with mBatchingSessions := a.mBatchingSessions.insert ⟨client, sessionId⟩ options })
      SortedMap.find?_insert_self untried
    have beside := beside_insert ⟨client, sessionId⟩ a options
    have rest := beside.exists_counts_iff apart.own
    rw [if_neg success, if_neg success, if_neg fun both => success both.1]
    refine .inl ⟨rfl, (apart.change beside (fun _ _ trip => absurd trip untried) fun _ _ => rfl).settled ?_ ?_⟩
    · rw [wants, counts, ne_eq, ne_eq, may success]
    · rw [rest, counts, ← exists_counts_of_not gone, ne_eq, may success]
      exact full

/-- What is told of a start that is answered. -/
theorem pending_tripStarted (waits : Waiting owner a live (.tripStarted client sessionId options)) :
    let response := BatchingResponse.tripStarted client sessionId options
    Pending owner ((response.proc err data).next a) (hear response.starts (response.proc err data) a live)
      (asked (response.proc err data) a) := by
  obtain ⟨apart, idle, full, trip⟩ := waits
  have asks : asked ((BatchingResponse.tripStarted client sessionId options).proc err data) a = [] := by
    simp [BatchingResponse.proc, eraseBatchingSession, setTripSessions]
  refine .inl ⟨congrArg keyed asks, ?_⟩
  have hears : hear (some .trip) ((BatchingResponse.tripStarted client sessionId options).proc err data) a live =
      if err = .success then told live ⟨client, sessionId⟩ (some .trip) else live := by
    by_cases success : err = .success <;> simp [BatchingResponse.proc, success]
  show Settled owner _ (hear (some .trip) _ a live)
  rw [hears, next_tripStarted]
  split_ifs
  · have same : Beside ⟨client, sessionId⟩ a
        { a with mOngoingTripDistance := options.minDistance, mOngoingTripTBFInterval := options.minInterval } :=
      ⟨fun _ _ => rfl, fun _ _ => Iff.rfl⟩
    refine (apart.change same (apart.trips _) fun _ => told_of_ne).settled (iff_of_true ?_ ?_) full
    · simp [wants_told]
    · exact counts_of_trip apart.own trip
  · have beside : Beside ⟨client, sessionId⟩ a
        { a with
          mBatchingSessions := a.mBatchingSessions.erase ⟨client, sessionId⟩
          mTripSessions := a.mTripSessions.erase sessionId } :=
      ⟨fun _ different => SortedMap.find?_erase_of_ne different, fun id other => by simp [other]⟩
    have gone : ¬ BatchingAdapter.Counts
        { a with
          mBatchingSessions := a.mBatchingSessions.erase ⟨client, sessionId⟩
          mTripSessions := a.mTripSessions.erase sessionId } owner ⟨client, sessionId⟩ := not_counts owner
      SortedMap.notMem_erase_self SortedMap.notMem_erase_self
    refine (apart.change beside (fun _ _ trip => absurd trip SortedMap.notMem_erase_self) fun _ _ => rfl).settled_left
      (iff_of_false idle gone) (fun some => ?_) fun _ => .inl (by simp)
    exact full.mpr ((beside.exists_counts apart.own some).resolve_left gone)

theorem pending_tripRestarted (waits : Waiting owner a live (.tripRestarted client sessionId))
    (may : err = .success ↔ sessionId ∈ a.mTripSessions) :
    let response := BatchingResponse.tripRestarted client sessionId
    Pending owner ((response.proc err data).next a) (hear response.starts (response.proc err data) a live)
      (asked (response.proc err data) a) := by
  obtain ⟨apart, idle, ⟨registered, some⟩, counts⟩ := waits
  refine .inl ⟨rfl, ?_⟩
  have full := iff_of_true registered some
  show Settled owner a (if err = .success then told live ⟨client, sessionId⟩ (Option.some .trip) else live)
  by_cases success : err = .success
  · rw [if_pos success]
    refine (apart.change (.refl _ _) (apart.trips _) fun _ => told_of_ne).settled (iff_of_true ?_ ?_) full
    · simp [wants_told]
    · exact counts.mpr (may.mp success)
  · rw [if_neg success]
    exact apart.settled (iff_of_false idle fun counted => success (may.mpr (counts.mp counted))) full

theorem mem_savedTrips_of_ne {id : UInt32} (different : id ≠ sessionId) :
    id ∈ a.savedTrips sessionId options err data ↔ id ∈ a.mTripSessions := by
  rw [BatchingAdapter.savedTrips]
  split_ifs
  · simp [different]
  · rfl

theorem mem_savedTrips (success : err = .success) : sessionId ∈ a.savedTrips sessionId options err data := by
  simp [BatchingAdapter.savedTrips, success]

theorem counts_of_unsaved {key : LocationSessionKey Client} (own : key.client = owner key.id)
    (unsaved : key ∉ a.mBatchingSessions) : a.Counts owner key ↔ key.id ∈ a.mTripSessions := by
  constructor
  · rintro (⟨options, found, -⟩ | ⟨-, trip⟩)
    · exact absurd (SortedMap.mem_iff_find?.mpr ⟨options, found⟩) unsaved
    · exact trip
  · exact counts_of_trip own

/-- A trip that joins the others is counted when its distance is known. -/
theorem pending_queriedForStart (waits : Waiting owner a live (.queriedForStart client sessionId options))
    (may : err ≠ .success → a.distanceWith options a.mOngoingTripDistance ≠ none) :
    let response := BatchingResponse.queriedForStart client sessionId options
    Pending owner ((response.proc err data).next a) (hear response.starts (response.proc err data) a live)
      (asked (response.proc err data) a) := by
  obtain ⟨apart, idle, ⟨registered, some⟩, unsaved, untried⟩ := waits
  have gone := not_counts owner unsaved untried
  show Pending owner ((joinTripBatch client sessionId options err data).next a)
    (hear (.some .trip) (joinTripBatch client sessionId options err data) a live)
    (asked (joinTripBatch client sessionId options err data) a)
  rw [next_joinTripBatch, asked_joinTripBatch, hear_joinTripBatch]
  cases distance : a.distanceWith options ((saveTrip sessionId options err data).result a) with
  | some ongoingTripDistance =>
    have beside : Beside ⟨client, sessionId⟩ a
        { a with
          mOngoingTripDistance := ongoingTripDistance
          mOngoingTripTBFInterval := min options.minInterval a.mOngoingTripTBFInterval
          mTripSessions := (a.savedTrips sessionId options err data).mapValues fun trip =>
            { trip with
              accumulatedDistanceOngoingBatch := 0
              accumulatedDistanceOnTripRestart := trip.accumulatedDistanceThisTrip } } :=
      ⟨fun _ _ => rfl, fun _ different => SortedMap.mem_mapValues.trans (mem_savedTrips_of_ne different)⟩
    refine .inr ⟨_, rfl, ?_⟩
    rw [if_neg (by rintro ⟨⟩)]
    refine ⟨apart.change beside (fun _ found => absurd (SortedMap.mem_iff_find?.mpr ⟨_, found⟩) unsaved) fun _ _ => rfl,
      idle, ⟨registered, ?_⟩, counts_of_unsaved apart.own unsaved⟩
    exact (beside.symm.exists_counts apart.own some).resolve_left gone
  | none =>
    have success : err = .success := by
      by_contra failed
      refine may failed ?_
      rwa [result_saveTrip, if_neg failed] at distance
    have beside : Beside ⟨client, sessionId⟩ a { a with mTripSessions := a.savedTrips sessionId options err data } :=
      ⟨fun _ _ => rfl, fun _ different => mem_savedTrips_of_ne different⟩
    rw [if_pos rfl]
    refine .inl ⟨rfl, (apart.change beside (fun _ found => absurd (SortedMap.mem_iff_find?.mpr ⟨_, found⟩) unsaved)
      fun _ => told_of_ne).settled (iff_of_true ?_ ?_) (iff_of_true registered ?_)⟩
    · simp [wants_told]
    · exact counts_of_trip apart.own (mem_savedTrips success)
    · exact (beside.symm.exists_counts apart.own some).resolve_left gone

/-- A trip that is stopped to start again. -/
theorem pending_stopTripBatchingMultiplexCommon (apart : Apart owner a live ⟨client, sessionId⟩)
    (trip : sessionId ∈ a.mTripSessions) (valid : options.batchingMode ≠ .invalid) (registered : a.batchFull = true)
    (needed : options.batchingMode ≠ .noAutoReport ∨ ∃ other ≠ ⟨client, sessionId⟩, a.Counts owner other) :
    let stop := stopTripBatchingMultiplexCommon .success client sessionId true options
    Pending owner (stop.next a) (hear none stop a live) (asked stop a) := by
  intro stop
  obtain ⟨status, found⟩ := SortedMap.mem_iff_find?.mp trip
  have beside : Beside ⟨client, sessionId⟩ a
      { a.without sessionId status with mBatchingSessions := a.mBatchingSessions.erase ⟨client, sessionId⟩ } :=
    ⟨fun _ different => SortedMap.find?_erase_of_ne different,
      fun _ different => SortedMap.mem_erase.trans (and_iff_right different)⟩
  have rest := beside.exists_counts_iff apart.own
  have unkeyed : keyed (asked continueTrips ((dropTrip sessionId status).next a)) = [] :=
    keyed_eq_nil fun _ _ member => (continues_continueTrips member).2.elim id id
  have starts : Pending owner ((startSession client sessionId options).next _) (told live ⟨client, sessionId⟩ none) _ :=
    pending_startSession (apart.change beside (fun _ _ member => absurd member SortedMap.notMem_erase_self)
      fun _ => told_of_ne) not_wants_told SortedMap.notMem_erase_self SortedMap.notMem_erase_self valid
      (fun _ => registered) fun _ => needed.imp_right fun others => rest.mpr (.inr others)
  rw [next_stopTripBatchingMultiplexCommon _ _ _ _ _ found, if_pos rfl, hear_stopTripBatchingMultiplexCommon _ _ trip,
    if_pos rfl, asked_stopTripBatchingMultiplexCommon _ _ _ _ _ found, if_pos rfl]
  rw [Pending, keyed_append, unkeyed]
  exact starts

/-- A stop of the only trip. -/
theorem pending_tripStopped {restartNeeded : Bool}
    (waits : Waiting owner a live (.tripStopped client sessionId restartNeeded options))
    (may : if restartNeeded = true then err = .success ∧ (options.batchingMode ≠ .noAutoReport ∨
      ∃ other ≠ ⟨client, sessionId⟩, a.Counts owner other) else err ≠ .success) :
    let response := BatchingResponse.tripStopped client sessionId restartNeeded options
    Pending owner ((response.proc err data).next a) (hear response.starts (response.proc err data) a live)
      (asked (response.proc err data) a) := by
  obtain ⟨settled, valid, saved, trip, one⟩ := waits
  have own := settled.owned _ saved
  obtain ⟨options', found⟩ := SortedMap.mem_iff_find?.mp saved
  have interested := settled.trips _ _ found trip
  have twice : ¬ (err = .success ∧ a.autoReportBatchingSessionsCount = 1) :=
    fun both => count_ne_one found interested one both.2
  have same : ((BatchingResponse.tripStopped client sessionId restartNeeded options).proc err data) a =
      stopTripBatchingMultiplexCommon err client sessionId restartNeeded options a := by
    rw [BatchingResponse.proc, Emit.get_bind_apply, if_neg twice]
    rfl
  intro response
  rw [hear, asked, Emit.next, Emit.emitted, same]
  show Pending owner ((stopTripBatchingMultiplexCommon err client sessionId restartNeeded options).next a)
    (hear none (stopTripBatchingMultiplexCommon err client sessionId restartNeeded options) a live)
    (asked (stopTripBatchingMultiplexCommon err client sessionId restartNeeded options) a)
  cases restartNeeded with
  | true =>
    obtain ⟨rfl, needed⟩ := may
    exact pending_stopTripBatchingMultiplexCommon (settled.apart own) trip (valid rfl)
      (settled.full.mpr ⟨_, counts_of_trip own trip⟩) needed
  | false =>
    have failed : err ≠ .success := may
    obtain ⟨status, known⟩ := SortedMap.mem_iff_find?.mp trip
    have beside : Beside ⟨client, sessionId⟩ a (a.without sessionId status) :=
      ⟨fun _ _ => rfl, fun _ different => SortedMap.mem_erase.trans (and_iff_right different)⟩
    have counts : (a.without sessionId status).Counts owner ⟨client, sessionId⟩ := .inl ⟨_, found, interested⟩
    rw [next_stopTripBatchingMultiplexCommon _ _ _ _ _ known, hear_stopTripBatchingMultiplexCommon _ _ trip,
      asked_stopTripBatchingMultiplexCommon _ _ _ _ _ known, if_neg failed, if_neg Bool.false_ne_true,
      if_neg Bool.false_ne_true, List.append_nil]
    refine .inl ⟨keyed_eq_nil fun _ _ member => (continues_continueTrips member).2.elim id id, ?_⟩
    refine ((settled.apart own).change beside (fun _ _ member => absurd member SortedMap.notMem_erase_self)
      fun _ _ => rfl).settled (iff_of_true ?_ counts) (iff_of_true ?_ ⟨_, counts⟩)
    · exact (settled.same _).mpr (counts_of_trip own trip)
    · exact settled.full.mpr ⟨_, counts_of_trip own trip⟩

/-- The sessions stay, and the trips but for their distances. -/
structure Still (a after : BatchingAdapter Client) : Prop where
  sessions : after.mBatchingSessions = a.mBatchingSessions
  batchFull : after.batchFull = a.batchFull
  trips : ∀ id, id ∈ after.mTripSessions ↔ id ∈ a.mTripSessions
  size : after.mTripSessions.size = a.mTripSessions.size

theorem Still.refl (a : BatchingAdapter Client) : Still a a := ⟨rfl, rfl, fun _ => Iff.rfl, rfl⟩

theorem Still.counts (still : Still a after) {key : LocationSessionKey Client} :
    after.Counts owner key ↔ a.Counts owner key := by
  rw [BatchingAdapter.Counts, BatchingAdapter.Counts, still.sessions, still.trips]

theorem Still.apart (still : Still a after) {key : LocationSessionKey Client} (apart : Apart owner a live key) :
    Apart owner after live key where
  own := apart.own
  same := fun other different => (apart.same other different).trans still.counts.symm
  owned := still.sessions ▸ apart.owned
  trips := fun key options found trip => apart.trips key options (still.sessions ▸ found) ((still.trips _).mp trip)

theorem Still.settled (still : Still a after) (settled : Settled owner a live) : Settled owner after live where
  same := fun other => (settled.same other).trans still.counts.symm
  full := by
    rw [still.batchFull, settled.full]
    exact exists_congr fun _ => still.counts.symm
  owned := still.sessions ▸ settled.owned
  trips := fun key options found trip => settled.trips key options (still.sessions ▸ found) ((still.trips _).mp trip)

theorem Still.waiting (still : Still a after) {response : BatchingResponse Client}
    (waits : Waiting owner a live response) : Waiting owner after live response := by
  have some : (∃ key, after.Counts owner key) ↔ ∃ key, a.Counts owner key := exists_congr fun _ => still.counts
  cases response with
  | started | stopped | tripStarted | queriedForStart | tripRestarted =>
    rw [Waiting, still.batchFull, some]
    simp only [still.sessions, still.trips, still.counts]
    exact ⟨still.apart waits.1, waits.2⟩
  | tripStopped =>
    rw [Waiting, still.sessions, still.trips, still.size]
    exact ⟨still.settled waits.1, waits.2⟩
  | queriedForRestart | rebased | tripsRestarted | ignore => exact waits

/-- A response for no session leaves the tables and tells nothing. -/
theorem still_of_unkeyed (live : LocationSessionKey Client → Option BatchingMode) (err : LocationError)
    (data : LocApiBatchData) {response : BatchingResponse Client} (unkeyed : response.key = none) :
    Still a ((response.proc err data).next a) ∧
      hear response.starts (response.proc err data) a live = live ∧ keyed (asked (response.proc err data) a) = [] := by
  refine ⟨?_, ?_, keyed_eq_nil fun sent asks member => ?_⟩
  · cases response with
    | queriedForRestart =>
      rw [BatchingResponse.proc, next_restartWithDistance]
      exact .refl a
    | rebased =>
      rw [next_rebased]
      split_ifs
      · exact ⟨rfl, rfl, fun _ => SortedMap.mem_mapValues, List.length_map _⟩
      · exact .refl a
    | tripsRestarted =>
      rw [BatchingResponse.proc, Emit.next_ite, next_setOngoingTrip]
      split_ifs
      · exact ⟨rfl, rfl, fun _ => Iff.rfl, rfl⟩
      · exact .refl a
    | ignore => exact .refl a
    | started | stopped | tripStarted | queriedForStart | tripRestarted | tripStopped => cases unkeyed
  · cases response with
    | queriedForRestart => exact hear_restartWithDistance ..
    | rebased | tripsRestarted => simp [BatchingResponse.proc]
    | ignore => rfl
    | started | stopped | tripStarted | queriedForStart | tripRestarted | tripStopped => cases unkeyed
  · exact (continues_proc member).2.elim id (·.trans unkeyed)

end Answered

end Cypfr.Batching
