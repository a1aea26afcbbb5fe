import Cypfr.Model.BatchingModem

/-! # What the batching functions do

The state that each function of the adapter leaves, and what it asks the modem.
-/

namespace Cypfr.Batching

open Tracking

/-- Nothing is asked by what only says that a subtraction wrapped. -/
theorem asks_of_wrapped {Client : Type} {outputs : List (BatchingOutput Client)}
    (only : ∀ output ∈ outputs, output = .wrapped) : outputs.filterMap BatchingOutput.asked = [] := by
  refine List.filterMap_eq_nil_iff.mpr fun output member => ?_
  rw [only output member]
  rfl

section Programs

variable {Client : Type} [LinearOrder Client] {a : BatchingAdapter Client}

/-- What a program asks the modem. -/
def asked {α : Type} (p : BatchingM Client α) (a : BatchingAdapter Client) : List (BatchingRequest × BatchingResponse Client) :=
  (p.emitted a).filterMap BatchingOutput.asked

@[simp] theorem asked_pure {α : Type} (x : α) : asked (pure x) a = [] := rfl

@[simp] theorem asked_modify (f : BatchingAdapter Client → BatchingAdapter Client) : asked (Emit.modify f) a = [] := rfl

@[simp] theorem asked_get : asked Emit.get a = [] := rfl

@[simp] theorem asked_request (sent : BatchingRequest) (response : BatchingResponse Client) :
    asked (request sent response) a = [(sent, response)] := rfl

@[simp] theorem asked_bind {α β : Type} (p : BatchingM Client α) (f : α → BatchingM Client β) :
    asked (p >>= f) a = asked p a ++ asked (f (p.result a)) (p.next a) := List.filterMap_append

@[simp high] theorem asked_get_bind {β : Type} (g : BatchingAdapter Client → BatchingM Client β) :
    asked (Emit.get >>= g) a = asked (g a) a := rfl

@[simp] theorem asked_ite {α : Type} (c : Prop) [Decidable c] (p q : BatchingM Client α) :
    asked (if c then p else q) a = if c then asked p a else asked q a := by
  split <;> rfl

@[simp] theorem asked_setBatchFull (enabled : Bool) : asked (setBatchFull enabled) a = [] := rfl

@[simp] theorem asked_setOngoingTrip (distance interval : ℕ) : asked (setOngoingTrip distance interval) a = [] := rfl

@[simp] theorem asked_reportResponse (client : Client) (err : LocationError) (sessionId : UInt32) :
    asked (reportResponse client err sessionId) a = [] := rfl

@[simp] theorem next_request (sent : BatchingRequest) (response : BatchingResponse Client) :
    (request sent response).next a = a := rfl

@[simp] theorem next_reportResponse (client : Client) (err : LocationError) (sessionId : UInt32) :
    (reportResponse client err sessionId).next a = a := rfl

@[simp] theorem next_setBatchFull (enabled : Bool) :
    (setBatchFull enabled).next a = { a with batchFull := enabled } := rfl

@[simp] theorem next_setOngoingTrip (distance interval : ℕ) : (setOngoingTrip distance interval).next a =
    { a with mOngoingTripDistance := distance, mOngoingTripTBFInterval := interval } := rfl

@[simp] theorem next_minus (x y : ℕ) : (minus x y).next a = a := by
  simp [minus]

theorem emitted_minus (x y : ℕ) : (minus x y).emitted a = if x < y then [.wrapped] else [] := by
  simp [minus]

theorem wrapped_minus {x y : ℕ} : ∀ output ∈ (minus x y).emitted a, output = .wrapped := by
  intro output member
  rw [emitted_minus] at member
  split_ifs at member
  · exact List.mem_singleton.mp member
  · cases member

@[simp] theorem asked_minus (x y : ℕ) : asked (minus x y) a = [] := asks_of_wrapped wrapped_minus

@[simp] theorem result_minus (x y : ℕ) : (minus x y).result a = sub32 x y := by
  rw [minus, Emit.result_bind, Emit.result_pure]

@[simp] theorem next_leaveBatchFull : leaveBatchFull.next a =
    { a with batchFull := if a.autoReportBatchingSessionsCount = 0 then false else a.batchFull } := by
  rw [leaveBatchFull, Emit.next_get_bind, Emit.next_ite]
  split_ifs <;> rfl

@[simp] theorem asked_leaveBatchFull : asked leaveBatchFull a = [] := by
  simp [leaveBatchFull]

variable (client : Client) (sessionId : UInt32) (options : BatchingOptions)

theorem next_startBatching : (startBatching client sessionId options).next a =
    { a with
      mBatchingSessions := a.mBatchingSessions.insert ⟨client, sessionId⟩ options
      batchFull := if options.batchingMode ≠ .noAutoReport ∧ a.autoReportBatchingSessionsCount = 0 then true
        else a.batchFull } := by
  rw [startBatching, Emit.next_get_bind, Emit.next_bind, Emit.next_ite]
  split_ifs <;> rfl

theorem asked_startBatching : asked (startBatching client sessionId options) a =
    [(.startBatching sessionId options a.mBatchingAccuracy a.mBatchingTimeout, .started client sessionId options)] := by
  rw [startBatching, asked_get_bind, asked_bind, asked_ite]
  split_ifs <;> rfl

theorem next_startTripBatchingMultiplex : (startTripBatchingMultiplex client sessionId options).next a =
    if a.mTripSessions.size = 0 then
      { a with
        mBatchingSessions := a.mBatchingSessions.insert ⟨client, sessionId⟩ options
        mTripSessions := a.mTripSessions.insert sessionId ⟨0, 0, 0, options.minDistance, options.minInterval⟩
        batchFull := if a.autoReportBatchingSessionsCount = 0 then true else a.batchFull }
    else a := by
  rw [startTripBatchingMultiplex, Emit.next_get_bind, Emit.next_ite]
  refine if_congr Iff.rfl ?_ rfl
  rw [Emit.next_bind, Emit.next_ite]
  split_ifs <;> rfl

theorem asked_startTripBatchingMultiplex : asked (startTripBatchingMultiplex client sessionId options) a =
    if a.mTripSessions.size = 0 then
      [(.startOutdoorTripBatching options.minDistance options.minInterval a.mBatchingTimeout,
        .tripStarted client sessionId options)]
    else [(.queryAccumulatedTripDistance, .queriedForStart client sessionId options)] := by
  rw [startTripBatchingMultiplex, asked_get_bind, asked_ite]
  refine if_congr Iff.rfl ?_ rfl
  rw [asked_bind, asked_ite]
  split_ifs <;> rfl

theorem next_stopBatching (restartNeeded : Bool) : (stopBatching client sessionId restartNeeded options).next a =
    { a with mBatchingSessions := a.mBatchingSessions.erase ⟨client, sessionId⟩ } := by
  rw [stopBatching, Emit.next_get_bind]
  cases found : a.mBatchingSessions.find? ⟨client, sessionId⟩ with
  | none => rw [SortedMap.erase_of_notMem (SortedMap.find?_eq_none_iff.mp found), Emit.next_pure]
  | some flpOptions => rfl

theorem asked_stopBatching (restartNeeded : Bool) : asked (stopBatching client sessionId restartNeeded options) a =
    ((a.mBatchingSessions.find? ⟨client, sessionId⟩).map fun flpOptions =>
      (.stopBatching sessionId, .stopped client sessionId flpOptions restartNeeded options)).toList := by
  rw [stopBatching, asked_get_bind]
  cases a.mBatchingSessions.find? ⟨client, sessionId⟩ <;> rfl

@[simp] theorem next_leastRemaining (trips : List (UInt32 × TripSessionStatus)) (distance interval : ℕ) :
    (leastRemaining trips distance interval).next a = a := by
  induction trips generalizing distance interval with
  | nil => rfl
  | cons first rest ih =>
    rw [leastRemaining, Emit.next_bind, next_minus]
    exact ih _ _

theorem next_restartTripBatching (query : Bool) (accDist numbatchedPos : ℕ) :
    (restartTripBatching query accDist numbatchedPos).next a =
      if a.mTripSessions.size = 0 then
        { a with
          mOngoingTripDistance := 0
          mOngoingTripTBFInterval := 0
          batchFull := if a.autoReportBatchingSessionsCount = 0 then false else a.batchFull }
      else a := by
  rw [restartTripBatching, Emit.next_get_bind, Emit.next_ite]
  refine if_congr Iff.rfl ?_ ?_
  · rw [Emit.next_bind, Emit.next_bind, next_leaveBatchFull]
    rfl
  · rw [Emit.next_bind, next_leastRemaining]
    rfl

/-- What `leastRemaining` finds. -/
def least : List (UInt32 × TripSessionStatus) → ℕ → ℕ → ℕ × ℕ
  | [], distance, interval => (distance, interval)
  | (_, trip) :: rest, distance, interval =>
    let remaining := sub32 trip.tripDistance trip.accumulatedDistanceThisTrip
    least rest (if distance = 0 ∨ remaining < distance then remaining else distance)
      (if interval = 0 ∨ trip.tripTBFInterval < interval then trip.tripTBFInterval else interval)

@[simp] theorem result_leastRemaining (trips : List (UInt32 × TripSessionStatus)) (distance interval : ℕ) :
    (leastRemaining trips distance interval).result a = least trips distance interval := by
  induction trips generalizing distance interval with
  | nil => rfl
  | cons first rest ih =>
    rw [leastRemaining, Emit.result_bind, next_minus, result_minus]
    exact ih _ _

theorem wrapped_leastRemaining (trips : List (UInt32 × TripSessionStatus)) (distance interval : ℕ) :
    ∀ output ∈ (leastRemaining trips distance interval).emitted a, output = .wrapped := by
  induction trips generalizing distance interval with
  | nil =>
    intro output member
    cases member
  | cons first rest ih =>
    intro output member
    rw [leastRemaining, Emit.emitted_bind, next_minus] at member
    rcases List.mem_append.mp member with here | later
    · exact wrapped_minus output here
    · exact ih _ _ output later

theorem asked_leastRemaining (trips : List (UInt32 × TripSessionStatus)) (distance interval : ℕ) :
    asked (leastRemaining trips distance interval) a = [] := asks_of_wrapped (wrapped_leastRemaining _ _ _)

theorem asked_restartTripBatching (query : Bool) (accDist numbatchedPos : ℕ) :
    asked (restartTripBatching query accDist numbatchedPos) a =
      if a.mTripSessions.size = 0 then [(.stopOutdoorTripBatching true, .ignore)]
      else [(.queryAccumulatedTripDistance, .queriedForRestart query (least a.mTripSessions.entries 0 0).1
        (least a.mTripSessions.entries 0 0).2 accDist numbatchedPos)] := by
  rw [restartTripBatching, asked_get_bind, asked_ite]
  refine if_congr Iff.rfl ?_ ?_
  · simp
  · rw [asked_bind, asked_leastRemaining, next_leastRemaining, result_leastRemaining]
    rfl

theorem next_dropTrip (trip : TripSessionStatus) : (dropTrip sessionId trip).next a =
    { a with
      mTripSessions := a.mTripSessions.erase sessionId
      mTripWithOngoingTBFDropped := a.mTripWithOngoingTBFDropped || trip.tripTBFInterval == a.mOngoingTripTBFInterval
      mTripWithOngoingTripDistanceDropped :=
        a.mTripWithOngoingTripDistanceDropped || trip.tripDistance == a.mOngoingTripDistance } := rfl

end Programs

section Trips

/-- The distance of a trip when that of the ongoing batch is known. -/
def TripSessionStatus.at (trip : TripSessionStatus) (distance : ℕ) : ℕ :=
  add32 trip.accumulatedDistanceOnTripRestart (sub32 distance trip.accumulatedDistanceOngoingBatch)

/-- A trip that is counted from a distance of the ongoing batch on. -/
def TripSessionStatus.rebase (trip : TripSessionStatus) (distance : ℕ) : TripSessionStatus :=
  { trip with
    accumulatedDistanceThisTrip := trip.at distance
    accumulatedDistanceOngoingBatch := 0
    accumulatedDistanceOnTripRestart := trip.at distance }

/-- A trip after a report, unless it is completed. -/
def TripSessionStatus.report (trip : TripSessionStatus) (distance : ℕ) : Option TripSessionStatus :=
  if trip.tripDistance ≤ trip.at distance then none
  else some { trip with accumulatedDistanceThisTrip := trip.at distance }

variable {Client : Type} [LinearOrder Client] {a : BatchingAdapter Client}

@[simp] theorem next_travelled (trip : TripSessionStatus) (distance : ℕ) : (trip.travelled distance).next a = a := by
  rw [TripSessionStatus.travelled, Emit.next_bind, next_minus, Emit.next_pure]

@[simp] theorem result_travelled (trip : TripSessionStatus) (distance : ℕ) :
    (trip.travelled distance).result a = trip.at distance := by
  rw [TripSessionStatus.travelled, Emit.result_bind, next_minus, Emit.result_pure, result_minus]
  rfl

theorem next_rebaseTrips (distance : ℕ) (trips : List (UInt32 × TripSessionStatus)) :
    (rebaseTrips distance trips).next a =
      { a with
        mTripSessions :=
          trips.foldl (fun m entry => m.insert entry.1 (entry.2.rebase distance)) a.mTripSessions } := by
  induction trips generalizing a with
  | nil => rfl
  | cons first rest ih =>
    rw [rebaseTrips, Emit.next_bind, next_travelled, result_travelled, Emit.next_bind, ih]
    rfl

theorem wrapped_travelled (trip : TripSessionStatus) (distance : ℕ) :
    ∀ output ∈ (trip.travelled distance).emitted a, output = .wrapped := by
  intro output member
  rw [TripSessionStatus.travelled, Emit.emitted_bind, Emit.emitted_pure, List.append_nil] at member
  exact wrapped_minus output member

theorem wrapped_rebaseTrips (distance : ℕ) (trips : List (UInt32 × TripSessionStatus)) :
    ∀ output ∈ (rebaseTrips distance trips).emitted a, output = .wrapped := by
  induction trips generalizing a with
  | nil =>
    intro output member
    cases member
  | cons first rest ih =>
    intro output member
    rw [rebaseTrips, Emit.emitted_bind] at member
    rcases List.mem_append.mp member with here | later
    · exact wrapped_travelled _ _ output here
    · exact ih output later

theorem asked_rebaseTrips (distance : ℕ) (trips : List (UInt32 × TripSessionStatus)) :
    asked (rebaseTrips distance trips) a = [] := asks_of_wrapped (wrapped_rebaseTrips distance trips)

/-- A report at one trip. -/
theorem next_completeTrips_cons (distance : ℕ) (id : UInt32) (trip : TripSessionStatus)
    (rest : List (UInt32 × TripSessionStatus)) : ∃ tbfDropped distanceDropped,
      (completeTrips distance ((id, trip) :: rest)).next a = (completeTrips distance rest).next
        { a with
          mTripSessions := match trip.report distance with
            | some after => a.mTripSessions.insert id after
            | none => a.mTripSessions.erase id
          mTripWithOngoingTBFDropped := tbfDropped
          mTripWithOngoingTripDistanceDropped := distanceDropped } ∧
      (completeTrips distance ((id, trip) :: rest)).result a =
        (if trip.report distance = none then [id] else []) ++ (completeTrips distance rest).result
          { a with
            mTripSessions := match trip.report distance with
              | some after => a.mTripSessions.insert id after
              | none => a.mTripSessions.erase id
            mTripWithOngoingTBFDropped := tbfDropped
            mTripWithOngoingTripDistanceDropped := distanceDropped } := by
  rw [completeTrips, Emit.next_bind, next_travelled, result_travelled, Emit.result_bind, next_travelled,
    result_travelled, TripSessionStatus.report]
  by_cases completed : trip.tripDistance ≤ trip.at distance
  · simp only [if_pos completed]
    exact ⟨_, _, rfl, rfl⟩
  · simp only [if_neg completed]
    exact ⟨_, _, rfl, rfl⟩

/-- A report takes the completed trips out and leaves the rest of the adapter but for what is dropped. -/
theorem next_completeTrips (distance : ℕ) (trips : List (UInt32 × TripSessionStatus))
    (nodup : (trips.map Prod.fst).Nodup) : ∃ left tbfDropped distanceDropped,
      (completeTrips distance trips).next a =
        { a with
          mTripSessions := left
          mTripWithOngoingTBFDropped := tbfDropped
          mTripWithOngoingTripDistanceDropped := distanceDropped } ∧
      (∀ id trip, (id, trip) ∈ trips → left.find? id = trip.report distance) ∧
      (∀ id ∉ trips.map Prod.fst, left.find? id = a.mTripSessions.find? id) ∧
      (completeTrips distance trips).result a =
        (trips.filter fun entry => entry.2.report distance = none).map Prod.fst := by
  induction trips generalizing a with
  | nil => exact ⟨_, _, _, rfl, fun _ _ member => absurd member List.not_mem_nil, fun _ _ => rfl, rfl⟩
  | cons first rest ih =>
    obtain ⟨id, trip⟩ := first
    obtain ⟨notRest, nodup⟩ := List.nodup_cons.mp nodup
    obtain ⟨tbf, dropped, next, result⟩ := next_completeTrips_cons (a := a) distance id trip rest
    generalize here : ({ a with
        mTripSessions := match trip.report distance with
          | some after => a.mTripSessions.insert id after
          | none => a.mTripSessions.erase id
        mTripWithOngoingTBFDropped := tbf
        mTripWithOngoingTripDistanceDropped := dropped } : BatchingAdapter Client) = one at next result
    obtain ⟨left, tbfDropped, distanceDropped, after, among, others, completed⟩ := ih (a := one) nodup
    have own (other : UInt32) : one.mTripSessions.find? other =
        if other = id then trip.report distance else a.mTripSessions.find? other := by
      rw [← here]
      cases trip.report distance with
      | none => exact SortedMap.find?_erase
      | some status => exact SortedMap.find?_insert
    refine ⟨left, tbfDropped, distanceDropped, ?_, fun other status member => ?_, fun other notAmong => ?_, ?_⟩
    · rw [next, after, ← here]
    · rcases List.mem_cons.mp member with same | later
      · cases same
        rw [others id notRest, own, if_pos rfl]
      · exact among other status later
    · rw [List.map_cons, List.mem_cons, not_or] at notAmong
      rw [others other notAmong.2, own, if_neg notAmong.1]
    · rw [result, completed, List.filter_cons]
      by_cases ends : trip.report distance = none <;> simp [ends]

theorem wrapped_completeTrips (distance : ℕ) (trips : List (UInt32 × TripSessionStatus)) :
    ∀ output ∈ (completeTrips distance trips).emitted a, output = .wrapped := by
  induction trips generalizing a with
  | nil =>
    intro output member
    cases member
  | cons first rest ih =>
    intro output member
    rw [completeTrips, Emit.emitted_bind] at member
    rcases List.mem_append.mp member with here | later
    · exact wrapped_travelled _ _ output here
    · rw [next_travelled, result_travelled, Emit.emitted_ite] at later
      split_ifs at later
      · rw [Emit.emitted_bind, Emit.emitted_bind, Emit.emitted_pure, List.append_nil] at later
        exact ih output later
      · exact ih output later

theorem asked_completeTrips (distance : ℕ) (trips : List (UInt32 × TripSessionStatus)) :
    asked (completeTrips distance trips) a = [] := asks_of_wrapped (wrapped_completeTrips distance trips)

/-- Some trip is completed at a distance of the ongoing batch. -/
def BatchingAdapter.Completes (a : BatchingAdapter Client) (distance : ℕ) : Prop :=
  ∃ id trip, a.mTripSessions.find? id = some trip ∧ trip.report distance = none

/-- The count of sessions that are interested in full batches. -/
theorem autoReportBatchingSessionsCount_eq_zero_iff : a.autoReportBatchingSessionsCount = 0 ↔
    (∀ key options, a.mBatchingSessions.find? key = some options → options.batchingMode = .noAutoReport) ∧
      ∀ id, id ∉ a.mTripSessions := by
  rw [BatchingAdapter.autoReportBatchingSessionsCount, Nat.add_eq_zero_iff, SortedMap.size_eq_zero_iff,
    List.countP_eq_zero]
  refine and_congr_left fun _ => ⟨fun none key options found => ?_, fun none entry member => ?_⟩
  · have := none _ (SortedMap.find?_eq_some_iff.mp found)
    simpa using this
  · have := none entry.1 entry.2 (SortedMap.find?_eq_some_iff.mpr member)
    simpa using this

/-- The trips that a report completes. -/
theorem mem_completeTrips_iff (distance : ℕ) {id : UInt32} :
    id ∈ (completeTrips distance a.mTripSessions.entries).result a ↔
      ∃ trip, a.mTripSessions.find? id = some trip ∧ trip.report distance = none := by
  obtain ⟨_, _, _, -, -, -, completed⟩ :=
    next_completeTrips (a := a) distance a.mTripSessions.entries SortedMap.nodup_keys
  rw [completed, List.mem_map]
  constructor
  · rintro ⟨⟨id, trip⟩, member, rfl⟩
    obtain ⟨member, ends⟩ := List.mem_filter.mp member
    exact ⟨trip, SortedMap.find?_eq_some_iff.mpr member, of_decide_eq_true ends⟩
  · rintro ⟨trip, found, ends⟩
    exact ⟨(id, trip), List.mem_filter.mpr ⟨SortedMap.find?_eq_some_iff.mp found, decide_eq_true ends⟩, rfl⟩

/-- What a report leaves: the sessions, the trips that are not completed, and the event for full batches unless no
trip is left and no session is interested in it. -/
theorem reportCompletedTripsEvent_spec (distance : ℕ) :
    let after := (reportCompletedTripsEvent distance).next a
    after.mBatchingSessions = a.mBatchingSessions ∧
      (∀ id, after.mTripSessions.find? id = (a.mTripSessions.find? id).bind (·.report distance)) ∧
      (after.batchFull = true ↔ a.batchFull = true ∧
        ¬ (a.Completes distance ∧ after.autoReportBatchingSessionsCount = 0)) := by
  obtain ⟨left, tbf, dropped, next, among, others, -⟩ :=
    next_completeTrips (a := a) distance a.mTripSessions.entries SortedMap.nodup_keys
  have trips (id : UInt32) : left.find? id = (a.mTripSessions.find? id).bind (·.report distance) := by
    cases found : a.mTripSessions.find? id with
    | none =>
      refine (others id fun known => ?_).trans found
      obtain ⟨⟨_, trip⟩, member, rfl⟩ := List.mem_map.mp known
      exact SortedMap.find?_eq_none_iff.mp found ⟨trip, member⟩
    | some trip => exact among id trip (SortedMap.find?_eq_some_iff.mp found)
  have completes : (completeTrips distance a.mTripSessions.entries).result a ≠ [] ↔ a.Completes distance := by
    constructor
    · intro nonempty
      exact (List.exists_mem_of_ne_nil _ nonempty).imp fun _ => (mem_completeTrips_iff distance).mp
    · rintro ⟨id, completed⟩
      exact List.ne_nil_of_mem ((mem_completeTrips_iff distance).mpr completed)
  rw [reportCompletedTripsEvent, Emit.next_get_bind, Emit.next_bind, Emit.next_ite]
  split_ifs with some
  · have ends := completes.mp some
    rw [Emit.next_bind, next, next_restartTripBatching, Emit.next_emit]
    split_ifs with none unconcerned
    · exact ⟨rfl, trips, iff_of_false Bool.false_ne_true fun ⟨_, stays⟩ => stays ⟨ends, unconcerned⟩⟩
    · exact ⟨rfl, trips, (and_iff_left fun ⟨_, zero⟩ => unconcerned zero).symm⟩
    · refine ⟨rfl, trips, (and_iff_left fun ⟨_, zero⟩ => none ?_).symm⟩
      exact SortedMap.size_eq_zero_iff.mpr (autoReportBatchingSessionsCount_eq_zero_iff.mp zero).2
  · rw [Emit.next_pure, next]
    exact ⟨rfl, trips, (and_iff_left fun ⟨ends, _⟩ => some (completes.mpr ends)).symm⟩

end Trips

section Multiplex

variable {Client : Type} [LinearOrder Client] {a : BatchingAdapter Client} (client : Client) (sessionId : UInt32)
  (options : BatchingOptions)

/-- The adapter without a trip. -/
def BatchingAdapter.without (a : BatchingAdapter Client) (sessionId : UInt32) (trip : TripSessionStatus) :
    BatchingAdapter Client :=
  { a with
    mTripSessions := a.mTripSessions.erase sessionId
    mTripWithOngoingTBFDropped := a.mTripWithOngoingTBFDropped || trip.tripTBFInterval == a.mOngoingTripTBFInterval
    mTripWithOngoingTripDistanceDropped :=
      a.mTripWithOngoingTripDistanceDropped || trip.tripDistance == a.mOngoingTripDistance
    mOngoingTripDistance := if (a.mTripSessions.erase sessionId).size = 0 then 0 else a.mOngoingTripDistance
    mOngoingTripTBFInterval := if (a.mTripSessions.erase sessionId).size = 0 then 0 else a.mOngoingTripTBFInterval }

theorem next_continueTrips (trip : TripSessionStatus) :
    continueTrips.next ((dropTrip sessionId trip).next a) = a.without sessionId trip := by
  rw [continueTrips, Emit.next_get_bind, Emit.next_ite, next_setOngoingTrip, next_restartTripBatching, next_dropTrip,
    BatchingAdapter.without]
  split_ifs <;> rfl

/-- A trip that is stopped is dropped, and started again if need be. -/
theorem next_stopTripBatchingMultiplexCommon {trip : TripSessionStatus} (err : LocationError) (restartNeeded : Bool)
    (found : a.mTripSessions.find? sessionId = some trip) :
    (stopTripBatchingMultiplexCommon err client sessionId restartNeeded options).next a =
      if restartNeeded then (startSession client sessionId options).next
        { a.without sessionId trip with mBatchingSessions := a.mBatchingSessions.erase ⟨client, sessionId⟩ }
      else a.without sessionId trip := by
  rw [stopTripBatchingMultiplexCommon, Emit.next_get_bind, found]
  simp only [Emit.next_bind, next_continueTrips, Emit.next_ite, next_reportResponse]
  rfl

@[simp] theorem next_leftInBatch (distance : ℕ) : (leftInBatch distance).next a = a := by
  simp [leftInBatch]

theorem next_restartWithDistance (query : Bool) (minRemainingDistance minTBFInterval accDist : ℕ)
    (data : LocApiBatchData) :
    (restartWithDistance query minRemainingDistance minTBFInterval accDist data).next a = a := by
  rw [restartWithDistance, Emit.next_bind, next_leftInBatch, Emit.next_get_bind]
  cases a.batchWithout minRemainingDistance minTBFInterval _ <;> rfl

/-- The trips after the distance of the ongoing batch is known. -/
def BatchingAdapter.savedTrips (a : BatchingAdapter Client) (err : LocationError) (data : LocApiBatchData) :
    SortedMap UInt32 TripSessionStatus :=
  if err = .success then
    a.mTripSessions.insert sessionId ⟨data.accumulatedDistance, 0, 0, options.minDistance, options.minInterval⟩
  else a.mTripSessions

theorem next_saveTrip (err : LocationError) (data : LocApiBatchData) : (saveTrip sessionId options err data).next a =
    { a with mTripSessions := a.savedTrips sessionId options err data } := by
  rw [saveTrip, Emit.next_get_bind, Emit.next_ite, BatchingAdapter.savedTrips, Emit.next_bind, next_minus]
  split_ifs <;> rfl

theorem result_saveTrip (err : LocationError) (data : LocApiBatchData) :
    (saveTrip sessionId options err data).result a =
      if err = .success then sub32 a.mOngoingTripDistance data.accumulatedDistance
      else a.mOngoingTripDistance := by
  rw [saveTrip, Emit.result_get_bind, Emit.result_ite, Emit.result_bind, Emit.result_bind, Emit.result_pure,
    Emit.result_pure, result_minus]

/-- A trip that joins the ongoing batch is saved when its distance is known, and the others are counted from the restart
of the batch on if it needs one. -/
theorem next_joinTripBatch (err : LocationError) (data : LocApiBatchData) :
    (joinTripBatch client sessionId options err data).next a =
      match a.distanceWith options ((saveTrip sessionId options err data).result a) with
      | some distance =>
        { a with
          mOngoingTripDistance := distance
          mOngoingTripTBFInterval := min options.minInterval a.mOngoingTripTBFInterval
          mTripSessions := (a.savedTrips sessionId options err data).mapValues fun trip =>
            { trip with
              accumulatedDistanceOngoingBatch := 0
              accumulatedDistanceOnTripRestart := trip.accumulatedDistanceThisTrip } }
      | none => { a with mTripSessions := a.savedTrips sessionId options err data } := by
  rw [joinTripBatch, Emit.next_get_bind, Emit.next_bind, next_saveTrip]
  cases a.distanceWith options ((saveTrip sessionId options err data).result a) <;> rfl

theorem asked_stopTripBatchingMultiplexCommon {trip : TripSessionStatus} (err : LocationError) (restartNeeded : Bool)
    (found : a.mTripSessions.find? sessionId = some trip) :
    asked (stopTripBatchingMultiplexCommon err client sessionId restartNeeded options) a =
      asked continueTrips ((dropTrip sessionId trip).next a) ++
        if restartNeeded then asked (startSession client sessionId options)
          { a.without sessionId trip with mBatchingSessions := a.mBatchingSessions.erase ⟨client, sessionId⟩ }
        else [] := by
  rw [stopTripBatchingMultiplexCommon, asked_get_bind, found]
  simp only [asked_bind, asked_ite, asked_reportResponse, List.append_nil, asked_pure]
  rw [next_continueTrips]
  rfl

theorem asked_joinTripBatch (err : LocationError) (data : LocApiBatchData) :
    asked (joinTripBatch client sessionId options err data) a =
      match a.distanceWith options ((saveTrip sessionId options err data).result a) with
      | some distance =>
        [(.reStartOutdoorTripBatching distance (min options.minInterval a.mOngoingTripTBFInterval) a.mBatchingTimeout,
          .tripRestarted client sessionId)]
      | none => [] := by
  have saves : asked (saveTrip sessionId options err data) a = [] := by
    rw [saveTrip, asked_get_bind, asked_ite, asked_bind, asked_minus]
    split_ifs <;> rfl
  rw [joinTripBatch, asked_get_bind, asked_bind, saves]
  cases a.distanceWith options ((saveTrip sessionId options err data).result a) <;> rfl

theorem asked_restartWithDistance (query : Bool) (minRemainingDistance minTBFInterval accDist : ℕ)
    (data : LocApiBatchData) :
    let distance := if query then data.accumulatedDistance else accDist
    asked (restartWithDistance query minRemainingDistance minTBFInterval accDist data) a =
      match a.batchWithout minRemainingDistance minTBFInterval ((leftInBatch distance).result a) with
      | some batch =>
        [(.reStartOutdoorTripBatching batch.1 batch.2 a.mBatchingTimeout, .rebased distance batch.1 batch.2)]
      | none => [] := by
  intro distance
  have leaves : asked (leftInBatch distance) a = [] := by
    rw [leftInBatch, asked_get_bind, asked_ite, asked_minus, asked_pure, ite_self]
  rw [restartWithDistance, asked_bind, leaves, next_leftInBatch, asked_get_bind]
  cases a.batchWithout minRemainingDistance minTBFInterval ((leftInBatch distance).result a) <;> rfl

theorem next_restartBatching : restartBatching.next a = a := by
  rw [restartBatching, Emit.next_get_bind, Emit.next_forM]
  exact List.foldl_fixed _

theorem asked_restartBatching : asked restartBatching a =
    (a.mBatchingSessions.entries.filter fun session => session.2.batchingMode ≠ .trip).map fun session =>
      (.startBatching session.1.id session.2 a.mBatchingAccuracy a.mBatchingTimeout, .ignore) := by
  rw [restartBatching, asked_get_bind]
  induction a.mBatchingSessions.entries.filter fun session => session.2.batchingMode ≠ .trip with
  | nil => rfl
  | cons first rest ih => exact congrArg (_ :: ·) ih

theorem next_restartTrips : restartTrips.next a =
    if 0 < a.mTripSessions.size then
      { a with
        mOngoingTripDistance := (least a.mTripSessions.entries 0 0).1
        mOngoingTripTBFInterval := (least a.mTripSessions.entries 0 0).2 }
    else a := by
  rw [restartTrips, Emit.next_get_bind, Emit.next_ite]
  refine if_congr Iff.rfl ?_ rfl
  rw [Emit.next_bind, next_leastRemaining, result_leastRemaining]
  rfl

theorem asked_restartTrips : asked restartTrips a =
    if 0 < a.mTripSessions.size then
      [(.startOutdoorTripBatching (least a.mTripSessions.entries 0 0).1 (least a.mTripSessions.entries 0 0).2
        a.mBatchingTimeout, .tripsRestarted)]
    else [] := by
  rw [restartTrips, asked_get_bind, asked_ite]
  refine if_congr Iff.rfl ?_ rfl
  rw [asked_bind, asked_leastRemaining, next_leastRemaining, result_leastRemaining]
  rfl

/-- The adapter with the event for full batches if a session is interested in it. -/
def BatchingAdapter.interested (a : BatchingAdapter Client) : BatchingAdapter Client :=
  { a with batchFull := if 0 < a.autoReportBatchingSessionsCount then true else a.batchFull }

theorem next_restartSessions : restartSessions.next a = restartTrips.next a.interested := by
  rw [restartSessions, Emit.next_get_bind, Emit.next_bind, Emit.next_bind, next_restartBatching, Emit.next_ite,
    BatchingAdapter.interested]
  split_ifs <;> rfl

theorem asked_restartSessions :
    asked restartSessions a = asked restartBatching a.interested ++ asked restartTrips a.interested := by
  rw [restartSessions, asked_get_bind, asked_bind, asked_bind, next_restartBatching, asked_ite, Emit.next_ite,
    BatchingAdapter.interested]
  split_ifs <;> rfl

end Multiplex

section Answers

variable {Client : Type} [LinearOrder Client] {a : BatchingAdapter Client} (client : Client) (sessionId : UInt32)
  (options : BatchingOptions) (err : LocationError) (data : LocApiBatchData)

/-- The adapter after a session with a mode has left. -/
def BatchingAdapter.left (a : BatchingAdapter Client) (mode : BatchingMode) : BatchingAdapter Client :=
  { a with batchFull := if mode ≠ .noAutoReport ∧ a.autoReportBatchingSessionsCount = 0 then false else a.batchFull }

theorem left_trip : a.left .trip = leaveBatchFull.next a := by
  simp only [next_leaveBatchFull, BatchingAdapter.left, ne_eq, reduceCtorEq, not_false_eq_true, true_and]

theorem next_ite_leaveBatchFull (mode : BatchingMode) :
    (if mode ≠ .noAutoReport then leaveBatchFull else pure () : BatchingM Client Unit).next a = a.left mode := by
  rw [Emit.next_ite, next_leaveBatchFull, BatchingAdapter.left]
  by_cases auto : mode = .noAutoReport <;> simp [auto]

/-- A session is erased that fails to start. -/
theorem next_started : ((BatchingResponse.started client sessionId options).proc err data).next a =
    if err = .success then a
    else { a with mBatchingSessions := a.mBatchingSessions.erase ⟨client, sessionId⟩ }.left options.batchingMode := by
  rw [BatchingResponse.proc, Emit.next_bind, Emit.next_bind, next_reportResponse, Emit.next_ite]
  by_cases success : err = .success
  · simp [success]
  · simp only [ne_eq, success, not_false_eq_true, true_and, if_true, if_false]
    have left := next_ite_leaveBatchFull (a := (eraseBatchingSession client sessionId).next a) options.batchingMode
    rwa [Emit.next_ite] at left

/-- A session that fails to stop is saved as it was to be; one that stops starts again if it is to. -/
theorem next_stopped (flpOptions : BatchingOptions) (restartNeeded : Bool) :
    ((BatchingResponse.stopped client sessionId flpOptions restartNeeded options).proc err data).next a =
      if err = .success then
        if restartNeeded then (startSession client sessionId options).next (a.left flpOptions.batchingMode)
        else a.left flpOptions.batchingMode
      else { a with mBatchingSessions := a.mBatchingSessions.insert ⟨client, sessionId⟩ options } := by
  rw [BatchingResponse.proc, Emit.next_bind, next_reportResponse, Emit.next_ite, Emit.next_bind,
    next_ite_leaveBatchFull, Emit.next_ite]
  by_cases success : err = .success <;> simp [success, saveBatchingSession]

/-- The first trip is the ongoing one, or erased if it fails to start. -/
theorem next_tripStarted : ((BatchingResponse.tripStarted client sessionId options).proc err data).next a =
    if err = .success then
      { a with mOngoingTripDistance := options.minDistance, mOngoingTripTBFInterval := options.minInterval }
    else
      { a with
        mBatchingSessions := a.mBatchingSessions.erase ⟨client, sessionId⟩
        mTripSessions := a.mTripSessions.erase sessionId }.left .trip := by
  rw [BatchingResponse.proc, Emit.next_bind, next_reportResponse, Emit.next_ite]
  by_cases success : err = .success
  · rw [if_pos success, if_pos success, next_setOngoingTrip]
  · rw [if_neg success, if_neg success, Emit.next_bind, Emit.next_bind, left_trip]
    rfl

theorem next_tripStopped (restartNeeded : Bool) :
    ((BatchingResponse.tripStopped client sessionId restartNeeded options).proc err data).next a =
      (stopTripBatchingMultiplexCommon err client sessionId restartNeeded options).next
        { a with
          batchFull := if err = .success ∧ a.autoReportBatchingSessionsCount = 1 then false else a.batchFull } := by
  rw [BatchingResponse.proc, Emit.next_get_bind, Emit.next_bind, Emit.next_ite]
  split_ifs <;> rfl

/-- The trips are counted from a distance of the batch on when it has been restarted. -/
theorem next_rebased (accumulatedDistance distance interval : ℕ) :
    ((BatchingResponse.rebased accumulatedDistance distance interval).proc err data).next a =
      if err = .success then
        { a with
          mTripSessions := a.mTripSessions.mapValues (·.rebase accumulatedDistance)
          mOngoingTripDistance := distance
          mOngoingTripTBFInterval := interval }
      else a := by
  have all := SortedMap.foldl_insert_entries (m := a.mTripSessions)
    (f := fun trip => trip.rebase accumulatedDistance)
  rw [BatchingResponse.proc, Emit.next_ite, Emit.next_get_bind, Emit.next_bind, next_rebaseTrips, next_setOngoingTrip,
    all]
  rfl

end Answers

end Cypfr.Batching
