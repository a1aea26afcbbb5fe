import Cypfr.Model.TripOdometer
import Cypfr.Proofs.Batching
import Cypfr.ToMathlib.Odometer

/-! # What the trips tell of their distances

Each trip keeps a leg: the reading it is counted on from, and what was covered before. The reading is that of the
odometer, or zero while the adapter waits for a reset that it has already counted on. A program that asks for no such
reset and leaves the legs keeps what the trips tell.
-/

namespace Cypfr.Batching

open Tracking

def TripSessionStatus.leg (trip : TripSessionStatus) : Leg :=
  ⟨trip.accumulatedDistanceOngoingBatch, trip.accumulatedDistanceOnTripRestart⟩

/-- The reading is zero when the function runs. -/
def BatchingResponse.resets {Client : Type} : BatchingResponse Client → Bool
  | .tripStarted .. | .tripRestarted .. | .rebased .. | .tripsRestarted => true
  | _ => false

/-- The trips count on from zero before the modem has done it. -/
def BatchingResponse.anticipates {Client : Type} : BatchingResponse Client → Bool
  | .tripStarted .. | .tripRestarted .. | .tripsRestarted => true
  | _ => false

/-- No subtraction wraps, and no reset is counted on. -/
def BatchingOutput.Calm {Client : Type} : BatchingOutput Client → Prop
  | .wrapped => False
  | .request sent response => sent.resets = response.resets ∧ response.anticipates = false
  | _ => True

section Arithmetic

variable {trip : TripSessionStatus} {reading distance : ℕ}

/-- Within 32 bits the distance of a trip is that of its leg. -/
theorem at_of_tells (tells : trip.leg.Tells reading distance) (bounded : distance < 2 ^ 32) :
    trip.at reading = distance := by
  have counted : trip.accumulatedDistanceOngoingBatch ≤ reading := tells.counted
  have total : trip.accumulatedDistanceOnTripRestart + (reading - trip.accumulatedDistanceOngoingBatch) = distance :=
    tells.total
  have since : sub32 reading trip.accumulatedDistanceOngoingBatch = reading - trip.accumulatedDistanceOngoingBatch := by
    rw [sub32, Nat.add_sub_assoc counted, Nat.add_mod_left, Nat.mod_eq_of_lt (by omega)]
  rw [TripSessionStatus.at, since, add32, total, Nat.mod_eq_of_lt bounded]

end Arithmetic

namespace Ride

variable {Client : Type} [LinearOrder Client] {r : Ride Client}

abbrev trips (r : Ride Client) : SortedMap UInt32 TripSessionStatus := r.session.adapter.mTripSessions

/-- A reset is counted on. -/
def anticipates (r : Ride Client) : Bool := r.session.outstanding.any fun awaited => awaited.2.anticipates

/-- The reading that the trips are counted by. -/
def reading (r : Ride Client) : ℕ := if r.anticipates then 0 else r.odometer

/-- A trip tells its distance; one that has not started waits for it. -/
structure Tells (r : Ride Client) (id : UInt32) (trip : TripSessionStatus) : Prop where
  told : trip.leg.Tells r.reading (r.distance id)
  bounded : r.distance id < 2 ^ 32
  started : r.meter id = none →
    ∃ sent client options, (sent, BatchingResponse.tripStarted client id options) ∈ r.session.outstanding

/-- All trips tell their distances, the requests are those that the functions for their answers expect, and no
subtraction has wrapped. -/
structure Tracked (r : Ride Client) : Prop where
  trips : ∀ id trip, r.trips.find? id = some trip → r.Tells id trip
  paired : ∀ awaited ∈ r.session.outstanding, awaited.1.resets = awaited.2.resets
  unwrapped : .wrapped ∉ r.session.log

section Rules

variable {α β : Type} {p : BatchingM Client α} {f : α → BatchingM Client β}

theorem after_bind : r.after (p >>= f) = (r.after p).after (f (p.result r.session.adapter)) := by
  have meters (first second : Bool) (m : Option ℕ) : (if (first || second) = true then none else m) =
      if second = true then none else if first = true then none else m := by
    cases first <;> cases second <;> rfl
  simp only [after, Emit.emitted_bind, Emit.next_bind, List.filterMap_append, List.append_assoc, List.any_append]
  congr 1
  exact funext fun id => meters _ _ _

theorem after_get_bind {g : BatchingAdapter Client → BatchingM Client β} :
    r.after (Emit.get >>= g) = r.after (g r.session.adapter) := rfl

@[simp] theorem after_pure (x : α) : r.after (pure x) = r := by
  simp [after]

end Rules

section Primitives

variable {α : Type} {p : BatchingM Client α} {id : UInt32} {trip : TripSessionStatus}

theorem mem_outstanding_after {awaited : BatchingRequest × BatchingResponse Client} :
    awaited ∈ (r.after p).session.outstanding ↔ awaited ∈ r.session.outstanding ∨
      .request awaited.1 awaited.2 ∈ p.emitted r.session.adapter := by
  rw [after, List.mem_append, List.mem_filterMap]
  apply or_congr_right
  constructor
  · rintro ⟨output, member, asked⟩
    cases output with
    | request sent response => exact Option.some.inj asked ▸ member
    | _ => cases asked
  · exact fun member => ⟨_, member, rfl⟩

theorem reading_after (calm : ∀ output ∈ p.emitted r.session.adapter, output.Calm) :
    (r.after p).reading = r.reading := by
  have same : (r.after p).anticipates = r.anticipates := by
    apply Bool.eq_iff_iff.mpr
    rw [anticipates, anticipates, List.any_eq_true, List.any_eq_true]
    constructor
    · rintro ⟨awaited, member, waits⟩
      rcases mem_outstanding_after.mp member with earlier | asked
      · exact ⟨awaited, earlier, waits⟩
      · exact absurd (calm _ asked).2 (by rw [waits]; decide)
    · rintro ⟨awaited, member, waits⟩
      exact ⟨awaited, mem_outstanding_after.mpr (.inl member), waits⟩
  rw [reading, same]
  rfl

theorem meter_after (calm : ∀ output ∈ p.emitted r.session.adapter, output.Calm) : (r.after p).meter = r.meter := by
  funext id
  apply if_neg
  rw [List.any_eq_true]
  rintro ⟨output, member, asks⟩
  have rests := calm output member
  cases output with
  | request sent response =>
    cases response with
    | tripStarted => exact absurd rests.2.symm Bool.false_ne_true
    | _ => cases asks
  | _ => cases asks

/-- What a trip tells is kept. -/
theorem Tells.after (tells : r.Tells id trip) (calm : ∀ output ∈ p.emitted r.session.adapter, output.Calm) :
    (r.after p).Tells id trip where
  told := by rw [reading_after calm, distance, meter_after calm]; exact tells.told
  bounded := by rw [distance, meter_after calm]; exact tells.bounded
  started none := by
    rw [meter_after calm] at none
    obtain ⟨sent, client, options, member⟩ := tells.started none
    exact ⟨sent, client, options, mem_outstanding_after.mpr (.inl member)⟩

theorem Tells.of_leg {trip' : TripSessionStatus} (tells : r.Tells id trip) (same : trip'.leg = trip.leg) :
    r.Tells id trip' :=
  ⟨same ▸ tells.told, tells.bounded, tells.started⟩

/-- A calm program that leaves the legs of the trips. -/
theorem Tracked.after (tracked : r.Tracked) (calm : ∀ output ∈ p.emitted r.session.adapter, output.Calm)
    (legs : ∀ id trip', (p.next r.session.adapter).mTripSessions.find? id = some trip' →
      ∃ trip, r.trips.find? id = some trip ∧ trip'.leg = trip.leg) : (r.after p).Tracked where
  trips id trip' found := by
    obtain ⟨trip, before, same⟩ := legs id trip' found
    exact ((tracked.trips id trip before).of_leg same).after calm
  paired awaited member := by
    rcases mem_outstanding_after.mp member with earlier | asked
    · exact tracked.paired awaited earlier
    · exact (calm _ asked).1
  unwrapped member := by
    rcases List.mem_append.mp member with earlier | here
    · exact tracked.unwrapped earlier
    · exact calm _ here

theorem tracked_modify {f : BatchingAdapter Client → BatchingAdapter Client}
    (same : ∀ a, (f a).mTripSessions = a.mTripSessions) (tracked : r.Tracked) : (r.after (Emit.modify f)).Tracked :=
  tracked.after (fun _ => List.not_mem_nil.elim) fun id trip found =>
    ⟨trip, (congrArg (·.find? id) (same _)).symm.trans found, rfl⟩

theorem tracked_emit {output : BatchingOutput Client} (calm : output.Calm) (tracked : r.Tracked) :
    (r.after (Emit.emit output)).Tracked :=
  tracked.after (fun _ member => List.mem_singleton.mp member ▸ calm) fun _ trip found => ⟨trip, found, rfl⟩

theorem tracked_pure {x : α} (tracked : r.Tracked) : (r.after (pure x)).Tracked := by
  rwa [after_pure]

theorem tracked_minus {x y : ℕ} (within : y ≤ x) (tracked : r.Tracked) : (r.after (minus x y)).Tracked := by
  apply tracked.after
  · rw [emitted_minus, if_neg (by omega)]
    exact fun _ => List.not_mem_nil.elim
  · rw [next_minus]
    exact fun _ trip found => ⟨trip, found, rfl⟩

/-- Trips that leave, or of which no leg changes. -/
theorem tracked_setTripSessions {f : SortedMap UInt32 TripSessionStatus → SortedMap UInt32 TripSessionStatus}
    (legs : ∀ id trip', (f r.trips).find? id = some trip' → r.Tells id trip') (tracked : r.Tracked) :
    (r.after (setTripSessions f)).Tracked where
  trips id trip found := (legs id trip found).after fun _ => List.not_mem_nil.elim
  paired awaited member := by
    rcases mem_outstanding_after.mp member with earlier | asked
    · exact tracked.paired awaited earlier
    · exact absurd asked List.not_mem_nil
  unwrapped member := tracked.unwrapped ((List.append_nil r.session.log) ▸ member)

theorem tracked_ite {c : Prop} [Decidable c] {q : BatchingM Client α} (holds : c → (r.after p).Tracked)
    (fails : ¬ c → (r.after q).Tracked) : (r.after (if c then p else q)).Tracked := by
  split_ifs with condition
  · exact holds condition
  · exact fails condition

end Primitives

section Programs

variable {client : Client} {sessionId : UInt32} {options : BatchingOptions} {trip : TripSessionStatus}

/-- No trip is further than its distance, as far as it knows. -/
def Within (r : Ride Client) : Prop :=
  ∀ id trip, r.trips.find? id = some trip → trip.accumulatedDistanceThisTrip ≤ trip.tripDistance

theorem tracked_request {sent : BatchingRequest} {response : BatchingResponse Client}
    (paired : sent.resets = response.resets) (rests : response.anticipates = false) (tracked : r.Tracked) :
    (r.after (request sent response)).Tracked :=
  tracked_emit ⟨paired, rests⟩ tracked

theorem tracked_setBatchFull (enabled : Bool) (tracked : r.Tracked) : (r.after (setBatchFull enabled)).Tracked :=
  tracked_modify (fun _ => rfl) tracked

theorem tracked_setOngoingTrip (distance interval : ℕ) (tracked : r.Tracked) :
    (r.after (setOngoingTrip distance interval)).Tracked :=
  tracked_modify (fun _ => rfl) tracked

theorem tracked_saveBatchingSession (tracked : r.Tracked) :
    (r.after (saveBatchingSession client sessionId options)).Tracked :=
  tracked_modify (fun _ => rfl) tracked

theorem tracked_eraseBatchingSession (tracked : r.Tracked) :
    (r.after (eraseBatchingSession client sessionId)).Tracked :=
  tracked_modify (fun _ => rfl) tracked

theorem tracked_reportResponse (err : LocationError) (tracked : r.Tracked) :
    (r.after (reportResponse client err sessionId)).Tracked :=
  tracked_emit trivial tracked

theorem tracked_leaveBatchFull (tracked : r.Tracked) : (r.after leaveBatchFull).Tracked := by
  rw [leaveBatchFull, after_get_bind]
  exact tracked_ite (fun _ => tracked_setBatchFull false tracked) fun _ => tracked_pure tracked

theorem tracked_startBatching (tracked : r.Tracked) : (r.after (startBatching client sessionId options)).Tracked := by
  rw [startBatching, after_get_bind, after_bind, after_bind]
  apply tracked_request rfl rfl
  apply tracked_saveBatchingSession
  exact tracked_ite (fun _ => tracked_setBatchFull true tracked) fun _ => tracked_pure tracked

theorem tracked_stopBatching (restartNeeded : Bool) (tracked : r.Tracked) :
    (r.after (stopBatching client sessionId restartNeeded options)).Tracked := by
  rw [stopBatching, after_get_bind]
  cases r.session.adapter.mBatchingSessions.find? ⟨client, sessionId⟩ with
  | none => exact tracked_pure tracked
  | some flpOptions =>
    simp only
    rw [after_bind]
    exact tracked_request rfl rfl (tracked_eraseBatchingSession tracked)

theorem tracked_leastRemaining {trips : List (UInt32 × TripSessionStatus)}
    (within : ∀ entry ∈ trips, entry.2.accumulatedDistanceThisTrip ≤ entry.2.tripDistance) (distance interval : ℕ)
    (tracked : r.Tracked) : (r.after (leastRemaining trips distance interval)).Tracked := by
  induction trips generalizing r distance interval with
  | nil => exact tracked_pure tracked
  | cons first rest ih =>
    rw [leastRemaining, after_bind]
    apply ih fun entry member => within entry (List.mem_cons_of_mem _ member)
    exact tracked_minus (within first List.mem_cons_self) tracked

theorem Within.entries (within : r.Within) :
    ∀ entry ∈ r.trips.entries, entry.2.accumulatedDistanceThisTrip ≤ entry.2.tripDistance :=
  fun _ member => within _ _ (SortedMap.find?_eq_some_iff.mpr member)

theorem tracked_restartTripBatching (within : r.Within) (query : Bool) (accDist numbatchedPos : ℕ)
    (tracked : r.Tracked) : (r.after (restartTripBatching query accDist numbatchedPos)).Tracked := by
  rw [restartTripBatching, after_get_bind]
  apply tracked_ite
  · intro _
    rw [after_bind, after_bind]
    apply tracked_leaveBatchFull
    apply tracked_setOngoingTrip
    exact tracked_request rfl rfl tracked
  · intro _
    rw [after_bind]
    apply tracked_request rfl rfl
    exact tracked_leastRemaining within.entries 0 0 tracked

theorem tracked_dropTrip (tracked : r.Tracked) : (r.after (dropTrip sessionId trip)).Tracked := by
  rw [dropTrip, after_bind]
  refine tracked_modify (fun _ => rfl) (tracked_setTripSessions ?_ tracked)
  intro id trip found
  rw [SortedMap.find?_erase] at found
  split_ifs at found
  exact tracked.trips id trip found

theorem tracked_continueTrips (within : r.Within) (tracked : r.Tracked) : (r.after continueTrips).Tracked := by
  rw [continueTrips, after_get_bind]
  exact tracked_ite (fun _ => tracked_setOngoingTrip 0 0 tracked) fun _ =>
    tracked_restartTripBatching within true 0 0 tracked

theorem tracked_leftInBatch {distance : ℕ}
    (within : r.session.adapter.mTripWithOngoingTripDistanceDropped = true ∨
      distance ≤ r.session.adapter.mOngoingTripDistance) (tracked : r.Tracked) :
    (r.after (leftInBatch distance)).Tracked := by
  rw [leftInBatch, after_get_bind]
  exact tracked_ite (fun _ => tracked_pure tracked) fun kept => tracked_minus (within.resolve_left kept) tracked

/-- A trip that is the first one is counted from the reset that it is asked with. -/
theorem tracked_first {sent : BatchingRequest} (none : ∀ id, id ∉ r.trips) (resets : sent.resets = true)
    (tripDistance tripTBFInterval : ℕ) (tracked : r.Tracked) :
    ((r.after (setTripSessions fun trips => trips.insert sessionId ⟨0, 0, 0, tripDistance, tripTBFInterval⟩)).after
      (request sent (.tripStarted client sessionId options))).Tracked := by
  let q := (r.after (setTripSessions fun trips =>
    trips.insert sessionId ⟨0, 0, 0, tripDistance, tripTBFInterval⟩)).after
    (request sent (.tripStarted client sessionId options))
  have asked : (sent, .tripStarted client sessionId options) ∈ q.session.outstanding :=
    mem_outstanding_after.mpr (.inr (List.mem_singleton_self _))
  have reading : q.reading = 0 := if_pos (List.any_eq_true.mpr ⟨_, asked, rfl⟩)
  have unstarted : q.meter sessionId = Option.none :=
    if_pos (List.any_eq_true.mpr ⟨_, List.mem_singleton_self _, beq_self_eq_true sessionId⟩)
  have distance : q.distance sessionId = 0 := congrArg (·.getD 0) unstarted
  constructor
  · intro id trip found
    obtain ⟨rfl, rfl⟩ : id = sessionId ∧ trip = ⟨0, 0, 0, tripDistance, tripTBFInterval⟩ := by
      have inserted := SortedMap.find?_insert.symm.trans found
      split_ifs at inserted with own
      · exact ⟨own, (Option.some.inj inserted).symm⟩
      · exact absurd (SortedMap.mem_iff_find?.mpr ⟨trip, inserted⟩) (none id)
    refine ⟨?_, ?_, fun _ => ⟨sent, client, options, asked⟩⟩
    · rw [reading, distance]
      exact Leg.tells_reset
    · rw [distance]
      decide
  · intro awaited member
    rcases mem_outstanding_after.mp member with earlier | last
    · rcases mem_outstanding_after.mp earlier with earlier | nothing
      · exact tracked.paired awaited earlier
      · exact absurd nothing List.not_mem_nil
    · obtain ⟨sent, response⟩ := awaited
      cases List.mem_singleton.mp last
      exact resets
  · intro member
    rcases List.mem_append.mp member with earlier | last
    · exact tracked.unwrapped ((List.append_nil r.session.log) ▸ earlier)
    · cases List.mem_singleton.mp last

theorem tracked_startTripBatchingMultiplex (tracked : r.Tracked) :
    (r.after (startTripBatchingMultiplex client sessionId options)).Tracked := by
  rw [startTripBatchingMultiplex, after_get_bind]
  apply tracked_ite
  · intro empty
    rw [after_bind, after_bind, after_bind]
    have same : ((r.after (if r.session.adapter.autoReportBatchingSessionsCount = 0 then setBatchFull true
        else pure ())).after (saveBatchingSession client sessionId options)).trips = r.trips := by
      split_ifs <;> rfl
    refine tracked_first (same ▸ SortedMap.size_eq_zero_iff.mp empty) rfl _ _ (tracked_saveBatchingSession ?_)
    exact tracked_ite (fun _ => tracked_setBatchFull true tracked) fun _ => tracked_pure tracked
  · exact fun _ => tracked_request rfl rfl tracked

theorem tracked_startSession (tracked : r.Tracked) : (r.after (startSession client sessionId options)).Tracked := by
  rw [startSession]
  cases options.batchingMode with
  | routine | noAutoReport => exact tracked_startBatching tracked
  | trip => exact tracked_startTripBatchingMultiplex tracked
  | invalid => exact tracked_pure tracked

/-- No trip but one is further than its distance, as far as it knows. -/
def OthersWithin (r : Ride Client) (sessionId : UInt32) : Prop :=
  ∀ id trip, r.trips.find? id = some trip → id ≠ sessionId → trip.accumulatedDistanceThisTrip ≤ trip.tripDistance

theorem tracked_stopTripBatchingMultiplexCommon (err : LocationError) (restartNeeded : Bool)
    (within : sessionId ∈ r.trips → r.OthersWithin sessionId) (tracked : r.Tracked) :
    (r.after (stopTripBatchingMultiplexCommon err client sessionId restartNeeded options)).Tracked := by
  rw [stopTripBatchingMultiplexCommon, after_get_bind]
  cases found : r.session.adapter.mTripSessions.find? sessionId with
  | none => exact tracked_emit trivial tracked
  | some trip =>
    have left : (r.after (dropTrip sessionId trip)).Within := by
      intro id other after
      have before := SortedMap.find?_erase.symm.trans after
      split_ifs at before with own
      exact within (SortedMap.mem_iff_find?.mpr ⟨trip, found⟩) id other before own
    simp only
    rw [after_bind, after_bind, after_bind]
    apply tracked_reportResponse
    have continued := tracked_continueTrips left (tracked_dropTrip tracked)
    apply tracked_ite
    · intro _
      rw [after_bind]
      exact tracked_startSession (tracked_eraseBatchingSession continued)
    · exact fun _ => tracked_pure continued

theorem tracked_stopTripBatchingMultiplex (restartNeeded : Bool)
    (within : sessionId ∈ r.trips → r.OthersWithin sessionId) (tracked : r.Tracked) :
    (r.after (stopTripBatchingMultiplex client sessionId restartNeeded options)).Tracked := by
  rw [stopTripBatchingMultiplex, after_get_bind]
  exact tracked_ite (fun _ => tracked_request rfl rfl tracked) fun _ =>
    tracked_stopTripBatchingMultiplexCommon .success restartNeeded within tracked

theorem tracked_restartWithDistance (query : Bool) (minRemainingDistance minTBFInterval accDist : ℕ)
    (data : LocApiBatchData)
    (within : r.session.adapter.mTripWithOngoingTripDistanceDropped = true ∨
      (if query then data.accumulatedDistance else accDist) ≤ r.session.adapter.mOngoingTripDistance)
    (tracked : r.Tracked) :
    (r.after (restartWithDistance query minRemainingDistance minTBFInterval accDist data)).Tracked := by
  rw [restartWithDistance]
  generalize (if query then data.accumulatedDistance else accDist) = distance at within ⊢
  have left := tracked_leftInBatch within tracked
  rw [after_bind, after_get_bind]
  cases (r.after (leftInBatch distance)).session.adapter.batchWithout minRemainingDistance minTBFInterval
    ((leftInBatch distance).result r.session.adapter) with
  | none => exact tracked_pure left
  | some batch => exact tracked_request rfl rfl left

section Loops

variable {distance : ℕ}

theorem emitted_travelled {a : BatchingAdapter Client} (counted : trip.accumulatedDistanceOngoingBatch ≤ distance) :
    (trip.travelled distance).emitted a = [] := by
  rw [TripSessionStatus.travelled, Emit.emitted_bind, emitted_minus, if_neg (by omega)]
  rfl

theorem emitted_leastRemaining {a : BatchingAdapter Client} {trips : List (UInt32 × TripSessionStatus)}
    (within : ∀ entry ∈ trips, entry.2.accumulatedDistanceThisTrip ≤ entry.2.tripDistance) (distance interval : ℕ) :
    (leastRemaining trips distance interval).emitted a = [] := by
  induction trips generalizing a distance interval with
  | nil => rfl
  | cons first rest ih =>
    have own := within first List.mem_cons_self
    rw [leastRemaining, Emit.emitted_bind, emitted_minus, if_neg (by omega),
      ih fun entry member => within entry (List.mem_cons_of_mem _ member)]
    rfl

theorem calm_of_nil {α : Type} {p : BatchingM Client α} (silent : p.emitted r.session.adapter = []) :
    ∀ output ∈ p.emitted r.session.adapter, output.Calm := by
  rw [silent]
  exact fun _ => List.not_mem_nil.elim

theorem tracked_travelled (counted : trip.accumulatedDistanceOngoingBatch ≤ distance) (tracked : r.Tracked) :
    (r.after (trip.travelled distance)).Tracked := by
  apply tracked.after (calm_of_nil (emitted_travelled counted))
  rw [next_travelled]
  exact fun _ trip found => ⟨trip, found, rfl⟩

/-- The trips that are not completed keep their legs. -/
theorem tracked_completeTrips {trips : List (UInt32 × TripSessionStatus)} (same : distance = r.reading)
    (tells : ∀ entry ∈ trips, r.Tells entry.1 entry.2) (tracked : r.Tracked) :
    (r.after (completeTrips distance trips)).Tracked := by
  induction trips generalizing r with
  | nil => exact tracked_pure tracked
  | cons first rest ih =>
    obtain ⟨id, trip⟩ := first
    have own := tells (id, trip) List.mem_cons_self
    have counted : trip.accumulatedDistanceOngoingBatch ≤ distance := same ▸ own.told.counted
    have calm := calm_of_nil (r := r) (emitted_travelled counted)
    have later : ∀ entry ∈ rest, (r.after (trip.travelled distance)).Tells entry.1 entry.2 := fun entry member =>
      (tells entry (List.mem_cons_of_mem _ member)).after calm
    have reading : distance = (r.after (trip.travelled distance)).reading := same.trans (reading_after calm).symm
    have measured := tracked_travelled counted tracked
    rw [completeTrips, after_bind]
    apply tracked_ite
    · intro _
      have silent : ∀ output ∈ (dropTrip id trip).emitted (r.after (trip.travelled distance)).session.adapter,
        output.Calm := calm_of_nil rfl
      rw [after_bind, after_bind]
      apply tracked_pure
      apply ih (reading.trans (reading_after silent).symm) (fun entry member => (later entry member).after silent)
      exact tracked_dropTrip measured
    · intro _
      rw [after_bind]
      refine ih (reading.trans (reading_after ?_).symm) (fun entry member => (later entry member).after ?_)
        (tracked_setTripSessions ?_ measured)
      · exact fun _ => List.not_mem_nil.elim
      · exact fun _ => List.not_mem_nil.elim
      · intro other trip' found
        rw [SortedMap.find?_insert] at found
        split_ifs at found with here
        · cases found
          exact here ▸ (own.after calm).of_leg rfl
        · exact measured.trips other trip' found

end Loops

theorem calm_restartBatching : ∀ output ∈ restartBatching.emitted r.session.adapter, output.Calm := by
  rw [restartBatching, Emit.emitted_get_bind, Emit.emitted_forM _ (fun session => [.request
    (.startBatching session.1.id session.2 r.session.adapter.mBatchingAccuracy r.session.adapter.mBatchingTimeout)
    .ignore]) fun _ _ => rfl]
  intro output member
  obtain ⟨session, -, same⟩ := List.mem_flatMap.mp member
  cases List.mem_singleton.mp same
  exact ⟨rfl, rfl⟩

theorem tracked_restartBatching (tracked : r.Tracked) : (r.after restartBatching).Tracked := by
  apply tracked.after calm_restartBatching
  rw [next_restartBatching]
  exact fun _ trip found => ⟨trip, found, rfl⟩

/-- A reset is asked for that the trips are counted on from already. -/
theorem tracked_reset {sent : BatchingRequest} {response : BatchingResponse Client} (resets : sent.resets = true)
    (waits : response.anticipates = true) (others : ∀ client id options, response ≠ .tripStarted client id options)
    (zero : ∀ id trip, r.trips.find? id = some trip → trip.leg.Tells 0 (r.distance id))
    (bounded : ∀ id trip, r.trips.find? id = some trip → r.distance id < 2 ^ 32)
    (started : ∀ id trip, r.trips.find? id = some trip → r.meter id = none →
      ∃ sent client options, (sent, BatchingResponse.tripStarted client id options) ∈ r.session.outstanding)
    (paired : ∀ awaited ∈ r.session.outstanding, awaited.1.resets = awaited.2.resets)
    (unwrapped : .wrapped ∉ r.session.log) : (r.after (request sent response)).Tracked := by
  have asked : (sent, response) ∈ (r.after (request sent response)).session.outstanding :=
    mem_outstanding_after.mpr (.inr (List.mem_singleton_self _))
  have reading : (r.after (request sent response)).reading = 0 := if_pos (List.any_eq_true.mpr ⟨_, asked, waits⟩)
  have meter : (r.after (request sent response)).meter = r.meter := by
    funext id
    cases response with
    | tripStarted client id options => exact absurd rfl (others client id options)
    | _ => rfl
  constructor
  · intro id trip found
    refine ⟨?_, ?_, fun unstarted => ?_⟩
    · rw [reading, distance, meter]
      exact zero id trip found
    · rw [distance, meter]
      exact bounded id trip found
    · obtain ⟨sent', client, options, member⟩ := started id trip found (meter ▸ unstarted)
      exact ⟨sent', client, options, mem_outstanding_after.mpr (.inl member)⟩
  · intro awaited member
    rcases mem_outstanding_after.mp member with earlier | last
    · exact paired awaited earlier
    · obtain ⟨sent, response⟩ := awaited
      cases List.mem_singleton.mp last
      rw [resets]
      cases response <;> first | rfl | cases waits
  · intro member
    rcases List.mem_append.mp member with earlier | last
    · exact unwrapped earlier
    · cases List.mem_singleton.mp last

theorem tracked_tripsRestarted {sent : BatchingRequest} (resets : sent.resets = true) (zero : r.reading = 0)
    (tracked : r.Tracked) : (r.after (request sent .tripsRestarted)).Tracked := by
  apply tracked_reset
  · exact resets
  · rfl
  · exact fun _ _ _ => nofun
  · exact fun id trip found => zero ▸ (tracked.trips id trip found).told
  · exact fun id trip found => (tracked.trips id trip found).bounded
  · exact fun id trip found => (tracked.trips id trip found).started
  · exact tracked.paired
  · exact tracked.unwrapped

/-- The trips may be counted on from a restart of the modem. -/
def Ready (r : Ride Client) : Prop := (∀ id, id ∉ r.trips) ∨ r.reading = 0 ∧ r.Within

theorem Ready.after {α : Type} {p : BatchingM Client α} (ready : r.Ready)
    (calm : ∀ output ∈ p.emitted r.session.adapter, output.Calm)
    (same : (p.next r.session.adapter).mTripSessions = r.trips) : (r.after p).Ready := by
  have trips : (r.after p).trips = r.trips := same
  rw [Ready, Within, trips, reading_after calm]
  exact ready

theorem tracked_restartTrips (ready : r.Ready) (tracked : r.Tracked) : (r.after restartTrips).Tracked := by
  rw [restartTrips, after_get_bind]
  apply tracked_ite
  · intro some
    obtain ⟨zero, within⟩ := ready.resolve_left fun none => some.ne' (SortedMap.size_eq_zero_iff.mpr none)
    have calm := calm_of_nil (r := r) (emitted_leastRemaining within.entries 0 0)
    rw [after_bind, after_bind]
    apply tracked_tripsRestarted rfl
    · exact (reading_after fun _ => List.not_mem_nil.elim).trans ((reading_after calm).trans zero)
    · exact tracked_setOngoingTrip _ _ (tracked_leastRemaining within.entries 0 0 tracked)
  · exact fun _ => tracked_pure tracked

theorem tracked_restartSessions (ready : r.Ready) (tracked : r.Tracked) : (r.after restartSessions).Tracked := by
  have restarts (r : Ride Client) (ready : r.Ready) (tracked : r.Tracked) :
      ((r.after restartBatching).after restartTrips).Tracked := by
    apply tracked_restartTrips ?_ (tracked_restartBatching tracked)
    apply ready.after calm_restartBatching
    rw [next_restartBatching]
  rw [restartSessions, after_get_bind, after_bind, after_bind]
  split_ifs
  · exact restarts _ (ready.after (fun _ => List.not_mem_nil.elim) rfl) (tracked_setBatchFull true tracked)
  · exact restarts _ (ready.after (fun _ => List.not_mem_nil.elim) rfl) (tracked_pure tracked)

theorem tracked_handleEngineUpEvent (ready : r.Ready) (tracked : r.Tracked) :
    (r.after handleEngineUpEvent).Tracked := by
  rw [handleEngineUpEvent, after_bind, after_bind]
  refine tracked_modify (fun _ => rfl) (tracked_restartSessions ?_ (tracked_modify (fun _ => rfl) tracked))
  exact ready.after (fun _ => List.not_mem_nil.elim) rfl

/-- After a report no trip is further than its distance. -/
theorem within_completeTrips (distance : ℕ) : (r.after (completeTrips distance r.trips.entries)).Within := by
  obtain ⟨left, _, _, next, among, others, -⟩ :=
    next_completeTrips (a := r.session.adapter) distance r.trips.entries SortedMap.nodup_keys
  intro id trip found
  have after : left.find? id = some trip := by
    have same := congrArg (fun a : BatchingAdapter Client => a.mTripSessions.find? id) next
    exact same.symm.trans found
  cases before : r.trips.find? id with
  | none =>
    rw [others id, before] at after
    · cases after
    · intro member
      obtain ⟨⟨_, trip⟩, entry, rfl⟩ := List.mem_map.mp member
      exact SortedMap.find?_eq_none_iff.mp before ⟨trip, entry⟩
  | some whole =>
    rw [among id whole (SortedMap.find?_eq_some_iff.mp before), TripSessionStatus.report] at after
    split_ifs at after with completed
    cases after
    exact (Nat.lt_of_not_le completed).le

/-- The report of a distance that is the reading of the trips. -/
theorem tracked_reportCompletedTripsEvent (right : (∀ id, id ∉ r.trips) ∨ r.odometer = r.reading)
    (tracked : r.Tracked) : (r.after (reportCompletedTripsEvent r.odometer)).Tracked := by
  have completed : (r.after (completeTrips r.odometer r.trips.entries)).Tracked := by
    rcases right with none | same
    · have empty : r.trips.entries = [] := List.length_eq_zero_iff.mp (SortedMap.size_eq_zero_iff.mpr none)
      rw [empty]
      exact tracked_pure tracked
    · exact tracked_completeTrips same (fun _ member => tracked.trips _ _ (SortedMap.find?_eq_some_iff.mpr member))
        tracked
  rw [reportCompletedTripsEvent, after_get_bind, after_bind]
  apply tracked_ite
  · intro _
    rw [after_bind]
    refine tracked_restartTripBatching ?_ false r.odometer 0 (tracked_emit ?_ completed)
    · exact within_completeTrips r.odometer
    · exact trivial
  · exact fun _ => tracked_pure completed

/-- No trip that a command stops leaves others that are further than their distances. -/
def MayCommand (r : Ride Client) : BatchingCommand Client → Prop
  | .start .. => True
  | .update client sessionId options => r.session.adapter.engineCapabilitiesKnown →
    r.session.adapter.mBatchingSessions.contains ⟨client, sessionId⟩ → options.size ≠ 0 →
    options.batchingMode ≠ .invalid → sessionId ∈ r.trips → r.OthersWithin sessionId
  | .stop client sessionId => r.session.adapter.engineCapabilitiesKnown →
    r.session.adapter.mBatchingSessions.contains ⟨client, sessionId⟩ → sessionId ∈ r.trips → r.OthersWithin sessionId

theorem tracked_command {command : BatchingCommand Client} (may : r.MayCommand command) (tracked : r.Tracked) :
    (r.after command.proc).Tracked := by
  rw [BatchingCommand.proc, after_get_bind]
  apply tracked_ite
  · exact fun _ => tracked_modify (fun _ => rfl) tracked
  intro unknown
  have known : r.session.adapter.engineCapabilitiesKnown = true := by simpa using unknown
  cases command with
  | start client sessionId options =>
    apply tracked_ite
    · intro _
      apply tracked_ite
      · exact fun _ => tracked_reportResponse _ tracked
      · exact fun _ => tracked_startSession tracked
    · exact fun _ => tracked_pure tracked
  | update client sessionId options =>
    apply tracked_ite
    · rintro ⟨saved, size, mode⟩
      apply tracked_ite
      · exact fun _ => tracked_stopBatching true tracked
      · exact fun _ => tracked_stopTripBatchingMultiplex true (may known saved size mode) tracked
    · exact fun _ => tracked_pure tracked
  | stop client sessionId =>
    apply tracked_ite
    · intro saved
      apply tracked_ite
      · exact fun _ => tracked_stopTripBatchingMultiplex false (may known saved) tracked
      · exact fun _ => tracked_stopBatching false tracked
    · exact fun _ => tracked_pure tracked

section Answers

variable {index : ℕ} {sent : BatchingRequest} {response : BatchingResponse Client} {id : UInt32}

theorem mem_answered_of_ne (found : r.session.outstanding[index]? = some (sent, response))
    {awaited : BatchingRequest × BatchingResponse Client} (member : awaited ∈ r.session.outstanding)
    (other : awaited ≠ (sent, response)) : awaited ∈ (r.answered index sent response).session.outstanding := by
  obtain ⟨i, at_i⟩ := List.mem_iff_getElem?.mp member
  refine List.mem_eraseIdx_iff_getElem?.mpr ⟨i, ?_, at_i⟩
  rintro rfl
  exact other (Option.some.inj (at_i.symm.trans found))

theorem reading_answered_of_resets (resets : sent.resets = true) : (r.answered index sent response).reading = 0 := by
  rw [reading, answered, if_pos resets, ite_self]

/-- An answer after which the reading is that before. -/
theorem reading_answered (found : r.session.outstanding[index]? = some (sent, response))
    (paired : sent.resets = response.resets) (own : response.resets = response.anticipates) :
    (r.answered index sent response).reading = r.reading := by
  have here : (sent, response) ∈ r.session.outstanding := List.mem_of_getElem? found
  cases waits : response.anticipates with
  | true =>
    rw [reading_answered_of_resets (paired.trans (own.trans waits))]
    exact (if_pos (List.any_eq_true.mpr ⟨_, here, waits⟩)).symm
  | false =>
    have same : (r.answered index sent response).anticipates = r.anticipates := by
      apply Bool.eq_iff_iff.mpr
      rw [anticipates, anticipates, List.any_eq_true, List.any_eq_true]
      constructor
      · rintro ⟨awaited, member, waits'⟩
        exact ⟨awaited, List.mem_of_mem_eraseIdx member, waits'⟩
      · rintro ⟨awaited, member, waits'⟩
        refine ⟨awaited, mem_answered_of_ne found member ?_, waits'⟩
        rintro rfl
        exact Bool.false_ne_true (waits.symm.trans waits')
    have rests : sent.resets = false := paired.trans (own.trans waits)
    rw [reading, same, answered, rests]
    rfl

/-- The distances that an answer does not touch. -/
theorem distance_answered (other : ∀ client options, response ≠ .queriedForStart client id options) :
    (r.answered index sent response).distance id = r.distance id := by
  cases response with
  | tripStarted client sessionId options =>
    simp only [distance, answered, BatchingResponse.meter]
    split_ifs <;> rfl
  | queriedForStart client sessionId options =>
    simp only [distance, answered, BatchingResponse.meter]
    split_ifs with own
    · exact absurd (own ▸ rfl) (other client options)
    · rfl
  | _ => rfl

/-- A trip that has not started after an answer still waits for it. -/
theorem started_answered (found : r.session.outstanding[index]? = some (sent, response))
    (started : r.meter id = none → ∃ sent client options,
    (sent, .tripStarted client id options) ∈ r.session.outstanding)
    (unstarted : (r.answered index sent response).meter id = none) : ∃ sent' client options,
      (sent', .tripStarted client id options) ∈ (r.answered index sent response).session.outstanding := by
  have before : r.meter id = none ∧ ∀ client options, response ≠ .tripStarted client id options := by
    cases response with
    | tripStarted client sessionId options =>
      simp only [answered, BatchingResponse.meter] at unstarted
      split_ifs at unstarted with own
      refine ⟨unstarted, fun _ _ same => own ?_⟩
      cases same
      rfl
    | queriedForStart client sessionId options =>
      simp only [answered, BatchingResponse.meter] at unstarted
      split_ifs at unstarted
      exact ⟨unstarted, fun _ _ => nofun⟩
    | _ => exact ⟨unstarted, fun _ _ => nofun⟩
  obtain ⟨sent', client, options, member⟩ := started before.1
  refine ⟨sent', client, options, mem_answered_of_ne found member fun same => ?_⟩
  exact before.2 client options (Prod.mk.inj same).2.symm

theorem Tells.answered {trip : TripSessionStatus} (tells : r.Tells id trip)
    (found : r.session.outstanding[index]? = some (sent, response)) (paired : sent.resets = response.resets)
    (own : response.resets = response.anticipates)
    (other : ∀ client options, response ≠ .queriedForStart client id options) :
    (r.answered index sent response).Tells id trip where
  told := by
    rw [reading_answered found paired own, distance_answered other]
    exact tells.told
  bounded := by
    rw [distance_answered other]
    exact tells.bounded
  started := started_answered found tells.started

theorem Tracked.answered (tracked : r.Tracked) (found : r.session.outstanding[index]? = some (sent, response))
    (own : response.resets = response.anticipates)
    (other : ∀ client id options, response ≠ .queriedForStart client id options) :
    (r.answered index sent response).Tracked where
  trips id trip here := (tracked.trips id trip here).answered found (tracked.paired _ (List.mem_of_getElem? found)) own
    fun client => other client id
  paired awaited member := tracked.paired awaited (List.mem_of_mem_eraseIdx member)
  unwrapped := tracked.unwrapped

end Answers

section Functions

variable {data : LocApiBatchData}

theorem tracked_started (tracked : r.Tracked) :
    (r.after ((BatchingResponse.started client sessionId options).proc .success data)).Tracked := by
  rw [BatchingResponse.proc, after_bind, after_bind]
  apply tracked_reportResponse
  have kept : (r.after (if LocationError.success ≠ .success then eraseBatchingSession client sessionId
      else pure ())).Tracked := tracked_ite (fun fails => absurd rfl fails) fun _ => tracked_pure tracked
  exact tracked_ite (fun fails => absurd rfl fails.1) fun _ => tracked_pure kept

theorem tracked_stopped (flpOptions : BatchingOptions) (restartNeeded : Bool) (tracked : r.Tracked) :
    (r.after ((BatchingResponse.stopped client sessionId flpOptions restartNeeded options).proc .success
    data)).Tracked := by
  rw [BatchingResponse.proc, after_bind]
  apply tracked_reportResponse
  apply tracked_ite
  · exact fun fails => absurd rfl fails
  · intro _
    rw [after_bind]
    apply tracked_ite
    · exact fun _ => tracked_startSession (tracked_ite (fun _ => tracked_leaveBatchFull tracked) fun _ =>
        tracked_pure tracked)
    · exact fun _ => tracked_pure (tracked_ite (fun _ => tracked_leaveBatchFull tracked) fun _ => tracked_pure tracked)

theorem tracked_tripStarted (tracked : r.Tracked) :
    (r.after ((BatchingResponse.tripStarted client sessionId options).proc .success data)).Tracked := by
  rw [BatchingResponse.proc, after_bind]
  apply tracked_reportResponse
  exact tracked_ite (fun _ => tracked_setOngoingTrip _ _ tracked) fun fails => absurd rfl fails

theorem tracked_tripStopped (restartNeeded : Bool) (within : sessionId ∈ r.trips → r.OthersWithin sessionId)
    (tracked : r.Tracked) :
    (r.after ((BatchingResponse.tripStopped client sessionId restartNeeded options).proc .success data)).Tracked := by
  rw [BatchingResponse.proc, after_get_bind, after_bind]
  split_ifs
  · exact tracked_stopTripBatchingMultiplexCommon _ _ within (tracked_setBatchFull false tracked)
  · exact tracked_stopTripBatchingMultiplexCommon _ _ (by rwa [after_pure]) (tracked_pure tracked)

theorem emitted_rebaseTrips {a : BatchingAdapter Client} {distance : ℕ} {trips : List (UInt32 × TripSessionStatus)}
    (counted : ∀ entry ∈ trips, entry.2.accumulatedDistanceOngoingBatch ≤ distance) :
    (rebaseTrips distance trips).emitted a = [] := by
  induction trips generalizing a with
  | nil => rfl
  | cons first rest ih =>
    rw [rebaseTrips, Emit.emitted_bind, emitted_travelled (counted first List.mem_cons_self), Emit.emitted_bind,
      ih fun entry member => counted entry (List.mem_cons_of_mem _ member)]
    rfl

/-- The trips are counted from the reset on with the distance that their requests were answered with. -/
theorem tracked_rebased {index : ℕ} {sent : BatchingRequest} {accumulatedDistance ongoingTripDistance
    ongoingTripInterval : ℕ} (found : r.session.outstanding[index]? =
      some (sent, .rebased accumulatedDistance ongoingTripDistance ongoingTripInterval))
    (right : (∀ id, id ∉ r.trips) ∨ accumulatedDistance = r.reading) (tracked : r.Tracked) :
    ((r.answered index sent (.rebased accumulatedDistance ongoingTripDistance ongoingTripInterval)).after
      ((BatchingResponse.rebased accumulatedDistance ongoingTripDistance ongoingTripInterval).proc .success
        data)).Tracked := by
  let response : BatchingResponse Client := .rebased accumulatedDistance ongoingTripDistance ongoingTripInterval
  let q := r.answered index sent response
  have resets : sent.resets = true := tracked.paired _ (List.mem_of_getElem? found)
  have known (id : UInt32) (trip : TripSessionStatus) (before : r.trips.find? id = some trip) :
      accumulatedDistance = r.reading :=
    right.resolve_left fun none => none id (SortedMap.mem_iff_find?.mpr ⟨trip, before⟩)
  have silent : (response.proc .success data).emitted q.session.adapter = [] := by
    have counted : ∀ entry ∈ r.trips.entries, entry.2.accumulatedDistanceOngoingBatch ≤ accumulatedDistance := by
      rintro ⟨id, trip⟩ member
      have before := SortedMap.find?_eq_some_iff.mpr member
      exact known id trip before ▸ (tracked.trips id trip before).told.counted
    calc (response.proc .success data).emitted q.session.adapter
        = (rebaseTrips accumulatedDistance r.trips.entries).emitted r.session.adapter ++ [] := rfl
      _ = [] := by rw [emitted_rebaseTrips counted, List.append_nil]
  have calm := calm_of_nil (r := q) silent
  constructor
  · intro id trip' after
    have next := (congrArg (fun a : BatchingAdapter Client => a.mTripSessions.find? id)
      (next_rebased (a := q.session.adapter) .success data accumulatedDistance ongoingTripDistance
        ongoingTripInterval)).symm.trans after
    obtain ⟨trip, before, rfl⟩ := Option.map_eq_some_iff.mp (SortedMap.find?_mapValues.symm.trans next)
    have tells := tracked.trips id trip before
    have kept : q.distance id = r.distance id := distance_answered fun _ _ => nofun
    have counted : trip.at accumulatedDistance = r.distance id :=
      known id trip before ▸ at_of_tells tells.told tells.bounded
    refine Tells.after ⟨?_, kept ▸ tells.bounded, started_answered found tells.started⟩ calm
    rw [reading_answered_of_resets resets, kept]
    exact counted ▸ Leg.tells_reset
  · intro awaited member
    rcases mem_outstanding_after.mp member with earlier | asked
    · exact tracked.paired awaited (List.mem_of_mem_eraseIdx earlier)
    · exact absurd (silent ▸ asked) List.not_mem_nil
  · intro member
    rcases List.mem_append.mp member with earlier | here
    · exact tracked.unwrapped earlier
    · exact absurd (silent ▸ here) List.not_mem_nil

theorem tracked_queriedForRestart (query : Bool) (minRemainingDistance minTBFInterval accDist numbatchedPos : ℕ)
    (within : r.session.adapter.mTripWithOngoingTripDistanceDropped = true ∨
      (if query then data.accumulatedDistance else accDist) ≤ r.session.adapter.mOngoingTripDistance)
    (tracked : r.Tracked) :
    (r.after ((BatchingResponse.queriedForRestart query minRemainingDistance minTBFInterval accDist
      numbatchedPos).proc .success data)).Tracked :=
  tracked_restartWithDistance query minRemainingDistance minTBFInterval accDist data within tracked

/-- A trip that joins finds the distance of the batch not overrun; when the batch starts again for it each other trip
knows its whole distance, and when it does not the odometer is what the trips are counted by. -/
structure MayJoin (r : Ride Client) (sessionId : UInt32) (options : BatchingOptions) : Prop where
  within : r.odometer ≤ r.session.adapter.mOngoingTripDistance
  others : (r.session.adapter.distanceWith options
    (sub32 r.session.adapter.mOngoingTripDistance r.odometer)).isSome →
      ∀ id trip, r.trips.find? id = some trip → id ≠ sessionId → trip.accumulatedDistanceThisTrip = r.distance id
  reading : r.session.adapter.distanceWith options
    (sub32 r.session.adapter.mOngoingTripDistance r.odometer) = none → r.odometer = r.reading

/-- The trip is saved that joins the batch. -/
structure Joined (r : Ride Client) (sessionId : UInt32) (options : BatchingOptions) (saved : Ride Client) : Prop where
  trips : saved.trips = r.trips.insert sessionId ⟨r.odometer, 0, 0, options.minDistance, options.minInterval⟩
  own : saved.meter sessionId = some 0
  others : ∀ id trip, id ≠ sessionId → r.trips.find? id = some trip → saved.Tells id trip
  kept : ∀ id, id ≠ sessionId → saved.distance id = r.distance id
  reading : saved.reading = r.reading
  paired : ∀ awaited ∈ saved.session.outstanding, awaited.1.resets = awaited.2.resets
  unwrapped : .wrapped ∉ saved.session.log

theorem joined_saveTrip {index : ℕ} {sent : BatchingRequest} (numOfBatchedPositions : ℕ)
    (found : r.session.outstanding[index]? = some (sent, .queriedForStart client sessionId options))
    (within : r.odometer ≤ r.session.adapter.mOngoingTripDistance) (tracked : r.Tracked) :
    r.Joined sessionId options ((r.answered index sent (.queriedForStart client sessionId options)).after
      (saveTrip sessionId options .success ⟨r.odometer, numOfBatchedPositions⟩)) := by
  let data : LocApiBatchData := ⟨r.odometer, numOfBatchedPositions⟩
  let q := r.answered index sent (.queriedForStart client sessionId options)
  have paired := tracked.paired _ (List.mem_of_getElem? found)
  have silent : (saveTrip sessionId options .success data).emitted q.session.adapter = [] := by
    have within : ¬ q.session.adapter.mOngoingTripDistance < r.odometer := Nat.not_lt_of_le within
    rw [saveTrip, Emit.emitted_get_bind, if_pos rfl, Emit.emitted_bind, emitted_minus, if_neg within]
    rfl
  have calm := calm_of_nil (r := q) silent
  have meter := meter_after calm
  constructor
  · exact congrArg BatchingAdapter.mTripSessions (next_saveTrip sessionId options .success data)
  · rw [meter]
    exact if_pos rfl
  · intro id trip other before
    refine ((tracked.trips id trip before).answered found paired rfl fun _ _ same => other ?_).after calm
    cases same
    rfl
  · intro id other
    have same : q.meter id = r.meter id := if_neg other
    rw [distance, meter, same]
    rfl
  · exact (reading_after calm).trans (reading_answered found paired rfl)
  · intro awaited member
    rcases mem_outstanding_after.mp member with earlier | asked
    · exact tracked.paired awaited (List.mem_of_mem_eraseIdx earlier)
    · exact absurd (silent ▸ asked) List.not_mem_nil
  · intro member
    rcases List.mem_append.mp member with earlier | here
    · exact tracked.unwrapped earlier
    · exact absurd (silent ▸ here) List.not_mem_nil

/-- The batch goes on with the trip as it is. -/
theorem Joined.tracked {saved : Ride Client} (joined : r.Joined sessionId options saved)
    (same : r.odometer = r.reading) :
    saved.Tracked where
  trips id trip after := by
    rw [joined.trips, SortedMap.find?_insert] at after
    split_ifs at after with here
    · cases after
      cases here
      have distance : saved.distance sessionId = 0 := by rw [Ride.distance, joined.own]; rfl
      refine ⟨?_, ?_, fun unstarted => absurd (joined.own.symm.trans unstarted) (Option.some_ne_none 0)⟩
      · rw [joined.reading, distance, ← same]
        exact Leg.tells_start
      · rw [distance]
        decide
    · exact joined.others id trip here after
  paired := joined.paired
  unwrapped := joined.unwrapped

/-- The batch starts again for the trip, and all trips are counted on from there. -/
theorem Joined.restarted {saved : Ride Client} (joined : r.Joined sessionId options saved)
    (known : ∀ id trip, r.trips.find? id = some trip → id ≠ sessionId →
      trip.accumulatedDistanceThisTrip = r.distance id) (distance interval timeout : ℕ) :
    (((saved.after (setOngoingTrip distance interval)).after
      (setTripSessions fun trips => trips.mapValues fun trip =>
        { trip with
          accumulatedDistanceOngoingBatch := 0
          accumulatedDistanceOnTripRestart := trip.accumulatedDistanceThisTrip })).after
      (request (.reStartOutdoorTripBatching distance interval timeout) (.tripRestarted client sessionId))).Tracked := by
  have zero : saved.distance sessionId = 0 := by rw [Ride.distance, joined.own]; rfl
  have told (id : UInt32) (trip : TripSessionStatus) (found : saved.trips.find? id = some trip) :
      trip.accumulatedDistanceThisTrip = saved.distance id := by
    rw [joined.trips, SortedMap.find?_insert] at found
    split_ifs at found with here
    · cases found
      exact here ▸ zero.symm
    · exact (known id trip found here).trans (joined.kept id here).symm
  have before (id : UInt32) (trip' : TripSessionStatus) (found : (saved.trips.mapValues fun trip =>
      { trip with
        accumulatedDistanceOngoingBatch := 0
        accumulatedDistanceOnTripRestart := trip.accumulatedDistanceThisTrip }).find? id = some trip') :
      ∃ trip, saved.trips.find? id = some trip ∧ trip'.leg = ⟨0, trip.accumulatedDistanceThisTrip⟩ := by
    obtain ⟨trip, before, rfl⟩ := Option.map_eq_some_iff.mp (SortedMap.find?_mapValues.symm.trans found)
    exact ⟨trip, before, rfl⟩
  have bounded (id : UInt32) (trip : TripSessionStatus) (found : saved.trips.find? id = some trip) :
      saved.distance id < 2 ^ 32 := by
    rw [joined.trips, SortedMap.find?_insert] at found
    split_ifs at found with here
    · rw [here, zero]
      decide
    · exact (joined.others id trip here found).bounded
  have started (id : UInt32) (trip : TripSessionStatus) (found : saved.trips.find? id = some trip)
      (unstarted : saved.meter id = none) : ∃ sent client options,
        (sent, BatchingResponse.tripStarted client id options) ∈ saved.session.outstanding := by
    rw [joined.trips, SortedMap.find?_insert] at found
    split_ifs at found with here
    · rw [here, joined.own] at unstarted
      cases unstarted
    · exact (joined.others id trip here found).started unstarted
  apply tracked_reset
  · rfl
  · rfl
  · exact fun _ _ _ => nofun
  · intro id trip' found
    obtain ⟨trip, found, leg⟩ := before id trip' found
    rw [leg, told id trip found]
    exact Leg.tells_reset
  · intro id trip' found
    obtain ⟨trip, found, -⟩ := before id trip' found
    exact bounded id trip found
  · intro id trip' found unstarted
    obtain ⟨trip, found, -⟩ := before id trip' found
    obtain ⟨sent, client, options, member⟩ := started id trip found unstarted
    refine ⟨sent, client, options, ?_⟩
    exact mem_outstanding_after.mpr (.inl (mem_outstanding_after.mpr (.inl member)))
  · intro awaited member
    rcases mem_outstanding_after.mp member with earlier | asked
    · rcases mem_outstanding_after.mp earlier with earlier | asked
      · exact joined.paired awaited earlier
      · exact absurd asked List.not_mem_nil
    · exact absurd asked List.not_mem_nil
  · intro member
    rcases List.mem_append.mp member with earlier | here
    · rcases List.mem_append.mp earlier with earlier | here
      · exact joined.unwrapped earlier
      · exact absurd here List.not_mem_nil
    · exact absurd here List.not_mem_nil

/-- A trip joins the batch of the others. -/
theorem tracked_queriedForStart {index : ℕ} {sent : BatchingRequest} (numOfBatchedPositions : ℕ)
    (found : r.session.outstanding[index]? = some (sent, .queriedForStart client sessionId options))
    (may : r.MayJoin sessionId options) (tracked : r.Tracked) :
    ((r.answered index sent (.queriedForStart client sessionId options)).after
      ((BatchingResponse.queriedForStart client sessionId options).proc .success
        ⟨r.odometer, numOfBatchedPositions⟩)).Tracked := by
  have joined := joined_saveTrip numOfBatchedPositions found may.within tracked
  have adapter : (r.answered index sent (.queriedForStart client sessionId options)).session.adapter =
    r.session.adapter := rfl
  rw [BatchingResponse.proc, joinTripBatch, after_get_bind, after_bind, result_saveTrip, if_pos rfl, adapter]
  cases restarts : r.session.adapter.distanceWith options
    (sub32 r.session.adapter.mOngoingTripDistance r.odometer) with
  | none =>
    simp only
    exact tracked_reportResponse .success (joined.tracked (may.reading restarts))
  | some ongoingTripDistance =>
    simp only
    rw [after_bind, after_bind]
    exact joined.restarted (may.others (restarts ▸ rfl)) _ _ _

end Functions

end Programs

end Ride

end Cypfr.Batching
