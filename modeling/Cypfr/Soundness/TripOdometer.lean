import Cypfr.Machine.Run
import Cypfr.Proofs.TripOdometer

/-! # Trips are completed at their distances

A report completes the trips whose distances have been travelled as long as no step takes a branch that loses a
distance: a restart of the modem does, and so does a trip that joins the batch of trips that have not been counted since
they last travelled.
-/

namespace Cypfr.Batching

open Tracking Machine

namespace Ride

section Statement

variable {Client : Type} [LinearOrder Client]

/-- What the function of an answer rests on. -/
def MayAnswer (r : Ride Client) : BatchingResponse Client → Prop
  | .tripStopped _ sessionId _ _ => sessionId ∈ r.trips → r.OthersWithin sessionId
  | .queriedForStart _ sessionId options => r.MayJoin sessionId options
  | .queriedForRestart query _ _ accDist _ => r.session.adapter.mTripWithOngoingTripDistanceDropped = true ∨
    (if query then r.odometer else accDist) ≤ r.session.adapter.mOngoingTripDistance
  | .rebased accumulatedDistance _ _ => (∀ id, id ∉ r.trips) ∨ accumulatedDistance = r.reading
  | _ => True

/-- The distances have 32 bits, nothing is travelled while a reset is counted on that the modem has not done, and no
step loses a distance. -/
def MayRide (r : Ride Client) : RideEvent Client → Prop
  | .command command => r.MayCommand command
  | .travel distance => r.odometer + distance < 2 ^ 32 ∧ (∀ id ∈ r.trips, r.distance id + distance < 2 ^ 32) ∧
    (distance = 0 ∨ r.anticipates = false ∨ ∀ id ∈ r.trips, r.meter id = none)
  | .report => (∀ id, id ∉ r.trips) ∨ r.odometer = r.reading
  | .handleEngineUpEvent => r.Ready
  | .answer index _ => ∀ sent response, r.session.outstanding[index]? = some (sent, response) → r.MayAnswer response

end Statement

section Steps

variable {Client : Type} [LinearOrder Client] {r : Ride Client}

theorem reading_travel (distance : ℕ) :
    (r.step (.travel distance)).reading = if r.anticipates then 0 else r.odometer + distance := rfl

/-- A trip that has started travels. -/
theorem distance_travel (distance : ℕ) (id : UInt32) :
    (r.step (.travel distance)).distance id = if r.meter id = none then 0 else r.distance id + distance := by
  simp only [Ride.distance, step]
  cases r.meter id <;> rfl

theorem tracked_travel {distance : ℕ} (may : r.MayRide (.travel distance)) (tracked : r.Tracked) :
    (r.step (.travel distance)).Tracked := by
  obtain ⟨-, bounded, rests⟩ := may
  refine ⟨fun id trip found => ?_, tracked.paired, tracked.unwrapped⟩
  have among : id ∈ r.trips := SortedMap.mem_iff_find?.mpr ⟨trip, found⟩
  obtain ⟨told, -, started⟩ := tracked.trips id trip found
  refine ⟨?_, ?_, fun unstarted => started (Option.map_eq_none_iff.mp unstarted)⟩
  · rw [reading_travel, distance_travel]
    rw [reading] at told
    cases waits : r.anticipates with
    | true =>
      rw [waits, if_pos rfl] at told
      have same : (if r.meter id = none then 0 else r.distance id + distance) = r.distance id := by
        split_ifs with unstarted
        · rw [Ride.distance, unstarted]
          rfl
        · rcases rests with rfl | calm | none
          · exact Nat.add_zero _
          · exact absurd (waits.symm.trans calm) (by decide)
          · exact absurd (none id among) unstarted
      rw [same]
      exact told
    | false =>
      rw [waits, if_neg Bool.false_ne_true] at told
      have moving : r.meter id ≠ none := by
        intro unstarted
        obtain ⟨sent, client, options, member⟩ := started unstarted
        have counted : r.anticipates = true := List.any_eq_true.mpr ⟨_, member, rfl⟩
        exact absurd (waits.symm.trans counted) (by decide)
      rw [if_neg moving]
      exact told.travel distance
  · rw [distance_travel]
    split_ifs
    · exact Nat.two_pow_pos 32
    · exact bounded id among

/-- An answer that rests on what holds. -/
theorem tracked_answer {index : ℕ} {sent : BatchingRequest} {response : BatchingResponse Client}
    (numOfBatchedPositions : ℕ) (found : r.session.outstanding[index]? = some (sent, response))
    (may : r.MayAnswer response) (tracked : r.Tracked) :
    ((r.answered index sent response).after
      (response.proc .success ⟨r.odometer, numOfBatchedPositions⟩)).Tracked := by
  cases response with
  | queriedForStart client sessionId options => exact tracked_queriedForStart numOfBatchedPositions found may tracked
  | rebased accumulatedDistance ongoingTripDistance ongoingTripInterval => exact tracked_rebased found may tracked
  | started client sessionId options => exact tracked_started (tracked.answered found rfl fun _ _ _ => nofun)
  | stopped client sessionId flpOptions restartNeeded options =>
    exact tracked_stopped flpOptions restartNeeded (tracked.answered found rfl fun _ _ _ => nofun)
  | tripStarted client sessionId options => exact tracked_tripStarted (tracked.answered found rfl fun _ _ _ => nofun)
  | tripRestarted client sessionId =>
    exact tracked_reportResponse .success (tracked.answered found rfl fun _ _ _ => nofun)
  | tripStopped client sessionId restartNeeded options =>
    exact tracked_tripStopped restartNeeded may (tracked.answered found rfl fun _ _ _ => nofun)
  | queriedForRestart query minRemainingDistance minTBFInterval accDist numbatchedPos =>
    exact tracked_queriedForRestart query _ _ accDist numbatchedPos may (tracked.answered found rfl fun _ _ _ => nofun)
  | tripsRestarted =>
    have answered := tracked.answered found rfl fun _ _ _ => nofun
    exact tracked_ite (fun fails => absurd rfl fails) fun _ => tracked_pure answered
  | ignore => exact tracked_pure (tracked.answered found rfl fun _ _ _ => nofun)

/-- What the trips tell is kept by a step that loses no distance. -/
theorem tracked_step {e : RideEvent Client} (may : r.MayRide e) (tracked : r.Tracked) : (r.step e).Tracked := by
  cases e with
  | command command => exact tracked_command may tracked
  | travel distance => exact tracked_travel may tracked
  | report => exact tracked_reportCompletedTripsEvent may tracked
  | handleEngineUpEvent => exact tracked_handleEngineUpEvent may tracked
  | answer index numOfBatchedPositions =>
    rw [step]
    cases found : r.session.outstanding[index]? with
    | none => exact tracked
    | some awaited => exact tracked_answer numOfBatchedPositions found (may _ _ found) tracked

theorem not_reports_restartTripBatching {a : BatchingAdapter Client} (query : Bool) (accDist numbatchedPos : ℕ)
    (completedTrips : List UInt32) :
    .reportBatchStatusChange completedTrips ∉ (restartTripBatching query accDist numbatchedPos).emitted a := by
  intro member
  rw [restartTripBatching, Emit.emitted_get_bind, Emit.emitted_ite] at member
  split_ifs at member
  · rw [Emit.emitted_bind, Emit.emitted_bind, leaveBatchFull, Emit.emitted_get_bind, Emit.emitted_ite] at member
    split_ifs at member <;> cases List.mem_singleton.mp member
  · rw [Emit.emitted_bind] at member
    rcases List.mem_append.mp member with before | last
    · cases wrapped_leastRemaining _ _ _ _ before
    · cases List.mem_singleton.mp last

/-- The report of completed trips is that of the trips that are completed. -/
theorem mem_reportBatchStatusChange_iff (distance : ℕ) (a : BatchingAdapter Client) (completedTrips : List UInt32) :
    .reportBatchStatusChange completedTrips ∈ (reportCompletedTripsEvent distance).emitted a ↔
      completedTrips ≠ [] ∧ completedTrips = (completeTrips distance a.mTripSessions.entries).result a := by
  rw [reportCompletedTripsEvent, Emit.emitted_get_bind, Emit.emitted_bind, List.mem_append, Emit.emitted_ite]
  generalize (completeTrips distance a.mTripSessions.entries).result a = completed
  constructor
  · rintro (before | after)
    · cases wrapped_completeTrips _ _ _ before
    · split_ifs at after with some
      · rw [Emit.emitted_bind] at after
        rcases List.mem_append.mp after with report | last
        · cases List.mem_singleton.mp report
          exact ⟨some, rfl⟩
        · exact absurd last (not_reports_restartTripBatching _ _ _ _)
      · exact absurd after List.not_mem_nil
  · rintro ⟨some, rfl⟩
    rw [if_pos some, Emit.emitted_bind]
    exact .inr (List.mem_append_left _ (List.mem_singleton_self _))

/-- A report completes the trips whose distances are at least theirs as far as they tell. -/
theorem completed_iff (distance : ℕ) (a : BatchingAdapter Client) (id : UInt32) :
    (∃ completedTrips, .reportBatchStatusChange completedTrips ∈ (reportCompletedTripsEvent distance).emitted a ∧
      id ∈ completedTrips) ↔
      ∃ trip, a.mTripSessions.find? id = some trip ∧ trip.tripDistance ≤ trip.at distance := by
  have among : (∃ completedTrips, .reportBatchStatusChange completedTrips ∈
      (reportCompletedTripsEvent distance).emitted a ∧ id ∈ completedTrips) ↔
      id ∈ (completeTrips distance a.mTripSessions.entries).result a := by
    constructor
    · rintro ⟨completedTrips, member, among⟩
      exact ((mem_reportBatchStatusChange_iff _ _ _).mp member).2 ▸ among
    · exact fun among => ⟨_, (mem_reportBatchStatusChange_iff _ _ _).mpr ⟨List.ne_nil_of_mem among, rfl⟩, among⟩
  rw [among, mem_completeTrips_iff]
  apply exists_congr
  intro trip
  apply and_congr_right
  intro _
  rw [TripSessionStatus.report]
  split_ifs with completed
  · exact iff_of_true rfl completed
  · exact iff_of_false not_false completed

/-- Where the trips tell their distances, a report completes those that have travelled theirs. -/
theorem right_report (may : r.MayRide .report) (tracked : r.Tracked) : r.Right .report := by
  intro id
  rw [completed_iff]
  apply exists_congr
  intro trip
  apply and_congr_right
  intro found
  obtain ⟨told, bounded, -⟩ := tracked.trips id trip found
  have same : r.odometer = r.reading :=
    may.resolve_left fun none => none id (SortedMap.mem_iff_find?.mpr ⟨trip, found⟩)
  rw [same, at_of_tells told bounded]

/-- Trips are completed at their distances in every run whose steps lose no distance, and no subtraction wraps. -/
theorem right_of_mayRide {adapter : BatchingAdapter Client} (none : ∀ id, id ∉ adapter.mTripSessions)
    {events : List (RideEvent Client)} (may : EachStep step MayRide (start adapter) events) :
    EachStep step Right (start adapter) events ∧
      Throughout step (fun r => .wrapped ∉ r.session.log) (start adapter) events := by
  have first : (start adapter).Tracked :=
    ⟨fun id trip found => absurd (SortedMap.mem_iff_find?.mpr ⟨trip, found⟩) (none id),
      fun _ => List.not_mem_nil.elim, List.not_mem_nil⟩
  have tracked : Throughout step Tracked (start adapter) events :=
    throughout_of_eachStep first (fun _ _ tracked may => tracked_step may tracked) may
  refine ⟨fun done e reached => ?_, fun done reached => (tracked done reached).unwrapped⟩
  cases e with
  | report => exact right_report (may done .report reached) (tracked done ((List.prefix_append done _).trans reached))
  | _ => exact trivial

end Steps

section Runs

/-- A trip is joined by another and completed. -/
def together : List (RideEvent ℕ) :=
  [.command (.start 0 1 (.ofTrip 100 10)), .answer 0 0, .travel 60, .command (.start 0 2 (.ofTrip 50 10)), .answer 0 0,
    .travel 40, .report]

theorem mayRide_together : EachStep step MayRide (start .fresh) together := by
  have answers {r : Ride ℕ} (sent : BatchingRequest) (response : BatchingResponse ℕ)
      (found : r.session.outstanding[0]? = some (sent, response)) (may : r.MayAnswer response) :
      r.MayRide (.answer 0 0) := by
    rintro sent' response' found'
    cases found.symm.trans found'
    exact may
  have travels {r : Ride ℕ} {distance : ℕ} (bounded : r.odometer + distance < 2 ^ 32)
      (all : ∀ entry ∈ r.trips.entries, r.distance entry.1 + distance < 2 ^ 32) (rests : r.anticipates = false) :
      r.MayRide (.travel distance) :=
    ⟨bounded, fun id ⟨trip, member⟩ => all (id, trip) member, .inr (.inl rests)⟩
  apply eachStep_cons
  · exact trivial
  apply eachStep_cons
  · exact answers _ _ rfl trivial
  apply eachStep_cons
  · exact travels (by decide) (by decide) rfl
  apply eachStep_cons
  · exact trivial
  apply eachStep_cons
  · have joins : (BatchingAdapter.distanceWith
        (((together.take 4).foldl step (start .fresh)).session.adapter) (.ofTrip 50 10) (sub32 100 60)) = none := by
      decide +kernel
    exact answers _ _ rfl ⟨by decide, fun restarts => absurd joins (Option.isSome_iff_ne_none.mp restarts), fun _ =>
      rfl⟩
  apply eachStep_cons
  · exact travels (by decide +kernel) (by decide +kernel) (by decide +kernel)
  apply eachStep_cons
  · exact .inr (by decide +kernel)
  exact eachStep_nil

theorem right_of_mayRide_together : EachStep step Right (start .fresh) together ∧
    Throughout step (fun r => .wrapped ∉ r.session.log) (start .fresh) together :=
  right_of_mayRide (fun _ => SortedMap.not_mem_empty) mayRide_together

/-- A trip is restarted with the modem. -/
def restarted : List (RideEvent ℕ) :=
  [.command (.start 0 1 (.ofTrip 100 10)), .answer 0 0, .travel 60, .handleEngineUpEvent, .answer 0 0, .travel 40]

/-- What a trip has travelled before a restart of the modem is lost. -/
theorem restart_loses_distance : ¬ ∀ events : List (RideEvent ℕ), EachStep step Right (start .fresh) events ∧
    Throughout step (fun r => .wrapped ∉ r.session.log) (start .fresh) events := by
  intro always
  have right := (always (restarted ++ [.report])).1 restarted .report List.prefix_rfl
  have trips : (restarted.foldl step (start .fresh)).trips.find? 1 = some ⟨0, 0, 0, 100, 10⟩ := by decide
  have distance : (restarted.foldl step (start .fresh)).distance 1 = 100 := by decide
  obtain ⟨trip, found, completed⟩ := (completed_iff _ _ 1).mp ((right 1).mpr ⟨_, trips, distance ▸ Nat.le_refl 100⟩)
  cases trips.symm.trans found
  have told : Leg.Tells ⟨0, 0⟩ 40 40 := Leg.tells_start.travel 40
  have forty : (⟨0, 0, 0, 100, 10⟩ : TripSessionStatus).at 40 = 40 := at_of_tells told (by decide)
  have reached : 100 ≤ (⟨0, 0, 0, 100, 10⟩ : TripSessionStatus).at 40 := completed
  omega

end Runs

end Ride

end Cypfr.Batching
