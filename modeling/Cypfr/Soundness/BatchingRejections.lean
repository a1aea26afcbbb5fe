import Cypfr.Model.BatchingModem
import Cypfr.Proofs.BatchingReplies

/-! # Stops that the modem rejects

A session whose stop is rejected is saved with the options of the command, and a trip is dropped all the same. The
tables are those before the command only where this makes no difference.
-/

namespace Cypfr.Batching

open Tracking

variable {Client : Type} [LinearOrder Client] {a : BatchingAdapter Client} {client : Client} {sessionId : UInt32}
  {options : BatchingOptions} {restartNeeded : Bool} {err : LocationError}

/-- The sessions with their options, and the trips with their distances. -/
def BatchingAdapter.tables (a : BatchingAdapter Client) :
    SortedMap (LocationSessionKey Client) BatchingOptions × SortedMap UInt32 TripSessionStatus :=
  (a.mBatchingSessions, a.mTripSessions)

/-- The command makes no difference: an update has the options that the session has, and of a trip also the distances
of one that starts; a stop is that of a session with the default options that is no trip. -/
def BatchingCommand.Restores (a : BatchingAdapter Client) : BatchingCommand Client → Prop
  | .start .. => True
  | .update client sessionId options =>
    a.mBatchingSessions.find? ⟨client, sessionId⟩ = some options ∧ (sessionId ∈ a.mTripSessions →
      options.batchingMode = .trip ∧
        a.mTripSessions.find? sessionId = some ⟨0, 0, 0, options.minDistance, options.minInterval⟩)
  | .stop client sessionId =>
    a.mBatchingSessions.find? ⟨client, sessionId⟩ = some .initial ∧ sessionId ∉ a.mTripSessions

/-- The adapter after a program whose stop request is answered with an error. -/
def BatchingAdapter.rejecting (a : BatchingAdapter Client) (p : BatchingM Client Unit) (index : ℕ) (err : LocationError)
    (data : LocApiBatchData) : BatchingAdapter Client :=
  (((BatchingSession.start a).after p).step (.answer index err data)).adapter

theorem rejecting_eq {p : BatchingM Client Unit} {index : ℕ} {sent : BatchingRequest}
    {response : BatchingResponse Client} (data : LocApiBatchData) (asks : (asked p a)[index]? = some (sent, response)) :
    a.rejecting p index err data = (response.proc err data).next (p.next a) := by
  have waits : ((BatchingSession.start a).after p).outstanding[index]? = some (sent, response) := asks
  rw [BatchingAdapter.rejecting, BatchingSession.step, waits]
  rfl

/-- A session that fails to stop is saved with the options of the command. -/
theorem tables_stopBatching_rejected (failed : err ≠ .success) (known : ⟨client, sessionId⟩ ∈ a.mBatchingSessions)
    {index : ℕ} {sent : BatchingRequest} {response : BatchingResponse Client} (data : LocApiBatchData)
    (asks : (asked (stopBatching client sessionId restartNeeded options) a)[index]? = some (sent, response)) :
    (a.rejecting (stopBatching client sessionId restartNeeded options) index err data).tables = a.tables ↔
      a.mBatchingSessions.find? ⟨client, sessionId⟩ = some options := by
  rw [rejecting_eq data asks, next_stopBatching]
  obtain ⟨flpOptions, found⟩ := SortedMap.mem_iff_find?.mp known
  rw [asked_stopBatching, found] at asks
  obtain ⟨rfl, rfl⟩ := Prod.mk.inj (List.mem_singleton.mp (List.mem_of_getElem? asks))
  rw [next_stopped, if_neg failed, BatchingAdapter.tables, BatchingAdapter.tables, Prod.mk.injEq,
    SortedMap.insert_erase_eq_iff]
  exact and_iff_left rfl

/-- The only trip is dropped, and starts again if it is to. -/
theorem tables_dropped_iff {trip : TripSessionStatus} (found : a.mTripSessions.find? sessionId = some trip)
    (one : a.mTripSessions.size = 1) :
    ((stopTripBatchingMultiplexCommon err client sessionId restartNeeded options).next a).tables = a.tables ↔
      restartNeeded = true ∧ a.mBatchingSessions.find? ⟨client, sessionId⟩ = some options ∧
        options.batchingMode = .trip ∧ trip = ⟨0, 0, 0, options.minDistance, options.minInterval⟩ := by
  have known : sessionId ∈ a.mTripSessions := SortedMap.mem_iff_find?.mpr ⟨trip, found⟩
  have empty : (a.mTripSessions.erase sessionId).size = 0 :=
    SortedMap.size_eq_zero_iff.mpr (SortedMap.isEmpty_iff.mp ((SortedMap.isEmpty_erase_iff known).mpr one))
  have dropped {a' : BatchingAdapter Client} (trips : a'.mTripSessions = a.mTripSessions.erase sessionId) :
      a'.tables ≠ a.tables := by
    intro same
    rw [BatchingAdapter.tables, BatchingAdapter.tables, Prod.mk.injEq, trips, SortedMap.erase_eq_iff] at same
    exact same.2 known
  rw [next_stopTripBatchingMultiplexCommon _ _ _ _ _ found]
  cases restartNeeded with
  | false => exact iff_of_false (dropped rfl) fun both => Bool.false_ne_true both.1
  | true =>
    rw [if_pos rfl, startSession]
    cases mode : options.batchingMode with
    | routine | noAutoReport =>
      simp only [next_startBatching]
      exact iff_of_false (dropped rfl) (by simp)
    | invalid => exact iff_of_false (dropped rfl) (by simp)
    | trip =>
      have starts : (a.without sessionId trip).mTripSessions.size = 0 := empty
      simp only [next_startTripBatchingMultiplex]
      rw [if_pos starts, BatchingAdapter.tables, BatchingAdapter.tables, Prod.mk.injEq, SortedMap.insert_erase_eq_iff]
      simp only [BatchingAdapter.without, SortedMap.insert_erase_eq_iff, found, Option.some.injEq, true_and]

/-- A trip that fails to stop. -/
theorem tables_stopTripBatchingMultiplex_rejected {trip : TripSessionStatus}
    (found : a.mTripSessions.find? sessionId = some trip) {index : ℕ} {sent : BatchingRequest}
    {response : BatchingResponse Client} (data : LocApiBatchData) (stops : response.stops = true)
    (asks : (asked (stopTripBatchingMultiplex client sessionId restartNeeded options) a)[index]? =
    some (sent, response)) :
    (a.rejecting (stopTripBatchingMultiplex client sessionId restartNeeded options) index err data).tables = a.tables ↔
      restartNeeded = true ∧ a.mBatchingSessions.find? ⟨client, sessionId⟩ = some options ∧
        options.batchingMode = .trip ∧ trip = ⟨0, 0, 0, options.minDistance, options.minInterval⟩ := by
  rw [rejecting_eq data asks, stopTripBatchingMultiplex, Emit.next_get_bind, Emit.next_ite]
  rw [stopTripBatchingMultiplex, asked_get_bind, asked_ite] at asks
  split_ifs at asks ⊢ with one
  · obtain ⟨rfl, rfl⟩ := Prod.mk.inj (List.mem_singleton.mp (List.mem_of_getElem? asks))
    have same : (request (.stopOutdoorTripBatching true)
      (.tripStopped client sessionId restartNeeded options)).next a = a := rfl
    rw [same, next_tripStopped]
    exact tables_dropped_iff (a := { a with batchFull := _ }) found one
  · have goesOn := (continues_stopTripBatchingMultiplexCommon (List.mem_of_getElem? asks)).1
    rw [stops] at goesOn
    cases goesOn

/-- A program that does the same to an adapter asks the same and ends the same. -/
theorem rejecting_congr {p q : BatchingM Client Unit} (same : p a = q a) :
    asked p a = asked q a ∧ ∀ index err data, a.rejecting p index err data = a.rejecting q index err data := by
  have after : (BatchingSession.start a).after p = (BatchingSession.start a).after q := by
    rw [BatchingSession.after, BatchingSession.after, BatchingSession.start, Emit.next, Emit.emitted, Emit.next,
      Emit.emitted, same]
  constructor
  · rw [asked, asked, Emit.emitted, Emit.emitted, same]
  · intro index err data
    rw [BatchingAdapter.rejecting, BatchingAdapter.rejecting, after]

/-- When the stop request of a command is answered with an error, the tables are those before the command exactly when
the command makes no difference. -/
theorem rejected_stop_restores_iff (a : BatchingAdapter Client) (command : BatchingCommand Client) (index : ℕ)
    (err : LocationError) (data : LocApiBatchData) (sent : BatchingRequest) (response : BatchingResponse Client) :
    ((BatchingSession.start a).after command.proc).outstanding[index]? = some (sent, response) →
      response.stops = true → err ≠ .success →
        ((a.rejecting command.proc index err data).tables = a.tables ↔ command.Restores a) := by
  intro asks stops failed
  change (asked command.proc a)[index]? = some (sent, response) at asks
  rcases command_cases (a := a) command with none | ⟨restartNeeded, options, stopping, -, known,
    ⟨untried, same⟩ | ⟨trip, same⟩⟩
  · have goesOn := none _ (List.mem_of_getElem? asks)
    rw [stops] at goesOn
    cases goesOn
  · obtain ⟨sameAsked, sameEnd⟩ := rejecting_congr same
    rw [sameAsked] at asks
    rw [sameEnd]
    cases command with
    | start => cases stopping
    | update client sessionId options =>
      cases stopping
      apply (tables_stopBatching_rejected failed known data asks).trans
      exact (and_iff_left fun trip => absurd trip untried).symm
    | stop client sessionId =>
      cases stopping
      apply (tables_stopBatching_rejected failed known data asks).trans
      exact (and_iff_left untried).symm
  · obtain ⟨status, found⟩ := SortedMap.mem_iff_find?.mp trip
    obtain ⟨sameAsked, sameEnd⟩ := rejecting_congr same
    rw [sameAsked] at asks
    rw [sameEnd]
    apply (tables_stopTripBatchingMultiplex_rejected found data stops asks).trans
    cases command with
    | start => cases stopping
    | update client sessionId options =>
      cases stopping
      have found : a.mTripSessions.find? sessionId = some status := found
      have trip : sessionId ∈ a.mTripSessions := trip
      rw [BatchingCommand.Restores, found, BatchingCommand.key, forall_prop_of_true trip, Option.some.injEq,
        and_iff_right rfl]
    | stop client sessionId =>
      cases stopping
      exact iff_of_false (fun both => Bool.false_ne_true both.1) fun both => both.2 trip

section Rejected

/-- A session that reports full batches, with an interval. -/
def BatchingOptions.ofInterval (minInterval : ℕ) : BatchingOptions :=
  { BatchingOptions.initial with size := sizeofBatchingOptions, minInterval }

/-- An adapter with one session. -/
def oneSession : BatchingAdapter ℕ := (saveBatchingSession 0 1 (.ofInterval 1000)).next .fresh

theorem rejected_stop_restores_iff_oneSession :
    (oneSession.rejecting (BatchingCommand.stop 0 1).proc 0 .generalFailure ⟨0, 0⟩).tables = oneSession.tables ↔
      (BatchingCommand.stop 0 1).Restores oneSession :=
  rejected_stop_restores_iff oneSession (.stop 0 1) 0 .generalFailure ⟨0, 0⟩ (.stopBatching 1)
    (.stopped 0 1 (.ofInterval 1000) false .initial) rfl rfl (by decide)

/-- A session whose stop is rejected loses its options. -/
theorem rejected_stop_loses_options : ¬ ∀ (a : BatchingAdapter ℕ) (command : BatchingCommand ℕ) (index : ℕ)
    (err : LocationError) (data : LocApiBatchData) (sent : BatchingRequest) (response : BatchingResponse ℕ),
    ((BatchingSession.start a).after command.proc).outstanding[index]? = some (sent, response) →
      response.stops = true → err ≠ .success → (a.rejecting command.proc index err data).tables = a.tables := by
  intro always
  have same := always oneSession (.stop 0 1) 0 .generalFailure ⟨0, 0⟩ (.stopBatching 1)
    (.stopped 0 1 (.ofInterval 1000) false .initial) rfl rfl (by decide)
  have found := congrArg (fun tables => tables.1.find? ⟨0, 1⟩) same
  exact absurd found (by decide)

end Rejected

end Cypfr.Batching
