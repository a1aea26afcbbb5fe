import Cypfr.Proofs.BatchingTables

/-! # Replies to a batching session

What a program replies to a session, together with the replies that the functions of its requests still owe.
-/

namespace Cypfr.Batching

open Tracking

section Commands

variable {Client : Type}

/-- The session of a command. -/
def BatchingCommand.key : BatchingCommand Client → LocationSessionKey Client
  | .start client sessionId _ | .update client sessionId _ | .stop client sessionId => ⟨client, sessionId⟩

/-- Whether a command that stops a session starts it again, and with which options. -/
def BatchingCommand.stopping : BatchingCommand Client → Option (Bool × BatchingOptions)
  | .start .. => none
  | .update _ _ options => some (true, options)
  | .stop .. => some (false, .initial)

/-- A stop of a session, which goes on with valid options if it goes on. -/
def BatchingResponse.StopsFor (key : LocationSessionKey Client) : BatchingResponse Client → Prop
  | .stopped client sessionId _ restartNeeded options | .tripStopped client sessionId restartNeeded options =>
    ⟨client, sessionId⟩ = key ∧ (restartNeeded = true → options.batchingMode ≠ .invalid)
  | _ => False

/-- A start of a client that may start; an update of a known session that is no trip, to options that are some; a stop
of a known session. -/
def BatchingCommand.Accepted [LinearOrder Client] (a : BatchingAdapter Client) : BatchingCommand Client → Prop
  | .start client _ options => a.batchingCb client ∧ options.size ≠ 0 ∧ a.isDistanceBaseBatchingSupported
  | .update client sessionId options =>
    ⟨client, sessionId⟩ ∈ a.mBatchingSessions ∧ sessionId ∉ a.mTripSessions ∧ options.size ≠ 0 ∧
      options.batchingMode ≠ .invalid
  | .stop client sessionId => ⟨client, sessionId⟩ ∈ a.mBatchingSessions

end Commands

section Credit

variable {Client : Type} [LinearOrder Client] {a : BatchingAdapter Client} (key : LocationSessionKey Client)
  {client : Client} {sessionId : UInt32} {options : BatchingOptions} {err : LocationError} {data : LocApiBatchData}

/-- A function that is about a session owes it one reply; when a trip is stopped to start again it owes two. -/
def BatchingResponse.owes : BatchingResponse Client → ℕ
  | .tripStopped client sessionId restartNeeded _ =>
    if (⟨client, sessionId⟩ : LocationSessionKey Client) = key then if restartNeeded then 2 else 1 else 0
  | response => if response.key = some key then 1 else 0

/-- The replies to a session that an output is, or that its function owes. -/
def BatchingOutput.credit : BatchingOutput Client → ℕ
  | .request _ response => response.owes key
  | .reportResponse client _ sessionId _ => if (⟨client, sessionId⟩ : LocationSessionKey Client) = key then 1 else 0
  | _ => 0

/-- An output that is a reply to a session. -/
def BatchingOutput.repliesTo : BatchingOutput Client → Bool
  | .reportResponse client _ sessionId _ => (⟨client, sessionId⟩ : LocationSessionKey Client) = key
  | _ => false

/-- The replies among some outputs and those that their functions owe. -/
theorem sum_credit (outputs : List (BatchingOutput Client)) : (outputs.map (BatchingOutput.credit key)).sum =
    outputs.countP (BatchingOutput.repliesTo key) +
      ((outputs.filterMap BatchingOutput.asked).map fun awaited => awaited.2.owes key).sum := by
  induction outputs with
  | nil => rfl
  | cons first rest ih =>
    rw [List.map_cons, List.sum_cons, ih, List.countP_cons]
    cases first with
    | request sent response =>
      simp only [BatchingOutput.credit, BatchingOutput.repliesTo, BatchingOutput.asked, List.filterMap_cons,
        List.map_cons, List.sum_cons, Bool.false_eq_true, if_false]
      omega
    | reportResponse client err sessionId reached =>
      simp only [BatchingOutput.credit, BatchingOutput.repliesTo, BatchingOutput.asked, List.filterMap_cons,
        decide_eq_true_eq]
      omega
    | reportBatchStatusChange | wrapped | missed =>
      simp only [BatchingOutput.credit, BatchingOutput.repliesTo, BatchingOutput.asked, List.filterMap_cons,
        Bool.false_eq_true, if_false]
      omega

variable {key} in
theorem credit_of_wrapped {α : Type} {p : BatchingM Client α} (only : ∀ output ∈ p.emitted a, output = .wrapped) :
    p.total (BatchingOutput.credit key) a = 0 :=
  Emit.total_eq_zero fun output member => by rw [only output member]; rfl

section Programs

variable {key}

@[simp] theorem total_request (sent : BatchingRequest) (response : BatchingResponse Client) :
    (request sent response).total (BatchingOutput.credit key) a = response.owes key := Nat.add_zero _

@[simp] theorem total_reportResponse : (reportResponse client err sessionId).total (BatchingOutput.credit key) a =
    if (⟨client, sessionId⟩ : LocationSessionKey Client) = key then 1 else 0 := Nat.add_zero _

@[simp] theorem total_setBatchFull (enabled : Bool) :
    (setBatchFull enabled).total (BatchingOutput.credit key) a = 0 := rfl

@[simp] theorem total_setOngoingTrip (distance interval : ℕ) :
    (setOngoingTrip distance interval).total (BatchingOutput.credit key) a = 0 := rfl

@[simp] theorem total_setTripSessions (f : SortedMap UInt32 TripSessionStatus → SortedMap UInt32 TripSessionStatus) :
    (setTripSessions f).total (BatchingOutput.credit key) a = 0 := rfl

@[simp] theorem total_saveBatchingSession :
    (saveBatchingSession client sessionId options).total (BatchingOutput.credit key) a = 0 := rfl

@[simp] theorem total_eraseBatchingSession :
    (eraseBatchingSession client sessionId).total (BatchingOutput.credit key) a = 0 := rfl

@[simp] theorem total_minus (x y : ℕ) : (minus x y).total (BatchingOutput.credit key) a = 0 :=
  credit_of_wrapped wrapped_minus

@[simp] theorem total_leaveBatchFull : leaveBatchFull.total (BatchingOutput.credit key) a = 0 := by
  simp [leaveBatchFull]

@[simp] theorem total_dropTrip (trip : TripSessionStatus) :
    (dropTrip sessionId trip).total (BatchingOutput.credit key) a = 0 := by
  simp [dropTrip]

@[simp] theorem total_restartTripBatching (query : Bool) (accDist numbatchedPos : ℕ) :
    (restartTripBatching query accDist numbatchedPos).total (BatchingOutput.credit key) a = 0 := by
  simp [restartTripBatching, credit_of_wrapped (wrapped_leastRemaining _ _ _), BatchingResponse.owes,
    BatchingResponse.key]

@[simp] theorem total_continueTrips : continueTrips.total (BatchingOutput.credit key) a = 0 := by
  simp [continueTrips]

/-- A session that starts gets one reply. -/
@[simp] theorem total_startSession (valid : options.batchingMode ≠ .invalid) :
    (startSession client sessionId options).total (BatchingOutput.credit key) a =
      if (⟨client, sessionId⟩ : LocationSessionKey Client) = key then 1 else 0 := by
  rw [startSession]
  cases mode : options.batchingMode with
  | invalid => exact absurd mode valid
  | routine | noAutoReport => simp [startBatching, BatchingResponse.owes, BatchingResponse.key]
  | trip => simp [startTripBatchingMultiplex, BatchingResponse.owes, BatchingResponse.key]

/-- A trip that is stopped gets a reply of its own, after what starts it again. -/
theorem total_stopTripBatchingMultiplexCommon {restartNeeded : Bool} (known : sessionId ∈ a.mTripSessions)
    (valid : restartNeeded = true → options.batchingMode ≠ .invalid) :
    (stopTripBatchingMultiplexCommon err client sessionId restartNeeded options).total (BatchingOutput.credit key) a =
      if (⟨client, sessionId⟩ : LocationSessionKey Client) = key then if restartNeeded then 2 else 1 else 0 := by
  obtain ⟨trip, found⟩ := SortedMap.mem_iff_find?.mp known
  rw [stopTripBatchingMultiplexCommon, Emit.total_get_bind, found]
  cases restartNeeded with
  | false => simp
  | true =>
    simp [valid rfl]
    split_ifs <;> rfl

/-- A trip that is none any more gets no reply. -/
theorem total_stopTripBatchingMultiplexCommon_of_notMem {restartNeeded : Bool} (unknown : sessionId ∉ a.mTripSessions) :
    (stopTripBatchingMultiplexCommon err client sessionId restartNeeded options).total (BatchingOutput.credit key) a =
    0 := by
  rw [stopTripBatchingMultiplexCommon, Emit.total_get_bind, SortedMap.find?_eq_none_iff.mpr unknown]
  rfl

theorem total_joinTripBatch : (joinTripBatch client sessionId options err data).total (BatchingOutput.credit key) a =
    if (⟨client, sessionId⟩ : LocationSessionKey Client) = key then 1 else 0 := by
  have saves : (saveTrip sessionId options err data).total (BatchingOutput.credit key) a = 0 := by
    simp [saveTrip]
  rw [joinTripBatch, Emit.total_get_bind, Emit.total_bind, saves]
  cases a.distanceWith options ((saveTrip sessionId options err data).result a) <;>
    simp [BatchingResponse.owes, BatchingResponse.key]

theorem total_restartWithDistance {query : Bool} {minRemainingDistance minTBFInterval accDist : ℕ} :
    (restartWithDistance query minRemainingDistance minTBFInterval accDist data).total (BatchingOutput.credit key) a =
    0 := by
  have leaves (distance : ℕ) : (leftInBatch distance).total (BatchingOutput.credit key) a = 0 := by
    simp [leftInBatch]
  rw [restartWithDistance, Emit.total_bind, next_leftInBatch, Emit.total_get_bind, leaves]
  generalize a.batchWithout minRemainingDistance minTBFInterval _ = batch
  cases batch <;> simp [BatchingResponse.owes, BatchingResponse.key]

/-- The answer to a request that does not stop a session makes and owes what was owed. -/
theorem total_proc {response : BatchingResponse Client} (goesOn : response.stops = false) :
    (response.proc err data).total (BatchingOutput.credit key) a = response.owes key := by
  cases response with
  | stopped | tripStopped => cases goesOn
  | queriedForStart => exact total_joinTripBatch.trans (if_congr (by simp [BatchingResponse.key]) rfl rfl)
  | queriedForRestart => exact total_restartWithDistance
  | rebased accumulatedDistance =>
    have each : (rebaseTrips accumulatedDistance a.mTripSessions.entries).total (BatchingOutput.credit key) a = 0 :=
      credit_of_wrapped (wrapped_rebaseTrips accumulatedDistance a.mTripSessions.entries)
    simp [BatchingResponse.proc, each, BatchingResponse.owes, BatchingResponse.key]
  | _ => simp [BatchingResponse.proc, BatchingResponse.owes, BatchingResponse.key]

/-- A session whose stop is answered gets one reply, and another if it starts again. -/
theorem total_stopped {flpOptions : BatchingOptions} {restartNeeded : Bool}
    (valid : restartNeeded = true → options.batchingMode ≠ .invalid) :
    ((BatchingResponse.stopped client sessionId flpOptions restartNeeded options).proc err data).total
      (BatchingOutput.credit key) a = if (⟨client, sessionId⟩ : LocationSessionKey Client) = key then
        if err = .success ∧ restartNeeded then 2 else 1 else 0 := by
  rw [BatchingResponse.proc]
  by_cases success : err = .success
  · cases restartNeeded with
    | false => simp [success]
    | true =>
      simp [success, valid rfl]
      split_ifs <;> rfl
  · simp [success]

/-- The answer to the stop of a trip only makes replies where the trip is dropped. -/
theorem total_tripStopped (key : LocationSessionKey Client) (a : BatchingAdapter Client) (client : Client)
    (sessionId : UInt32) (restartNeeded : Bool) (options : BatchingOptions) : ∃ a' : BatchingAdapter Client,
    a'.mTripSessions = a.mTripSessions ∧
    ((BatchingResponse.tripStopped client sessionId restartNeeded options).proc err data).total
        (BatchingOutput.credit key) a =
      (stopTripBatchingMultiplexCommon err client sessionId restartNeeded options).total
        (BatchingOutput.credit key) a' := by
  rw [BatchingResponse.proc, Emit.total_get_bind]
  split_ifs
  · refine ⟨(setBatchFull false).next a, rfl, ?_⟩
    rw [Emit.total_bind, total_setBatchFull, Nat.zero_add]
  · refine ⟨a, rfl, ?_⟩
    rw [Emit.total_bind, Emit.total_pure, Nat.zero_add]
    rfl

theorem total_stopBatching {restartNeeded : Bool} (known : ⟨client, sessionId⟩ ∈ a.mBatchingSessions) :
    (stopBatching client sessionId restartNeeded options).total (BatchingOutput.credit key) a =
      if (⟨client, sessionId⟩ : LocationSessionKey Client) = key then 1 else 0 := by
  obtain ⟨flpOptions, found⟩ := SortedMap.mem_iff_find?.mp known
  rw [stopBatching, Emit.total_get_bind, found]
  simp [BatchingResponse.owes, BatchingResponse.key]

theorem total_stopTripBatchingMultiplex {restartNeeded : Bool} (known : sessionId ∈ a.mTripSessions)
    (valid : restartNeeded = true → options.batchingMode ≠ .invalid) :
    (stopTripBatchingMultiplex client sessionId restartNeeded options).total (BatchingOutput.credit key) a =
      if (⟨client, sessionId⟩ : LocationSessionKey Client) = key then if restartNeeded then 2 else 1 else 0 := by
  rw [stopTripBatchingMultiplex, Emit.total_get_bind, Emit.total_ite,
    total_stopTripBatchingMultiplexCommon known valid, total_request, BatchingResponse.owes, ite_self]

end Programs

/-- A command that is processed makes or owes one reply exactly when it is accepted. -/
theorem total_command_iff (command : BatchingCommand Client) (known : a.engineCapabilitiesKnown = true) :
    command.proc.total (BatchingOutput.credit command.key) a = 1 ↔ command.Accepted a := by
  rw [BatchingCommand.proc, Emit.total_get_bind, known, Bool.not_true, if_neg Bool.false_ne_true]
  cases command with
  | start client sessionId options =>
    simp only [BatchingCommand.Accepted, BatchingCommand.key, Emit.total_ite, Emit.total_pure]
    split_ifs with accepted invalid
    · simp [accepted]
    · simp [accepted, invalid]
    · exact iff_of_false not_false accepted
  | update client sessionId options =>
    simp only [BatchingCommand.Accepted, BatchingCommand.key, Emit.total_ite, Emit.total_pure, ← SortedMap.contains_iff]
    split_ifs with present other
    · rw [total_stopBatching (SortedMap.contains_iff.mp present.1), if_pos rfl]
      rw [Bool.not_eq_true'] at other
      exact iff_of_true rfl ⟨present.1, by simp [other], present.2⟩
    · rw [Bool.not_eq_true', Bool.not_eq_false] at other
      rw [total_stopTripBatchingMultiplex (SortedMap.contains_iff.mp other) fun _ => present.2.2, if_pos rfl,
        if_pos rfl]
      exact iff_of_false (by decide) fun accepted => accepted.2.1 other
    · exact iff_of_false not_false fun accepted => present ⟨accepted.1, accepted.2.2⟩
  | stop client sessionId =>
    simp only [BatchingCommand.Accepted, BatchingCommand.key, Emit.total_ite, Emit.total_pure, ← SortedMap.contains_iff]
    split_ifs with present trip
    · rw [total_stopTripBatchingMultiplex (SortedMap.contains_iff.mp trip) (absurd · Bool.false_ne_true)]
      simp [present]
    · rw [total_stopBatching (SortedMap.contains_iff.mp present), if_pos rfl]
      exact iff_of_true rfl present
    · exact iff_of_false not_false present

/-- A command asks for nothing that stops a session, or it is the stop of its own session, by the table it is in. -/
theorem command_cases (command : BatchingCommand Client) :
    (∀ awaited ∈ asked command.proc a, awaited.2.stops = false) ∨
      ∃ restartNeeded options, command.stopping = some (restartNeeded, options) ∧
        (restartNeeded = true → options.batchingMode ≠ .invalid) ∧ command.key ∈ a.mBatchingSessions ∧
          (command.key.id ∉ a.mTripSessions ∧
              command.proc a = stopBatching command.key.client command.key.id restartNeeded options a ∨
            command.key.id ∈ a.mTripSessions ∧
              command.proc a = stopTripBatchingMultiplex command.key.client command.key.id restartNeeded options
              a) := by
  have none : ∀ awaited ∈ ([] : List (BatchingRequest × BatchingResponse Client)), awaited.2.stops = false :=
    fun _ member => absurd member List.not_mem_nil
  rw [BatchingCommand.proc, asked_get_bind, Emit.get_bind_apply, asked_ite]
  split_ifs
  · exact .inl none
  cases command with
  | start client sessionId options =>
    left
    simp only [asked_ite, asked_pure]
    split_ifs
    · exact none
    · exact fun awaited member => (continues_startSession member).1
    · exact none
  | update client sessionId options =>
    simp only [asked_ite, asked_pure]
    split_ifs with present other
    · right
      rw [Bool.not_eq_true', SortedMap.contains_eq_false_iff] at other
      exact ⟨true, options, rfl, fun _ => present.2.2, SortedMap.contains_iff.mp present.1, .inl ⟨other, rfl⟩⟩
    · right
      rw [Bool.not_eq_true', SortedMap.contains_eq_false_iff, not_not] at other
      exact ⟨true, options, rfl, fun _ => present.2.2, SortedMap.contains_iff.mp present.1, .inr ⟨other, rfl⟩⟩
    · exact .inl none
  | stop client sessionId =>
    simp only [asked_ite, asked_pure]
    split_ifs with present trip
    · right
      rw [SortedMap.contains_iff] at present trip
      exact ⟨false, .initial, rfl, (absurd · Bool.false_ne_true), present, .inr ⟨trip, rfl⟩⟩
    · right
      rw [SortedMap.contains_iff] at present trip
      exact ⟨false, .initial, rfl, (absurd · Bool.false_ne_true), present, .inl ⟨trip, rfl⟩⟩
    · exact .inl none

/-- What a command asks stops no session, or the command asks to stop its own and does no more. -/
theorem command_asks (command : BatchingCommand Client) :
    (∀ awaited ∈ asked command.proc a, awaited.2.stops = false) ∨
      ∃ sent response, command.proc.emitted a = [.request sent response] ∧ response.StopsFor command.key := by
  rcases command_cases (a := a) command with none | ⟨restartNeeded, options, -, valid, known, ⟨-, same⟩ | ⟨trip, same⟩⟩
  · exact .inl none
  · right
    obtain ⟨flpOptions, found⟩ := SortedMap.mem_iff_find?.mp known
    rw [Emit.emitted, same, ← Emit.emitted, stopBatching, Emit.emitted_get_bind, found]
    exact ⟨_, _, rfl, rfl, valid⟩
  · rw [asked, Emit.emitted, same, ← Emit.emitted, stopTripBatchingMultiplex, Emit.emitted_get_bind, Emit.emitted_ite]
    split_ifs
    · exact .inr ⟨_, _, rfl, rfl, valid⟩
    · exact .inl fun awaited member => (continues_stopTripBatchingMultiplexCommon member).1

end Credit

end Cypfr.Batching
