import Cypfr.Machine.Run
import Cypfr.Proofs.BatchFullAnswers

/-! # The event for full batches over a run

When each command is answered before the next, the event for full batches is enabled exactly when a live session is
interested in it, as long as no trip is stopped or completed that is saved among the sessions, a session that fails to
stop is saved as it was, and a trip joins the others just if its client is told so.
-/

namespace Cypfr.Batching

open Machine Tracking

section Asked

variable {Client : Type} [LinearOrder Client] {owner : UInt32 → Client} {a : BatchingAdapter Client}
  {live : LocationSessionKey Client → Option BatchingMode} {client : Client} {sessionId : UInt32}
  {options : BatchingOptions}

/-- A session that is no trip waits for the answer to its stop in neither table. -/
theorem pending_stopBatching (settled : Settled owner a live) (saved : ⟨client, sessionId⟩ ∈ a.mBatchingSessions)
    (other : sessionId ∉ a.mTripSessions) {restartNeeded : Bool}
    (valid : restartNeeded = true → options.batchingMode ≠ .invalid) :
    Pending owner ((stopBatching client sessionId restartNeeded options).next a) live
      (asked (stopBatching client sessionId restartNeeded options) a) := by
  obtain ⟨flpOptions, found⟩ := SortedMap.mem_iff_find?.mp saved
  have own := settled.owned _ saved
  have counts := counts_of_saved owner found other
  have beside := beside_erase ⟨client, sessionId⟩ a
  have gone : ¬ BatchingAdapter.Counts
      { a with mBatchingSessions := a.mBatchingSessions.erase ⟨client, sessionId⟩ } owner ⟨client, sessionId⟩ :=
    not_counts owner SortedMap.notMem_erase_self other
  rw [next_stopBatching, asked_stopBatching, found]
  refine .inr ⟨_, rfl, (settled.apart own).change beside (fun _ _ trip => absurd trip other) fun _ _ => rfl, valid,
    (settled.same _).trans counts, ?_, SortedMap.notMem_erase_self, other⟩
  rw [exists_counts_of_not gone, ← counts]
  exact settled.full.trans (beside.symm.exists_counts_iff own)

/-- A trip that is stopped alone waits for the answer to its stop; one that is stopped among others starts again. -/
theorem pending_stopTripBatchingMultiplex (settled : Settled owner a live)
    (saved : ⟨client, sessionId⟩ ∈ a.mBatchingSessions) (trip : sessionId ∈ a.mTripSessions) {restartNeeded : Bool}
    (valid : restartNeeded = true → options.batchingMode ≠ .invalid)
    (may : restartNeeded = true ∨ a.mTripSessions.size = 1) :
    let stop := stopTripBatchingMultiplex client sessionId restartNeeded options
    Pending owner (stop.next a) (hear none stop a live) (asked stop a) := by
  intro stop
  have own := settled.owned _ saved
  by_cases one : a.mTripSessions.size = 1
  · simp only [stop, stopTripBatchingMultiplex, Emit.next_get_bind, hear_get_bind, asked_get_bind, if_pos one]
    exact .inr ⟨_, rfl, settled, valid, saved, trip, one⟩
  · obtain rfl := may.resolve_right one
    obtain ⟨other, another, different⟩ : ∃ id ∈ a.mTripSessions, id ≠ sessionId := by
      by_contra only
      refine one ((SortedMap.isEmpty_erase_iff trip).mp (SortedMap.isEmpty_iff.mpr fun id member => only ?_))
      obtain ⟨different, member⟩ := SortedMap.mem_erase.mp member
      exact ⟨id, member, different⟩
    simp only [stop, stopTripBatchingMultiplex, Emit.next_get_bind, hear_get_bind, asked_get_bind, if_neg one]
    refine pending_stopTripBatchingMultiplexCommon (settled.apart own) trip (valid rfl)
      (settled.full.mpr ⟨_, counts_of_trip own trip⟩) (.inr ⟨⟨owner other, other⟩, ?_, counts_of_trip rfl another⟩)
    rintro ⟨⟩
    exact different rfl

theorem pending_command (settled : Settled owner a live) (command : BatchingCommand Client)
    (issued : ∀ client id options, command = .start client id options →
      client = owner id ∧ ⟨client, id⟩ ∉ a.mBatchingSessions ∧ id ∉ a.mTripSessions)
    (may : ∀ client id, command = .stop client id → a.engineCapabilitiesKnown = true →
      ⟨client, id⟩ ∈ a.mBatchingSessions → id ∉ a.mTripSessions ∨ a.mTripSessions.size = 1) :
    Pending owner (command.proc.next a) (hear none command.proc a live) (asked command.proc a) := by
  rw [BatchingCommand.proc, Emit.next_get_bind, hear_get_bind, asked_get_bind, Emit.next_ite, hear_ite, asked_ite]
  split_ifs with unknown
  · exact .inl ⟨rfl, ⟨settled.same, settled.full, settled.owned, settled.trips⟩⟩
  · have known : a.engineCapabilitiesKnown = true := by simpa using unknown
    cases command with
    | start client sessionId options =>
      obtain ⟨own, unsaved, untried⟩ := issued _ _ _ rfl
      simp only [Emit.next_ite, Emit.next_pure, hear_ite, hear_pure, asked_ite, asked_pure]
      split_ifs with accepted invalid
      · have silent : hear none (reportResponse client .invalidParameter sessionId) a live = live := by simp
        rw [silent]
        exact .inl ⟨rfl, settled⟩
      · rw [hear_startSession]
        exact pending_startSession (settled.apart own)
          (fun wants => not_counts owner unsaved untried ((settled.same _).mp wants))
          unsaved untried invalid settled.full.mpr fun registered => .inr (settled.full.mp registered)
      · exact .inl ⟨rfl, settled⟩
    | update client sessionId options =>
      simp only [Emit.next_ite, Emit.next_pure, hear_ite, hear_pure, asked_ite, asked_pure]
      split_ifs with present other
      · rw [Bool.not_eq_true', SortedMap.contains_eq_false_iff] at other
        rw [hear_stopBatching]
        exact pending_stopBatching settled (SortedMap.contains_iff.mp present.1) other fun _ => present.2.2
      · rw [Bool.not_eq_true', SortedMap.contains_eq_false_iff, not_not] at other
        exact pending_stopTripBatchingMultiplex settled (SortedMap.contains_iff.mp present.1) other
          (fun _ => present.2.2) (.inl rfl)
      · exact .inl ⟨rfl, settled⟩
    | stop client sessionId =>
      simp only [Emit.next_ite, Emit.next_pure, hear_ite, hear_pure, asked_ite, asked_pure]
      split_ifs with present trip
      · rw [SortedMap.contains_iff] at present trip
        exact pending_stopTripBatchingMultiplex settled present trip (absurd · Bool.false_ne_true)
          (.inr ((may _ _ rfl known present).resolve_left (not_not.mpr trip)))
      · rw [hear_stopBatching]
        exact pending_stopBatching settled (SortedMap.contains_iff.mp present)
          (fun member => trip (SortedMap.contains_iff.mpr member)) (absurd · Bool.false_ne_true)
      · exact .inl ⟨rfl, settled⟩

/-- A report that completes no trip that is saved among the sessions. -/
theorem settled_reportCompletedTripsEvent (settled : Settled owner a live) {distance : ℕ}
    (may : ∀ key ∈ a.mBatchingSessions, ∀ trip, a.mTripSessions.find? key.id = some trip →
    trip.report distance ≠ none) :
    Settled owner ((reportCompletedTripsEvent distance).next a)
    (hear none (reportCompletedTripsEvent distance) a live) := by
  obtain ⟨sessions, trips, full⟩ := reportCompletedTripsEvent_spec (a := a) distance
  set after := (reportCompletedTripsEvent distance).next a
  have trips (id : UInt32) : id ∈ after.mTripSessions ↔
      ∃ trip, a.mTripSessions.find? id = some trip ∧ trip.report distance ≠ none := by
    rw [SortedMap.mem_iff_find?, trips]
    cases a.mTripSessions.find? id with
    | none => simp
    | some trip => simp [Option.ne_none_iff_exists']
  have stays (key : LocationSessionKey Client) (counts : after.Counts owner key) : a.Counts owner key := by
    rcases counts with ⟨options, found, interested⟩ | ⟨own, member⟩
    · exact .inl ⟨options, sessions ▸ found, interested⟩
    · obtain ⟨trip, found, -⟩ := (trips _).mp member
      exact .inr ⟨own, SortedMap.mem_iff_find?.mpr ⟨trip, found⟩⟩
  have goesOn (key : LocationSessionKey Client)
      (goes : ¬ ∃ trip, a.mTripSessions.find? key.id = some trip ∧ trip.report distance = none)
      (counts : a.Counts owner key) : after.Counts owner key := by
    rcases counts with ⟨options, found, interested⟩ | ⟨own, member⟩
    · exact .inl ⟨options, sessions ▸ found, interested⟩
    · obtain ⟨trip, found⟩ := SortedMap.mem_iff_find?.mp member
      exact .inr ⟨own, (trips _).mpr ⟨trip, found, fun ends => goes ⟨trip, found, ends⟩⟩⟩
  refine ⟨fun key => ?_, ?_, sessions ▸ settled.owned, fun key options found member => ?_⟩
  · rw [Wants, hear_reportCompletedTripsEvent]
    by_cases completes : ∃ trip, a.mTripSessions.find? key.id = some trip ∧ trip.report distance = none
    · obtain ⟨trip, found, ends⟩ := completes
      rw [if_pos ⟨trip, found, ends⟩]
      refine iff_of_false (by rintro ⟨_, ⟨⟩, _⟩) ?_
      rintro (⟨options, saved, -⟩ | ⟨-, member⟩)
      · exact may key (SortedMap.mem_iff_find?.mpr ⟨options, sessions ▸ saved⟩) trip found ends
      · obtain ⟨other, here, goes⟩ := (trips _).mp member
        cases found.symm.trans here
        exact goes ends
    · rw [if_neg completes]
      exact ⟨fun wants => goesOn key completes ((settled.same key).mp wants), fun counts =>
        (settled.same key).mpr (stays key counts)⟩
  · rw [full, settled.full, ← count_ne_zero_iff owner (a := after)]
    constructor
    · rintro ⟨⟨key, counts⟩, left⟩ none
      refine left ⟨?_, none⟩
      by_contra calm
      refine (count_eq_zero_iff owner).mp none key (goesOn key ?_ counts)
      rintro ⟨trip, found, ends⟩
      exact calm ⟨_, trip, found, ends⟩
    · intro some
      exact ⟨((count_ne_zero_iff owner).mp some).imp stays, fun both => some both.2⟩
  · obtain ⟨trip, known, -⟩ := (trips _).mp member
    exact settled.trips key options (sessions ▸ found) (SortedMap.mem_iff_find?.mpr ⟨trip, known⟩)

theorem settled_handleEngineUpEvent (settled : Settled owner a live) :
    Settled owner (handleEngineUpEvent.next a) (hear none handleEngineUpEvent a live) := by
  have hears : hear none handleEngineUpEvent a live = live := by
    simp [handleEngineUpEvent, hear_restartSessions]
  have registers : (if 0 < a.autoReportBatchingSessionsCount then true else a.batchFull) = a.batchFull := by
    split_ifs with some
    · exact (settled.full.mpr ((count_ne_zero_iff owner).mp some.ne')).symm
    · rfl
  have still : Still a (handleEngineUpEvent.next a) := by
    rw [handleEngineUpEvent, Emit.next_bind, Emit.next_bind, Emit.next_modify, next_restartSessions, next_restartTrips]
    split_ifs
    · exact ⟨rfl, registers, fun _ => Iff.rfl, rfl⟩
    · exact ⟨rfl, registers, fun _ => Iff.rfl, rfl⟩
  rw [hears]
  exact still.settled settled

end Asked

/-- The adapter and its modem beside what the clients know. -/
structure HeardSession (Client : Type) [LinearOrder Client] where
  session : BatchingSession Client
  live : LocationSessionKey Client → Option BatchingMode

namespace HeardSession

variable {Client : Type} [LinearOrder Client] {owner : UInt32 → Client} {h : HeardSession Client}

/-- Nothing asked and nothing told yet. -/
def start (adapter : BatchingAdapter Client) : HeardSession Client := ⟨.start adapter, fun _ => none⟩

/-- The mode that a session has when what an event answers is told. -/
def starts (h : HeardSession Client) : BatchingEvent Client → Option BatchingMode
  | .answer index _ _ => h.session.outstanding[index]?.bind fun awaited => awaited.2.starts
  | _ => none

/-- The clients hear what the adapter emits. -/
def step (h : HeardSession Client) (e : BatchingEvent Client) : HeardSession Client where
  session := h.session.step e
  live := ((h.session.step e).log.drop h.session.log.length).foldl (note (h.starts e)) h.live

/-- With nothing outstanding the event for full batches is enabled exactly when a live session is interested in it. -/
def Follows (h : HeardSession Client) : Prop :=
  h.session.outstanding = [] →
    (h.session.adapter.batchFull = true ↔ ∃ key mode, h.live key = some mode ∧ mode ≠ .noAutoReport)

/-- What is not an answer comes when nothing is outstanding; a start comes with a new identifier of its client. -/
def Orderly (owner : UInt32 → Client) (h : HeardSession Client) : BatchingEvent Client → Prop
  | .command (.start client sessionId _) => h.session.outstanding = [] ∧ client = owner sessionId ∧
    ⟨client, sessionId⟩ ∉ h.session.adapter.mBatchingSessions ∧ sessionId ∉ h.session.adapter.mTripSessions
  | .answer .. => True
  | _ => h.session.outstanding = []

/-- The condition on an answer: a session that fails to stop is saved with its interest in full batches; a trip joins
the others just if its client is told so; the only trip is stopped if its stop fails, or it succeeds and then it, or
another session, is interested in full batches. -/
def MayTell (a : BatchingAdapter Client) (err : LocationError) : BatchingResponse Client → Prop
  | .stopped _ _ flpOptions _ options => err ≠ .success →
    (options.batchingMode = .noAutoReport ↔ flpOptions.batchingMode = .noAutoReport)
  | .queriedForStart _ _ options => err ≠ .success → a.distanceWith options a.mOngoingTripDistance ≠ none
  | .tripRestarted _ sessionId => err = .success ↔ sessionId ∈ a.mTripSessions
  | .tripStopped client sessionId restartNeeded options =>
    if restartNeeded = true then err = .success ∧ (options.batchingMode ≠ .noAutoReport ∨
      ∃ other ≠ ⟨client, sessionId⟩, ∃ saved, a.mBatchingSessions.find? other = some saved ∧
        saved.batchingMode ≠ .noAutoReport)
    else err ≠ .success
  | _ => True

/-- The condition on a step: no trip is stopped at once or completed that is saved among the sessions, and an answer
meets its condition. -/
def MayStep (h : HeardSession Client) : BatchingEvent Client → Prop
  | .command (.stop client sessionId) => h.session.adapter.engineCapabilitiesKnown = true →
    ⟨client, sessionId⟩ ∈ h.session.adapter.mBatchingSessions →
    sessionId ∉ h.session.adapter.mTripSessions ∨ h.session.adapter.mTripSessions.size = 1
  | .reportCompletedTrips accumulatedDistance => ∀ key ∈ h.session.adapter.mBatchingSessions, ∀ trip,
    h.session.adapter.mTripSessions.find? key.id = some trip → trip.report accumulatedDistance ≠ none
  | .answer index err _ => ∀ sent response, h.session.outstanding[index]? = some (sent, response) →
    MayTell h.session.adapter err response
  | _ => True

theorem live_after {s : BatchingSession Client} {p : BatchingM Client Unit} {starts : Option BatchingMode}
    {live : LocationSessionKey Client → Option BatchingMode} :
    ((s.after p).log.drop s.log.length).foldl (note starts) live = hear starts p s.adapter live := by
  rw [BatchingSession.after, List.drop_left, hear]

/-- What is known while nothing, or one session, waits. -/
def Sound (owner : UInt32 → Client) (h : HeardSession Client) : Prop :=
  Pending owner h.session.adapter h.live h.session.outstanding

theorem follows_of_sound (sound : h.Sound owner) : h.Follows := by
  intro quiet
  rcases sound with ⟨-, settled⟩ | ⟨awaited, waits, -⟩
  · rw [settled.full]
    exact exists_congr fun key => (settled.same key).symm
  · rw [quiet] at waits
    cases waits

theorem settled_of_sound (sound : h.Sound owner) (quiet : h.session.outstanding = []) :
    Settled owner h.session.adapter h.live := by
  rcases sound with ⟨-, settled⟩ | ⟨awaited, waits, -⟩
  · exact settled
  · rw [quiet] at waits
    cases waits

/-- A program that runs while nothing is outstanding. -/
theorem sound_after (quiet : h.session.outstanding = []) {p : BatchingM Client Unit}
    (pending : Pending owner (p.next h.session.adapter) (hear none p h.session.adapter h.live)
      (asked p h.session.adapter)) :
    Pending owner (h.session.after p).adapter
      (((h.session.after p).log.drop h.session.log.length).foldl (note none) h.live)
      (h.session.after p).outstanding := by
  rw [live_after, BatchingSession.after, quiet]
  exact pending

theorem pending_proc {a : BatchingAdapter Client} {live : LocationSessionKey Client → Option BatchingMode}
    {response : BatchingResponse Client} {err : LocationError} {data : LocApiBatchData}
    (waits : Waiting owner a live response) (may : MayTell a err response) :
    Pending owner ((response.proc err data).next a) (hear response.starts (response.proc err data) a live)
      (asked (response.proc err data) a) := by
  cases response with
  | started => exact pending_started waits
  | stopped => exact pending_stopped waits may
  | tripStarted => exact pending_tripStarted waits
  | queriedForStart => exact pending_queriedForStart waits may
  | tripRestarted => exact pending_tripRestarted waits may
  | tripStopped client sessionId restartNeeded options =>
    refine pending_tripStopped waits ?_
    rw [MayTell] at may
    split_ifs at may ⊢
    · refine ⟨may.1, may.2.imp_right ?_⟩
      rintro ⟨other, different, saved, found, interested⟩
      exact ⟨other, different, .inl ⟨saved, found, interested⟩⟩
    · exact may
  | queriedForRestart | rebased | tripsRestarted | ignore => cases waits

theorem sound_step (sound : h.Sound owner) (e : BatchingEvent Client) (orderly : h.Orderly owner e)
    (may : h.MayStep e) :
    (h.step e).Sound owner := by
  cases e with
  | command command =>
    have quiet : h.session.outstanding = [] := by
      cases command with
      | start => exact orderly.1
      | update | stop => exact orderly
    refine sound_after quiet (pending_command (settled_of_sound sound quiet) command ?_ ?_)
    · rintro client sessionId options rfl
      exact orderly.2
    · rintro client sessionId rfl
      exact may
  | reportCompletedTrips distance =>
    refine sound_after orderly (.inl ⟨?_, settled_reportCompletedTripsEvent (settled_of_sound sound orderly) may⟩)
    exact keyed_eq_nil fun _ _ member => (continues_reportCompletedTripsEvent member).2.elim id id
  | handleEngineUpEvent =>
    refine sound_after orderly (.inl ⟨?_, settled_handleEngineUpEvent (settled_of_sound sound orderly)⟩)
    exact keyed_eq_nil fun _ _ member => (continues_handleEngineUpEvent member).2.elim id id
  | answer index err data =>
    rw [Sound, step, starts, BatchingSession.step]
    cases place : h.session.outstanding[index]? with
    | none =>
      rw [List.drop_length]
      exact sound
    | some awaited =>
      obtain ⟨sent, response⟩ := awaited
      obtain ⟨before, later, waited, left⟩ := keyed_eraseIdx place
      let rest : BatchingSession Client := { h.session with outstanding := h.session.outstanding.eraseIdx index }
      have heard : ((rest.after (response.proc err data)).log.drop rest.log.length).foldl (note response.starts)
        h.live =
          hear response.starts (response.proc err data) h.session.adapter h.live := live_after
      show Pending owner ((response.proc err data).next h.session.adapter)
        (((rest.after (response.proc err data)).log.drop rest.log.length).foldl (note response.starts) h.live)
        (h.session.outstanding.eraseIdx index ++ asked (response.proc err data) h.session.adapter)
      rw [heard, Pending, keyed_append, left]
      cases about : response.key with
      | none =>
        obtain ⟨still, silent, unkeyed⟩ := still_of_unkeyed (a := h.session.adapter) h.live err data about
        have same : keyed [(sent, response)] = [] := by simp [keyed, about]
        rw [same, List.append_nil] at waited
        rw [unkeyed, List.append_nil, silent, ← waited]
        rcases sound with ⟨none, settled⟩ | ⟨awaited, one, waits⟩
        · exact .inl ⟨none, still.settled settled⟩
        · exact .inr ⟨awaited, one, still.waiting waits⟩
      | some key =>
        have same : keyed [(sent, response)] = [(sent, response)] := by simp [keyed, about]
        rw [same] at waited
        rcases sound with ⟨none, -⟩ | ⟨awaited, one, waits⟩
        · rw [waited] at none
          simp at none
        · obtain ⟨rfl, rfl, rfl⟩ : before = [] ∧ awaited = (sent, response) ∧ later = [] := by
            rw [waited, List.append_assoc, List.singleton_append] at one
            cases before with
            | nil => simpa [eq_comm] using one
            | cons => simp at one
          exact pending_proc waits (may _ _ place)

/-- In every orderly run whose steps meet the condition the event for full batches follows the live sessions. -/
theorem follows_throughout_of_mayStep (owner : UInt32 → Client) (batchingCb responseCb : Client → Bool)
    (supported known : Bool) (timeout accuracy : ℕ) (events : List (BatchingEvent Client)) :
    let initial := start (BatchingAdapter.initial batchingCb responseCb supported known timeout accuracy)
    EachStep step (Orderly owner) initial events → EachStep step MayStep initial events →
      Throughout step Follows initial events := by
  intro initial orderly may
  have empty : initial.Sound owner := by
    refine .inl ⟨rfl, fun key => ?_, ?_, ?_, ?_⟩
    · refine iff_of_false (by rintro ⟨_, ⟨⟩, _⟩) (not_counts owner SortedMap.not_mem_empty SortedMap.not_mem_empty)
    · refine iff_of_false Bool.false_ne_true ?_
      rintro ⟨key, counts⟩
      exact not_counts owner SortedMap.not_mem_empty SortedMap.not_mem_empty counts
    · exact fun key member => absurd member SortedMap.not_mem_empty
    · exact fun key options found => by cases found
  have sound : Throughout step (Sound owner) initial events :=
    throughout_of_eachStep (C := fun h e => h.Orderly owner e ∧ h.MayStep e) empty
      (fun h e sound met => sound_step sound e met.1 met.2) fun done e reached =>
        ⟨orderly done e reached, may done e reached⟩
  exact fun done reached => follows_of_sound (sound done reached)

section Trip

/-- A trip that goes on. -/
def goesOn : List (BatchingEvent ℕ) := [.command (.start 0 1 (.ofTrip 100 10)), .answer 0 .success ⟨0, 0⟩]

/-- A trip that is stopped. -/
def stops : List (BatchingEvent ℕ) := goesOn ++ [.command (.stop 0 1), .answer 0 .success ⟨0, 0⟩]

theorem orderly_stops : EachStep step (Orderly fun _ => 0) (start .fresh) stops := by
  refine eachStep_cons ⟨rfl, rfl, SortedMap.not_mem_empty, SortedMap.not_mem_empty⟩ (eachStep_cons trivial ?_)
  exact eachStep_cons rfl (eachStep_cons trivial eachStep_nil)

theorem follows_throughout_of_mayStep_goesOn : Throughout step Follows (start .fresh) goesOn := by
  refine follows_throughout_of_mayStep (fun _ => 0) _ _ _ _ _ _ _ ?_ ?_
  · exact fun done e reached => orderly_stops done e (reached.trans (List.prefix_append goesOn _))
  · refine eachStep_cons trivial (eachStep_cons ?_ eachStep_nil)
    rintro sent response ⟨⟩
    trivial

/-- The event for full batches stays enabled when the only session, a trip, is stopped. -/
theorem stopped_trip_stays_registered : ¬ ∀ events : List (BatchingEvent ℕ),
    EachStep step (Orderly fun _ => 0) (start .fresh) events → Throughout step Follows (start .fresh) events := by
  intro always
  have registered : (stops.foldl step (start .fresh)).session.adapter.batchFull = true := by decide
  obtain ⟨key, mode, isLive, -⟩ := (always _ orderly_stops _ List.prefix_rfl (by decide)).mp registered
  have none : told (told (fun _ => none) ⟨0, 1⟩ (some .trip)) ⟨0, 1⟩ none key = some mode := isLive
  rw [told, told] at none
  split_ifs at none

end Trip

end HeardSession

end Cypfr.Batching
