import Cypfr.Machine.Run
import Cypfr.Proofs.BatchingTables

/-! # The tables of batching over a run

Whenever nothing is outstanding the trips are the sessions with their mode, and none is looked up that is not there,
as long as no trip joins another, none is stopped or completed, and no start or stop fails over a session that is, or
would be, a trip.
-/

namespace Cypfr.Batching

open Machine Tracking

section Kept

variable {Client : Type} [LinearOrder Client] {owner : UInt32 → Client} {a : BatchingAdapter Client} {client : Client}
  {sessionId : UInt32} {options : BatchingOptions}

/-- The trips are the sessions with their mode, each of its owner. -/
structure BatchingAdapter.Tables (owner : UInt32 → Client) (a : BatchingAdapter Client) : Prop where
  agree : Agree a.mBatchingSessions a.mTripSessions
  owned : Owned owner a.mBatchingSessions

theorem tables_startSession (tables : a.Tables owner) (own : client = owner sessionId)
    (mode : options.batchingMode ≠ .trip → sessionId ∉ a.mTripSessions) :
    ((startSession client sessionId options).next a).Tables owner := by
  rw [startSession]
  cases batchingMode : options.batchingMode with
  | routine | noAutoReport =>
    have different : options.batchingMode ≠ .trip := by simp [batchingMode]
    simp only [next_startBatching]
    exact ⟨agree_save tables.agree (iff_of_false different (mode different)), owned_insert tables.owned own⟩
  | trip =>
    simp only [next_startTripBatchingMultiplex]
    by_cases first : a.mTripSessions.size = 0
    · rw [if_pos first]
      exact ⟨agree_save_trip tables.agree batchingMode, owned_insert tables.owned own⟩
    · rw [if_neg first]
      exact tables
  | invalid => exact tables

/-- A trip that is stopped to be started again. -/
theorem tables_stopTripBatchingMultiplexCommon (tables : a.Tables owner) (own : client = owner sessionId)
    (err : LocationError) (known : sessionId ∈ a.mTripSessions) :
    ((stopTripBatchingMultiplexCommon err client sessionId true options).next a).Tables owner := by
  obtain ⟨trip, found⟩ := SortedMap.mem_iff_find?.mp known
  rw [next_stopTripBatchingMultiplexCommon _ _ _ _ _ found, if_pos rfl]
  refine tables_startSession ⟨?_, owned_erase tables.owned⟩ own fun _ member => ?_
  · exact agree_erase_both tables.agree tables.owned own
  · exact (SortedMap.mem_erase.mp member).1 rfl

/-- A session that is no trip is erased. -/
theorem tables_stopBatching (tables : a.Tables owner) (other : sessionId ∉ a.mTripSessions) (restartNeeded : Bool) :
    ((stopBatching client sessionId restartNeeded options).next a).Tables owner := by
  rw [next_stopBatching]
  refine ⟨agree_erase tables.agree fun saved found isTrip => other ?_, owned_erase tables.owned⟩
  exact (tables.agree sessionId).mpr ⟨_, saved, found, rfl, isTrip⟩

theorem tables_command (tables : a.Tables owner) (command : BatchingCommand Client)
    (issued : ∀ client id options, command = .start client id options → client = owner id ∧ id ∉ a.mTripSessions)
    (may : ∀ client id, command = .stop client id → a.engineCapabilitiesKnown = true →
      ⟨client, id⟩ ∈ a.mBatchingSessions → id ∉ a.mTripSessions ∨ a.mTripSessions.size = 1) :
    (command.proc.next a).Tables owner := by
  rw [BatchingCommand.proc, Emit.next_get_bind, Emit.next_ite]
  split_ifs with unknown
  · exact ⟨tables.agree, tables.owned⟩
  · have known : a.engineCapabilitiesKnown = true := by simpa using unknown
    cases command with
    | start client sessionId options =>
      obtain ⟨own, new⟩ := issued _ _ _ rfl
      simp only [Emit.next_ite, Emit.next_pure]
      split_ifs
      · exact tables
      · exact tables_startSession tables own fun _ => new
      · exact tables
    | update client sessionId options =>
      simp only [Emit.next_ite, Emit.next_pure]
      split_ifs with present other
      · rw [Bool.not_eq_true', SortedMap.contains_eq_false_iff] at other
        exact tables_stopBatching tables other true
      · rw [Bool.not_eq_true', SortedMap.contains_eq_false_iff, not_not] at other
        rw [stopTripBatchingMultiplex, Emit.next_get_bind, Emit.next_ite]
        split_ifs
        · exact tables
        · exact tables_stopTripBatchingMultiplexCommon tables
            (tables.owned _ (SortedMap.contains_iff.mp present.1)) _ other
      · exact tables
    | stop client sessionId =>
      simp only [Emit.next_ite, Emit.next_pure]
      split_ifs with present trip
      · have one := (may _ _ rfl known (SortedMap.contains_iff.mp present)).resolve_left
          (not_not.mpr (SortedMap.contains_iff.mp trip))
        rw [stopTripBatchingMultiplex, Emit.next_get_bind, Emit.next_ite, if_pos one]
        exact tables
      · exact tables_stopBatching tables (fun member => trip (SortedMap.contains_iff.mpr member)) false
      · exact tables

/-- A report that completes no trip leaves the trips there are. -/
theorem tables_reportCompletedTripsEvent (tables : a.Tables owner) {distance : ℕ} (goOn : ¬ a.Completes distance) :
    ((reportCompletedTripsEvent distance).next a).Tables owner := by
  obtain ⟨sessions, trips, -⟩ := reportCompletedTripsEvent_spec (a := a) distance
  refine ⟨?_, sessions ▸ tables.owned⟩
  rw [sessions]
  refine agree_of_mem_iff tables.agree fun id => ?_
  rw [SortedMap.mem_iff_find?, SortedMap.mem_iff_find?, trips]
  cases found : a.mTripSessions.find? id with
  | none => simp
  | some trip =>
    have goesOn : trip.report distance ≠ none := fun ends => goOn ⟨id, trip, found, ends⟩
    simpa using Option.ne_none_iff_exists'.mp goesOn

theorem tables_handleEngineUpEvent (tables : a.Tables owner) : (handleEngineUpEvent.next a).Tables owner := by
  rw [handleEngineUpEvent, Emit.next_bind, Emit.next_bind, Emit.next_modify, next_restartSessions, next_restartTrips]
  split_ifs
  · exact ⟨tables.agree, tables.owned⟩
  · exact ⟨tables.agree, tables.owned⟩

/-- The condition on an answer, for what is done then: a session that fails to start is no trip, a session that fails to
stop or is to start again is a trip just if it is to be one, no trip joins the others, and a trip has stopped only to
start again. -/
def BatchingAdapter.MayAnswer (a : BatchingAdapter Client) (err : LocationError) : BatchingResponse Client → Prop
  | .started client sessionId _ => err ≠ .success → ∀ options,
    a.mBatchingSessions.find? ⟨client, sessionId⟩ = some options → options.batchingMode ≠ .trip
  | .stopped _ sessionId _ restartNeeded options =>
    if err = .success then restartNeeded = true → options.batchingMode ≠ .trip → sessionId ∉ a.mTripSessions
    else options.batchingMode = .trip ↔ sessionId ∈ a.mTripSessions
  | .queriedForStart .. => err ≠ .success
  | .tripStopped _ sessionId restartNeeded _ => restartNeeded = true ∧ sessionId ∈ a.mTripSessions
  | _ => True

theorem tables_proc (tables : a.Tables owner) {response : BatchingResponse Client} {err : LocationError}
    {data : LocApiBatchData} (own : ∀ key, response.key = some key → key.client = owner key.id)
    (may : a.MayAnswer err response) : ((response.proc err data).next a).Tables owner := by
  cases response with
  | started client sessionId options =>
    rw [next_started]
    split_ifs with success
    · exact tables
    · exact ⟨agree_erase tables.agree (may success), owned_erase tables.owned⟩
  | stopped client sessionId flpOptions restartNeeded options =>
    have left : (a.left flpOptions.batchingMode).Tables owner := ⟨tables.agree, tables.owned⟩
    rw [BatchingAdapter.MayAnswer] at may
    rw [next_stopped]
    by_cases success : err = .success
    · rw [if_pos success] at may ⊢
      split_ifs with again
      · exact tables_startSession left (own _ rfl) (may again)
      · exact left
    · rw [if_neg success] at may ⊢
      exact ⟨agree_save tables.agree may, owned_insert tables.owned (own _ rfl)⟩
  | tripStarted client sessionId options =>
    rw [next_tripStarted]
    split_ifs
    · exact ⟨tables.agree, tables.owned⟩
    · exact ⟨agree_erase_both tables.agree tables.owned (own _ rfl), owned_erase tables.owned⟩
  | queriedForStart client sessionId options =>
    rw [BatchingResponse.proc, next_joinTripBatch, BatchingAdapter.savedTrips, if_neg may]
    cases a.distanceWith options ((saveTrip sessionId options err data).result a) with
    | none => exact ⟨tables.agree, tables.owned⟩
    | some distance => exact ⟨agree_of_mem_iff tables.agree fun _ => SortedMap.mem_mapValues, tables.owned⟩
  | tripStopped client sessionId restartNeeded options =>
    obtain ⟨rfl, known⟩ := may
    rw [next_tripStopped]
    refine tables_stopTripBatchingMultiplexCommon ?_ (own _ rfl) err known
    exact ⟨tables.agree, tables.owned⟩
  | queriedForRestart =>
    rw [BatchingResponse.proc, next_restartWithDistance]
    exact tables
  | rebased =>
    rw [next_rebased]
    split_ifs
    · exact ⟨agree_of_mem_iff tables.agree fun _ => SortedMap.mem_mapValues, tables.owned⟩
    · exact tables
  | tripsRestarted =>
    rw [BatchingResponse.proc, Emit.next_ite, next_setOngoingTrip]
    split_ifs
    · exact ⟨tables.agree, tables.owned⟩
    · exact tables
  | tripRestarted | ignore => exact tables

/-- A command asks for a session that is known or that it starts. -/
theorem key_command {command : BatchingCommand Client} {sent : BatchingRequest} {response : BatchingResponse Client}
    {key : LocationSessionKey Client} (member : (sent, response) ∈ asked command.proc a)
    (about : response.key = some key) :
    key ∈ a.mBatchingSessions ∨ ∃ options, command = .start key.client key.id options := by
  have named {client : Client} {id : UInt32} (asks : response.key = none ∨ response.key = some ⟨client, id⟩) :
      ⟨client, id⟩ = key := by
    rcases asks with unnamed | named
    · cases unnamed.symm.trans about
    · exact Option.some.inj (named.symm.trans about)
  rw [BatchingCommand.proc, asked_get_bind, asked_ite] at member
  split_ifs at member
  · cases member
  cases command with
  | start client sessionId options =>
    simp only [asked_ite, asked_pure] at member
    split_ifs at member
    · rw [asked_reportResponse] at member
      cases member
    · rw [← named (continues_startSession member).2]
      exact .inr ⟨options, rfl⟩
    · cases member
  | update client sessionId options =>
    simp only [asked_ite, asked_pure] at member
    split_ifs at member with present
    · rw [← named (.inr (key_stopBatching member))]
      exact .inl (SortedMap.contains_iff.mp present.1)
    · rw [← named (key_stopTripBatchingMultiplex member)]
      exact .inl (SortedMap.contains_iff.mp present.1)
    · cases member
  | stop client sessionId =>
    simp only [asked_ite, asked_pure] at member
    split_ifs at member with present
    · rw [← named (key_stopTripBatchingMultiplex member)]
      exact .inl (SortedMap.contains_iff.mp present)
    · rw [← named (.inr (key_stopBatching member))]
      exact .inl (SortedMap.contains_iff.mp present)
    · cases member

end Kept

namespace BatchingSession

section Runs

variable {Client : Type} [LinearOrder Client] {owner : UInt32 → Client} {s : BatchingSession Client}

/-- No session was looked up that is not there, and with nothing outstanding the trips are the sessions with their
mode. -/
def Agreed (s : BatchingSession Client) : Prop :=
  .missed ∉ s.log ∧ (s.outstanding = [] → Agree s.adapter.mBatchingSessions s.adapter.mTripSessions)

/-- A start comes with an identifier of its client that no trip has. -/
def Issued (owner : UInt32 → Client) (s : BatchingSession Client) : BatchingEvent Client → Prop
  | .command (.start client sessionId _) => client = owner sessionId ∧ sessionId ∉ s.adapter.mTripSessions
  | _ => True

/-- The condition on a step: no trip is stopped at once or completed, and an answer meets its condition. -/
def MayStep (s : BatchingSession Client) : BatchingEvent Client → Prop
  | .command (.stop client sessionId) => s.adapter.engineCapabilitiesKnown = true →
    ⟨client, sessionId⟩ ∈ s.adapter.mBatchingSessions →
    sessionId ∉ s.adapter.mTripSessions ∨ s.adapter.mTripSessions.size = 1
  | .reportCompletedTrips accumulatedDistance => ¬ s.adapter.Completes accumulatedDistance
  | .answer index err _ => ∀ sent response, s.outstanding[index]? = some (sent, response) →
    s.adapter.MayAnswer err response
  | _ => True

/-- The tables agree, no session was missed, and what is outstanding is about sessions of their owners. -/
structure Sound (owner : UInt32 → Client) (s : BatchingSession Client) : Prop where
  tables : s.adapter.Tables owner
  found : .missed ∉ s.log
  own : ∀ sent response, (sent, response) ∈ s.outstanding → ∀ key, response.key = some key → key.client = owner key.id

theorem sound_after (sound : s.Sound owner) {p : BatchingM Client Unit} (tables : (p.next s.adapter).Tables owner)
    (finds : ¬ Misses p s.adapter) (own : ∀ sent response, (sent, response) ∈ asked p s.adapter →
      ∀ key, response.key = some key → key.client = owner key.id) : (s.after p).Sound owner where
  tables := tables
  found := fun member => (List.mem_append.mp member).elim sound.found finds
  own := fun sent response member => (List.mem_append.mp member).elim (sound.own sent response) (own sent response)

theorem sound_step (sound : s.Sound owner) (e : BatchingEvent Client) (issued : s.Issued owner e) (may : s.MayStep e) :
    (s.step e).Sound owner := by
  cases e with
  | command command =>
    refine sound_after sound (tables_command sound.tables command ?_ ?_) (misses_command command) ?_
    · rintro client sessionId options rfl
      exact issued
    · rintro client sessionId rfl
      exact may
    · intro sent response member key about
      rcases key_command member about with known | ⟨options, rfl⟩
      · exact sound.tables.owned key known
      · exact issued.1
  | reportCompletedTrips distance =>
    refine sound_after sound (tables_reportCompletedTripsEvent sound.tables may) (misses_reportCompletedTripsEvent _) ?_
    intro sent response member key about
    have unnamed : response.key = none := (continues_reportCompletedTripsEvent member).2.elim id id
    cases unnamed.symm.trans about
  | handleEngineUpEvent =>
    refine sound_after sound (tables_handleEngineUpEvent sound.tables) misses_handleEngineUpEvent ?_
    intro sent response member key about
    have unnamed : response.key = none := (continues_handleEngineUpEvent member).2.elim id id
    cases unnamed.symm.trans about
  | answer index err data =>
    rw [step]
    cases place : s.outstanding[index]? with
    | none => exact sound
    | some waiting =>
      have own := sound.own waiting.1 waiting.2 (List.mem_of_getElem? place)
      have left : ({ s with outstanding := s.outstanding.eraseIdx index } : BatchingSession Client).Sound owner :=
        ⟨sound.tables, sound.found, fun sent response member =>
          sound.own sent response (List.mem_of_mem_eraseIdx member)⟩
      refine sound_after left (tables_proc sound.tables own (may _ _ place)) (fun misses => ?_) ?_
      · obtain ⟨client, sessionId, restartNeeded, options, same, missing⟩ := misses_proc misses
        have fine := may _ _ place
        rw [same] at fine
        exact missing fine.2
      · intro sent response member key about
        rcases (continues_proc member).2 with unnamed | same
        · cases unnamed.symm.trans about
        · exact own key (same.symm.trans about)

/-- In every run whose starts are issued to their clients and whose steps meet the condition the tables agree. -/
theorem agreed_throughout_of_mayStep (owner : UInt32 → Client) (batchingCb responseCb : Client → Bool)
    (supported known : Bool) (timeout accuracy : ℕ) (events : List (BatchingEvent Client)) :
    let initial := start (BatchingAdapter.initial batchingCb responseCb supported known timeout accuracy)
    EachStep step (Issued owner) initial events → EachStep step MayStep initial events →
      Throughout step Agreed initial events := by
  intro initial issued may
  have empty : initial.Sound owner := by
    refine ⟨⟨fun id => ?_, ?_⟩, List.not_mem_nil, ?_⟩
    · exact iff_of_false SortedMap.not_mem_empty fun ⟨_, _, found, _⟩ => by cases found
    · exact fun key member => absurd member SortedMap.not_mem_empty
    · exact fun sent response member => absurd member List.not_mem_nil
  have sound : Throughout step (Sound owner) initial events :=
    throughout_of_eachStep (C := fun s e => s.Issued owner e ∧ s.MayStep e) empty
      (fun s e sound met => sound_step sound e met.1 met.2) fun done e reached =>
        ⟨issued done e reached, may done e reached⟩
  exact fun done reached => ⟨(sound done reached).found, fun _ => (sound done reached).tables.agree⟩

end Runs

section Trip

/-- A trip that goes on. -/
def goesOn : List (BatchingEvent ℕ) := [.command (.start 0 1 (.ofTrip 100 10)), .answer 0 .success ⟨0, 0⟩]

/-- A trip that is completed while it is stopped. -/
def endsTwice : List (BatchingEvent ℕ) :=
  goesOn ++ [.command (.stop 0 1), .reportCompletedTrips 100, .answer 0 .success ⟨0, 0⟩, .answer 0 .success ⟨0, 0⟩]

theorem issued_endsTwice : EachStep step (Issued fun _ => 0) (start .fresh) endsTwice := by
  refine eachStep_cons ⟨rfl, SortedMap.not_mem_empty⟩ (eachStep_cons trivial (eachStep_cons trivial ?_))
  exact eachStep_cons trivial (eachStep_cons trivial (eachStep_cons trivial eachStep_nil))

theorem agreed_throughout_of_mayStep_goesOn : Throughout step Agreed (start .fresh) goesOn := by
  refine agreed_throughout_of_mayStep (fun _ => 0) _ _ _ _ _ _ _ ?_ ?_
  · exact eachStep_cons ⟨rfl, SortedMap.not_mem_empty⟩ (eachStep_cons trivial eachStep_nil)
  · refine eachStep_cons trivial (eachStep_cons ?_ eachStep_nil)
    rintro sent response ⟨⟩
    trivial

/-- A trip that is completed while it is stopped is looked up when it is gone, and stays among the sessions. -/
theorem completed_trip_is_missed :
    (¬ ∀ events : List (BatchingEvent ℕ), EachStep step (Issued fun _ => 0) (start .fresh) events →
      Throughout step (fun s => s.outstanding = [] → Agree s.adapter.mBatchingSessions s.adapter.mTripSessions) (start .fresh)
        events) ∧
    ¬ ∀ events : List (BatchingEvent ℕ), EachStep step (Issued fun _ => 0) (start .fresh) events →
      Throughout step (fun s => .missed ∉ s.log) (start .fresh) events := by
  constructor
  · intro always
    have gone : (endsTwice.foldl step (start .fresh)).adapter.mTripSessions.contains 1 = false := by decide +kernel
    have stays : (endsTwice.foldl step (start .fresh)).adapter.mBatchingSessions.find? ⟨0, 1⟩ =
      some (.ofTrip 100 10) := by decide +kernel
    have agree := always _ issued_endsTwice _ List.prefix_rfl (by decide +kernel)
    exact SortedMap.contains_eq_false_iff.mp gone ((agree 1).mpr ⟨_, _, stays, rfl, rfl⟩)
  · intro always
    exact always _ issued_endsTwice _ List.prefix_rfl (by decide +kernel)

end Trip

end BatchingSession

end Cypfr.Batching
