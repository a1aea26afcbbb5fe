import Cypfr.Machine.Run
import Cypfr.Proofs.TrackingLog

/-! # Sessions that were promised an engine

Over every run of commands and answers, a session that was answered with success has a running engine whenever no
answer is outstanding, as long as no start fails that time-based sessions rely on and no session is filed as
time-based after the engine was stopped for it.
-/

namespace Cypfr.Tracking

open Machine

variable {Client : Type} [LinearOrder Client]

/-- The last time-based start or stop that the modem accepted is a start. -/
def Session.EngineRuns (s : Session Client) : Prop := lastEngine accepted s.log = some true

/-- The last time-based start or stop that the modem accepted or has still to answer is a start. -/
def Session.StartBehind (s : Session Client) : Prop := lastEngine unfailed s.log = some true

/-- If no answer is outstanding, the engine runs for the time-based sessions that were answered with success. -/
def Session.KeepsPromise (s : Session Client) : Prop := s.outstanding = [] →
  ∀ key origin, key ∈ s.adapter.timeBasedTrackingSessions → ⟨origin, key, .success⟩ ∈ s.reports → s.EngineRuns

/-- There are no time-based sessions without a start behind them. -/
def Session.Supplied (s : Session Client) : Prop := ∀ key, key ∈ s.adapter.timeBasedTrackingSessions → s.StartBehind

/-- A session that is time-based after an answer that fails a start or files a session of an earlier update. -/
def Session.LeftBy (s : Session Client) (err : LocationError) (other : LocationSessionKey Client) :
    LocApiResponse Client → Prop
  | .startTime key => err ≠ .success ∧ other ≠ key ∧ other ∈ s.adapter.timeBasedTrackingSessions
  | .updateTime key options => err ≠ .success ∧
    (other ∈ s.adapter.timeBasedTrackingSessions ∨ other = key ∧ ¬ s.adapter.FilesDistance options)
  | .restartedDistance key options => err = .success ∧
    (other ∈ s.adapter.timeBasedTrackingSessions ∨ other = key ∧ ¬ s.adapter.FilesDistance options)
  | _ => False

/-- The only time-based session becomes distance-based only if the modem supports that, and an answer leaves
time-based sessions only if there still is a start behind them. -/
def Session.BacksStep (s : Session Client) : Event Client → Prop
  | .command (.updateTracking key options) => (Command.updateTracking key options).waits s.adapter = false →
    key ∈ s.adapter.timeBasedTrackingSessions → options.size ≠ 0 → options.minDistance > 0 →
    s.adapter.timeBasedTrackingSessions.size = 1 → s.adapter.distanceSupported = true
  | .answer index err => ∀ waiting, s.outstanding[index]? = some waiting →
    ∀ other, s.LeftBy err other waiting.response → (s.answered index waiting.number err).StartBehind
  | _ => True

section Steps

variable {s : Session Client} {origin : Option (Command Client)} {p : AdapterM Client Unit}

theorem supplied_after_iff : (s.after origin p).Supplied ↔ ∀ key, key ∈ (p.next s.adapter).timeBasedTrackingSessions →
    (lastAsked (p.emitted s.adapter)).or (lastEngine unfailed s.log) = some true := by
  rw [Session.Supplied, Session.adapter_after, Session.StartBehind, lastEngine_after]

/-- A step that files no time-based session and asks nothing of the engine. -/
theorem supplied_kept (fewer : ∀ key, key ∈ (p.next s.adapter).timeBasedTrackingSessions →
      key ∈ s.adapter.timeBasedTrackingSessions) (silent : lastAsked (p.emitted s.adapter) = none)
    (supplied : s.Supplied) : (s.after origin p).Supplied := by
  refine supplied_after_iff.mpr fun key held => ?_
  rw [silent]
  exact supplied key (fewer key held)

/-- A step that asks the engine to run, or nothing beside other sessions. -/
theorem supplied_asks
    (asks : lastAsked (p.emitted s.adapter) = none ∧ (∃ key, key ∈ s.adapter.timeBasedTrackingSessions) ∨
      lastAsked (p.emitted s.adapter) = some true) (supplied : s.Supplied) : (s.after origin p).Supplied := by
  refine supplied_after_iff.mpr fun _ _ => ?_
  rcases asks with ⟨none, key, held⟩ | runs
  · rw [none]
    exact supplied key held
  · rw [runs]
    rfl

/-- The only time-based session stops the engine and leaves none; beside others it leaves a start. -/
theorem stop_supplied {key : LocationSessionKey Client} (held : key ∈ s.adapter.timeBasedTrackingSessions)
    (off : s.adapter.nHzNeeded = false) (supplied : s.Supplied) : (s.after origin (stopTimeBased key)).Supplied := by
  obtain ⟨⟨one, -⟩ | ⟨-, asks⟩, -⟩ := stopTimeBased_asks key off
  · obtain ⟨b, ⟨running, rfl⟩, next⟩ := next_stopTimeBased (a := s.adapter) key
    refine supplied_after_iff.mpr fun other filed => ?_
    rw [next] at filed
    obtain ⟨different, also⟩ := mem_time_erase.mp filed
    exact absurd (SortedMap.eq_of_size_one one also held) different
  · exact supplied_asks (asks.imp_left fun none => ⟨none, key, held⟩) supplied

/-- The only time-based session must become distance-based if it is to. -/
theorem switch_supplied_iff {key : LocationSessionKey Client} {options : TrackingOptions}
    (held : key ∈ s.adapter.timeBasedTrackingSessions) (distance : options.minDistance > 0)
    (off : s.adapter.nHzNeeded = false) (supplied : s.Supplied) :
    (s.after origin (switchToDistance key options)).Supplied ↔
      (s.adapter.timeBasedTrackingSessions.size = 1 → s.adapter.distanceSupported = true) := by
  obtain ⟨b, ⟨running, rfl⟩, next⟩ := next_switchToDistance (a := s.adapter) key options
  have same : lastAsked ((switchToDistance key options).emitted s.adapter) =
      lastAsked ((stopTimeBased key).emitted s.adapter) := by
    rw [emitted_switchToDistance, lastAsked_append]
    rfl
  obtain ⟨⟨one, stops⟩ | ⟨more, asks⟩, -⟩ := stopTimeBased_asks key off
  · rw [supplied_after_iff, next, same, stops]
    constructor
    · intro right _
      by_contra unsupported
      have filed :=
        right key (mem_time_save.mpr (.inr ⟨rfl, fun files => unsupported (filesDistance_erase.mp files).2⟩))
      cases filed
    · intro supported other filed
      rcases mem_time_save.mp filed with also | ⟨-, notFiles⟩
      · obtain ⟨different, also⟩ := mem_time_erase.mp also
        exact absurd (SortedMap.eq_of_size_one one also held) different
      · exact absurd ⟨distance, supported one⟩ (mt filesDistance_erase.mpr notFiles)
  · rw [← same] at asks
    exact iff_of_true (supplied_asks (asks.imp_left fun none => ⟨none, key, held⟩) supplied) fun one => absurd one more

/-- Commands leave a start behind the time-based sessions exactly when they back them. -/
theorem supplied_runs_iff {command : Command Client} (runs : Runs s.adapter command p)
    (off : s.adapter.nHzNeeded = false) (supplied : s.Supplied) :
    (s.after (some command) p).Supplied ↔ s.BacksStep (.command command) := by
  cases runs with
  | wait waits =>
    refine iff_of_true (supplied_kept (fun _ => id) rfl supplied) ?_
    cases command with
    | updateTracking key options => exact fun ready => absurd (ready.symm.trans waits) Bool.false_ne_true
    | _ => exact trivial
  | startIgnored ignored => exact iff_of_true (supplied_kept (fun _ => id) rfl supplied) trivial
  | startDistance callbacks sized distance supported =>
    refine iff_of_true (supplied_kept (fun other held => ?_) rfl supplied) trivial
    exact (mem_time_save.mp held).resolve_right fun filed => filed.2 ⟨by simpa using distance, supported⟩
  | startTime => exact iff_of_true (supplied_asks (startTimeBased_asks _ _ off).1 supplied) trivial
  | updateRefused err refused =>
    refine iff_of_true (supplied_kept (fun _ => id) rfl supplied) fun _ held sized => ?_
    exact refused.elim (fun unknown => absurd held unknown.1) fun empty => absurd empty sized
  | @updateToDistance key options ready held sized distance =>
    exact (switch_supplied_iff held (by simpa using distance) off supplied).trans
      ⟨fun right _ _ _ _ => right, fun right => right ready held sized distance⟩
  | updateToTime held sized time =>
    refine iff_of_true (supplied_kept (fun other held => (mem_time_erase.mp held).2) rfl supplied) ?_
    exact fun _ _ _ distance => absurd time distance.ne'
  | @updateTime key options held other sized time =>
    have asks := (updateTimeBased_asks key options.fallBack.clampInterval off).1
    refine iff_of_true (supplied_asks (asks.imp_left fun none => ⟨none, key, held⟩) supplied) ?_
    exact fun _ _ _ distance => absurd time distance.ne'
  | updateDistance held other =>
    exact iff_of_true (supplied_kept (fun _ => id) rfl supplied) fun _ held => absurd held other
  | stopTime held => exact iff_of_true (stop_supplied held off supplied) trivial
  | stopDistance => exact iff_of_true (supplied_kept (fun _ => id) rfl supplied) trivial
  | stopUnknown => exact iff_of_true (supplied_kept (fun _ => id) rfl supplied) trivial

end Steps

section Answers

variable {s : Session Client} {index : ℕ} {waiting : Outstanding Client} {err : LocationError}

/-- The log after an answer that fails no start still has a start behind the sessions. -/
theorem backed_answered (logged : s.Logged) (waits : s.outstanding[index]? = some waiting)
    (harmless : err = .success ∨ waiting.response.engine ≠ some true) (backed : s.StartBehind) :
    (s.answered index waiting.number err).StartBehind := by
  obtain ⟨request, found, effect⟩ := logged.pairs waiting (List.mem_of_getElem? waits)
  exact lastEngine_answered found (effect ▸ harmless) backed

theorem lastAsked_reporter {a : GnssAdapter Client} {response : LocApiResponse Client} {key : LocationSessionKey Client}
    (reporter : response.reporter = some key) (err : LocationError) : lastAsked ((response.proc err).emitted a) =
    none := by
  rw [emitted_reporter err reporter]
  rfl

/-- An answer that files a session and reports. -/
theorem supplied_filed_iff {origin : Option (Command Client)} {response : LocApiResponse Client}
    {key : LocationSessionKey Client} {options : TrackingOptions} (files : response.files err = some (key, options))
    (reporter : response.reporter = some key) : (s.after origin (response.proc err)).Supplied ↔
      ∀ other, other ∈ s.adapter.timeBasedTrackingSessions ∨ other = key ∧ ¬ s.adapter.FilesDistance options →
      s.StartBehind := by
  obtain ⟨b, ⟨running, rfl⟩, next⟩ := next_files (a := s.adapter) files
  rw [supplied_after_iff, lastAsked_reporter reporter, next]
  exact forall_congr' fun other => imp_congr mem_time_save Iff.rfl

/-- Answers leave a start behind the time-based sessions exactly when they back them. -/
theorem supplied_answer_iff (logged : s.Logged) (off : s.adapter.nHzNeeded = false)
    (waits : s.outstanding[index]? = some waiting) (supplied : s.Supplied) :
    ((s.answered index waiting.number err).after waiting.origin (waiting.response.proc err)).Supplied ↔
      ∀ other, s.LeftBy err other waiting.response → (s.answered index waiting.number err).StartBehind := by
  have backed (harmless : err = .success ∨ waiting.response.engine ≠ some true) :
      (s.answered index waiting.number err).Supplied :=
    fun key held => backed_answered logged waits harmless (supplied key held)
  have kept {response : LocApiResponse Client} {key : LocationSessionKey Client}
      (files : response.files err = none) (reporter : response.reporter = some key)
      (before : (s.answered index waiting.number err).Supplied) :
      ((s.answered index waiting.number err).after waiting.origin (response.proc err)).Supplied :=
    supplied_kept (among_of_files files).time (lastAsked_reporter reporter err) before
  obtain ⟨number, origin, response⟩ := waiting
  simp only at backed kept ⊢
  cases response with
  | ignore => exact iff_of_true (supplied_kept (fun _ => id) rfl (backed (.inr (by rintro ⟨⟩)))) fun _ => False.elim
  | stopTime key | startDistance key | stopDistance key =>
    exact iff_of_true (kept rfl rfl (backed (.inr (by rintro ⟨⟩)))) fun _ => False.elim
  | restartDistance key options =>
    refine iff_of_true (supplied_kept (among_of_files rfl).time ?_ (backed (.inr (by rintro ⟨⟩)))) fun _ => False.elim
    rw [LocApiResponse.proc, Emit.emitted_ite]
    split_ifs <;> rfl
  | switchToTime key options =>
    have asks := (startTimeBased_asks key options off).1
    exact iff_of_true (supplied_asks asks (backed (.inr (by rintro ⟨⟩)))) fun _ => False.elim
  | startTime key =>
    by_cases success : err = .success
    · exact iff_of_true (kept rfl rfl (backed (.inl success))) fun _ left => absurd success left.1
    · have next : ((LocApiResponse.startTime key).proc err).next s.adapter = s.adapter.eraseTrackingSession key := by
        rw [LocApiResponse.proc, if_neg success]
        rfl
      rw [supplied_after_iff, lastAsked_reporter rfl]
      refine forall_congr' fun other => imp_congr ?_ Iff.rfl
      exact (next ▸ mem_time_erase).trans (and_iff_right success).symm
  | updateTime key options =>
    by_cases success : err = .success
    · have files : (LocApiResponse.updateTime key options).files err = none := if_pos success
      exact iff_of_true (kept files rfl (backed (.inl success))) fun _ left => absurd success left.1
    · have files : (LocApiResponse.updateTime key options).files err = some (key, options) := if_neg success
      rw [supplied_filed_iff files rfl]
      exact forall_congr' fun other => imp_congr (and_iff_right success).symm Iff.rfl
  | restartedDistance key options =>
    by_cases success : err = .success
    · have files : (LocApiResponse.restartedDistance key options).files err = some (key, options) := if_pos success
      rw [supplied_filed_iff files rfl]
      exact forall_congr' fun other => imp_congr (and_iff_right success).symm Iff.rfl
    · have files : (LocApiResponse.restartedDistance key options).files err = none := if_neg success
      exact iff_of_true (kept files rfl (backed (.inr (by rintro ⟨⟩)))) fun _ left => absurd left.1 success

end Answers

section Runs

variable {s : Session Client} {e : Event Client}

/-- A run without the fixed rate whose outstanding requests are logged. -/
structure Session.Sound (s : Session Client) : Prop where
  off : s.adapter.nHzNeeded = false
  logged : s.Logged

theorem nHzNeeded_runs {command : Command Client} {p : AdapterM Client Unit} {a : GnssAdapter Client}
    (runs : Runs a command p) : (p.next a).nHzNeeded = a.nHzNeeded := by
  cases runs with
  | wait | startIgnored | updateRefused | updateDistance | stopDistance | stopUnknown => rfl
  | startDistance => exact nHzNeeded_save
  | updateToTime => exact nHzNeeded_erase
  | startTime =>
    obtain ⟨b, ⟨running, rfl⟩, next⟩ := next_startTimeBased (a := a) _ _
    exact (congrArg _ next).trans nHzNeeded_save
  | updateTime =>
    obtain ⟨b, ⟨running, rfl⟩, next⟩ := next_updateTimeBased (a := a) _ _
    exact (congrArg _ next).trans nHzNeeded_save
  | stopTime =>
    obtain ⟨b, ⟨running, rfl⟩, next⟩ := next_stopTimeBased (a := a) _
    exact (congrArg _ next).trans nHzNeeded_erase
  | updateToDistance =>
    obtain ⟨b, ⟨running, rfl⟩, next⟩ := next_switchToDistance (a := a) _ _
    exact (congrArg _ next).trans (nHzNeeded_save.trans nHzNeeded_erase)

theorem nHzNeeded_proc {a : GnssAdapter Client} (response : LocApiResponse Client) (err : LocationError) :
    ((response.proc err).next a).nHzNeeded = a.nHzNeeded := by
  cases files : response.files err with
  | some filed =>
    obtain ⟨b, ⟨running, rfl⟩, next⟩ := next_files (a := a) files
    exact (congrArg _ next).trans nHzNeeded_save
  | none =>
    cases response with
    | startDistance key | startTime key | stopDistance key =>
      simp only [LocApiResponse.proc, reportResponse, erase, Emit.next_bind, Emit.next_ite, Emit.next_modify,
        Emit.next_emit]
      split_ifs
      all_goals first | rfl | exact nHzNeeded_erase
    | updateTime key options | restartedDistance key options =>
      rw [LocApiResponse.files] at files
      split_ifs at files with success
      simp only [LocApiResponse.proc, success, if_true, if_false]
      rfl
    | restartDistance key options =>
      rw [LocApiResponse.proc]
      split_ifs <;> rfl
    | ignore | stopTime => rfl
    | switchToTime => cases files

theorem sound_step (sound : s.Sound) (commands : e ≠ .restartSessions) : (s.step e).Sound := by
  cases e with
  | restartSessions => exact absurd rfl commands
  | setEngineCapabilitiesKnown => exact ⟨sound.off, sound.logged.pairs, sound.logged.distinct, sound.logged.complete⟩
  | command command =>
    obtain ⟨p, runs, step⟩ := s.step_command command
    rw [step]
    refine ⟨?_, sound.logged.after (paired_runs sound.off runs)⟩
    rw [Session.adapter_after, nHzNeeded_runs runs]
    exact sound.off
  | answer index err =>
    rw [Session.step]
    cases waits : s.outstanding[index]? with
    | none => exact sound
    | some waiting =>
      refine ⟨?_, (sound.logged.answered waits err).after (paired_proc sound.off waiting.response err)⟩
      rw [Session.adapter_after, nHzNeeded_proc]
      exact sound.off

theorem supplied_step_iff (sound : s.Sound) (commands : e ≠ .restartSessions) (supplied : s.Supplied) :
    (s.step e).Supplied ↔ s.BacksStep e := by
  cases e with
  | restartSessions => exact absurd rfl commands
  | setEngineCapabilitiesKnown => exact iff_of_true supplied trivial
  | command command =>
    obtain ⟨p, runs, step⟩ := s.step_command command
    rw [step]
    exact supplied_runs_iff runs sound.off supplied
  | answer index err =>
    rw [Session.step, Session.BacksStep]
    cases waits : s.outstanding[index]? with
    | none => exact iff_of_true supplied (by rintro _ ⟨⟩)
    | some waiting =>
      refine (supplied_answer_iff sound.logged sound.off waits supplied).trans ?_
      constructor
      · intro backs other same
        cases same
        exact backs
      · exact fun backs => backs waiting rfl

/-- Without outstanding answers a start that has not failed was accepted. -/
theorem keepsPromise_of_supplied (sound : s.Sound) (supplied : s.Supplied) : s.KeepsPromise := by
  intro quiet key origin held _
  have settled : ∀ entry ∈ s.log, entry.2 ≠ none := by
    rintro ⟨request, result⟩ member rfl
    obtain ⟨n, found⟩ := List.mem_iff_getElem?.mp member
    obtain ⟨waiting, outstanding, -⟩ := sound.logged.complete n request found
    rw [quiet] at outstanding
    exact List.not_mem_nil outstanding
  rw [Session.EngineRuns, ← lastEngine_of_settled settled]
  exact supplied key held

theorem eachStep_commands {s : Session Client} {events : List (Event Client)}
    (commands : ∀ e ∈ events, e ≠ .restartSessions) :
    EachStep Session.step (fun _ e => e ≠ .restartSessions) s events :=
  fun done e reached => commands e (reached.subset (List.mem_append_right done List.mem_cons_self))

/-- In every run of commands and answers there is a start behind all time-based sessions exactly as long as every step
backs them, and as long as it does every session that was answered with success has a running engine when nothing is
outstanding. -/
theorem engine_throughout (clientData : Client → Option LocationCallbacks) (distanceSupported engineCapabilitiesKnown : Bool)
    (events : List (Event Client)) (commands : ∀ e ∈ events, e ≠ .restartSessions) :
    let start := Session.start (.initial clientData distanceSupported engineCapabilitiesKnown false)
    (Throughout Session.step Session.Supplied start events ↔ EachStep Session.step Session.BacksStep start events) ∧
    (EachStep Session.step Session.BacksStep start events → Throughout Session.step Session.KeepsPromise start
      events) := by
  intro start
  have domain : EachStep Session.step (fun _ e => e ≠ .restartSessions) start events := eachStep_commands commands
  have invariant : start.Sound :=
    ⟨rfl, fun _ member => absurd member List.not_mem_nil, List.nodup_nil, by rintro _ _ ⟨⟩⟩
  have empty : start.Supplied := fun _ held => absurd held SortedMap.not_mem_empty
  have exactly := throughout_iff_eachStep_of (P := Session.Supplied) (C := Session.BacksStep) domain invariant
    (fun s e sound commands => sound_step sound commands) empty
    fun s e sound commands supplied => supplied_step_iff sound commands supplied
  refine ⟨exactly, fun each done reached => ?_⟩
  have sound := throughout_of_eachStep invariant (fun s e sound commands => sound_step sound commands) domain
  exact keepsPromise_of_supplied (sound done reached) (exactly.mpr each done reached)

end Runs

section Fails

/-- A second session is answered at once while the start that it relies on is in flight. -/
def reliesOnStart : List (Event ℕ) :=
  [.command (.startTracking ⟨0, 1⟩ (every 1000)), .command (.startTracking ⟨0, 2⟩ (every 2000))]

/-- The start succeeds. -/
def startSucceeds : Event ℕ := .answer 0 .success

/-- The start fails. -/
def startFails : Event ℕ := .answer 0 .generalFailure

theorem engine_throughout_startSucceeds :
    let events := reliesOnStart ++ [startSucceeds]
    (Throughout Session.step Session.Supplied Session.sample events ↔
      EachStep Session.step Session.BacksStep Session.sample events) ∧
    (EachStep Session.step Session.BacksStep Session.sample events →
      Throughout Session.step Session.KeepsPromise Session.sample events) :=
  engine_throughout _ true true _ (by rintro e member rfl; simp [reliesOnStart, startSucceeds] at member)

/-- The second session was answered with success, and no engine runs for it after the start has failed. -/
theorem session_without_engine : ¬ ∀ events : List (Event ℕ), (∀ e ∈ events, e ≠ .restartSessions) →
    Throughout Session.step Session.KeepsPromise Session.sample events := by
  intro always
  have final :=
    always (reliesOnStart ++ [startFails]) (by rintro e member rfl; simp [reliesOnStart, startFails] at member) _
    List.prefix_rfl
  have held :
    ((reliesOnStart ++ [startFails]).foldl Session.step Session.sample).adapter.timeBasedTrackingSessions.contains
      ⟨0, 2⟩ = true := by decide
  have told : (⟨some (.startTracking ⟨0, 2⟩ (every 2000)), ⟨0, 2⟩, .success⟩ : Report ℕ) ∈
    ((reliesOnStart ++ [startFails]).foldl Session.step Session.sample).reports := by decide
  have none : lastEngine accepted ((reliesOnStart ++ [startFails]).foldl Session.step Session.sample).log = none := by
    decide
  have runs := final (by decide) _ _ (SortedMap.contains_iff.mp held) told
  rw [Session.EngineRuns, none] at runs
  cases runs

end Fails

end Cypfr.Tracking
