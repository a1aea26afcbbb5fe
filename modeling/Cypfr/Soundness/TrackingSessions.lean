import Cypfr.Machine.Run
import Cypfr.Proofs.TrackingModem

/-! # Sessions that are stopped or moved

Over every run of commands and answers no session is in both maps, and none is in a map after its stop was
answered with success, exactly as long as no late answer files a session that is in the other map or was stopped,
and no stop is answered with success while its session is filed again.
-/

namespace Cypfr.Tracking

open Machine

variable {Client : Type} [LinearOrder Client]

/-- A stop of the session was answered with success. -/
def Session.Stopped (s : Session Client) (key : LocationSessionKey Client) : Prop :=
  ⟨some (.stopTracking key), key, .success⟩ ∈ s.reports

/-- No session is in both maps, and none that was stopped is in one. -/
structure Session.Apart (s : Session Client) : Prop where
  one : ∀ key, key ∈ s.adapter.timeBasedTrackingSessions → key ∉ s.adapter.distanceBasedTrackingSessions
  gone : ∀ key, s.Stopped key →
    key ∉ s.adapter.timeBasedTrackingSessions ∧ key ∉ s.adapter.distanceBasedTrackingSessions

/-- Sessions that start have an identifier that no session has or had. -/
def Session.StartsNew (s : Session Client) : Event Client → Prop
  | .command (.startTracking key _) => key ∉ s.adapter.timeBasedTrackingSessions ∧
    key ∉ s.adapter.distanceBasedTrackingSessions ∧ ¬ s.Stopped key
  | _ => True

/-- An answer files only a session that was not stopped and is not in the other map, and it answers the stop of a
time-based session with success only if the session has not been filed again. -/
def Session.KeepsAway (s : Session Client) : Event Client → Prop
  | .answer index err => ∀ waiting, s.outstanding[index]? = some waiting →
    (∀ key options, waiting.response.files err = some (key, options) → ¬ s.Stopped key ∧
      (s.adapter.FilesDistance options → key ∉ s.adapter.timeBasedTrackingSessions) ∧
      (¬ s.adapter.FilesDistance options → key ∉ s.adapter.distanceBasedTrackingSessions)) ∧
    ∀ key, waiting.origin = some (.stopTracking key) → waiting.response ≠ .stopDistance key → err = .success →
      key ∉ s.adapter.timeBasedTrackingSessions ∧ key ∉ s.adapter.distanceBasedTrackingSessions
  | _ => True

/-- The requests made for a stop wait for its answer. -/
def Session.StopsWait (s : Session Client) : Prop :=
  ∀ waiting ∈ s.outstanding, ∀ key, waiting.origin = some (.stopTracking key) →
    waiting.response = .startTime key ∨ waiting.response = .stopTime key ∨ waiting.response = .stopDistance key

section Steps

variable {s : Session Client} {origin : Option (Command Client)} {p : AdapterM Client Unit}
  {key : LocationSessionKey Client} {options : TrackingOptions} {b : GnssAdapter Client}

theorem stopped_after : (s.after origin p).Stopped key ↔
    s.Stopped key ∨ origin = some (.stopTracking key) ∧ .reportResponse key .success ∈ p.emitted s.adapter := by
  rw [Session.Stopped, Session.reports_after, List.mem_append, Session.Stopped, List.mem_filterMap]
  refine or_congr_right ⟨?_, ?_⟩
  · rintro ⟨output, member, told⟩
    cases output with
    | request sent response => cases told
    | reportResponse other err =>
      cases told
      exact ⟨rfl, member⟩
  · rintro ⟨rfl, member⟩
    exact ⟨_, member, rfl⟩

/-- A step that files no session, and reports the success of a stop only if its session is not filed. -/
theorem apart_after (among : Among (p.next s.adapter) s.adapter)
    (stops : ∀ key, origin = some (.stopTracking key) → .reportResponse key .success ∈ p.emitted s.adapter →
      key ∉ (p.next s.adapter).timeBasedTrackingSessions ∧ key ∉ (p.next s.adapter).distanceBasedTrackingSessions)
    (apart : s.Apart) : (s.after origin p).Apart := by
  constructor
  · intro key held other
    rw [Session.adapter_after] at held other
    exact apart.one key (among.time key held) (among.distance key other)
  · intro key stopped
    rw [Session.adapter_after]
    rcases stopped_after.mp stopped with before | ⟨isStop, told⟩
    · obtain ⟨notTime, notDistance⟩ := apart.gone key before
      exact ⟨mt (among.time key) notTime, mt (among.distance key) notDistance⟩
    · exact stops key isStop told

theorem mem_time_filed {other : LocationSessionKey Client}
    (next : p.next s.adapter = b.saveTrackingSession key options) :
    other ∈ (s.after origin p).adapter.timeBasedTrackingSessions ↔
      other ∈ b.timeBasedTrackingSessions ∨ other = key ∧ ¬ b.FilesDistance options := by
  rw [Session.adapter_after, next]
  exact mem_time_save

theorem mem_distance_filed {other : LocationSessionKey Client}
    (next : p.next s.adapter = b.saveTrackingSession key options) :
    other ∈ (s.after origin p).adapter.distanceBasedTrackingSessions ↔
      other ∈ b.distanceBasedTrackingSessions ∨ other = key ∧ b.FilesDistance options := by
  rw [Session.adapter_after, next]
  exact mem_distance_save

/-- A session that is filed and then apart was not stopped before and is not in the other map. -/
theorem away_of_filed (next : p.next s.adapter = b.saveTrackingSession key options) (after : (s.after origin p).Apart) :
    ¬ s.Stopped key ∧ (b.FilesDistance options → key ∉ b.timeBasedTrackingSessions) ∧
      (¬ b.FilesDistance options → key ∉ b.distanceBasedTrackingSessions) := by
  have gone (stopped : s.Stopped key) := after.gone key (stopped_after.mpr (.inl stopped))
  by_cases distance : b.FilesDistance options
  · have filed : key ∈ (s.after origin p).adapter.distanceBasedTrackingSessions :=
      (mem_distance_filed next).mpr (.inr ⟨rfl, distance⟩)
    refine ⟨fun stopped => (gone stopped).2 filed, fun _ held => ?_, absurd distance⟩
    exact after.one key ((mem_time_filed next).mpr (.inl held)) filed
  · have filed : key ∈ (s.after origin p).adapter.timeBasedTrackingSessions :=
      (mem_time_filed next).mpr (.inr ⟨rfl, distance⟩)
    refine ⟨fun stopped => (gone stopped).1 filed, fun files => absurd files distance, fun _ held => ?_⟩
    exact after.one key filed ((mem_distance_filed next).mpr (.inl held))

/-- A session that was not stopped and is not in the other map stays apart when it is filed. -/
theorem apart_filed (among : Among b s.adapter) (next : p.next s.adapter = b.saveTrackingSession key options)
    (notStop : ∀ other, origin ≠ some (.stopTracking other)) (apart : s.Apart) (fresh : ¬ s.Stopped key)
    (notTime : b.FilesDistance options → key ∉ b.timeBasedTrackingSessions)
    (notDistance : ¬ b.FilesDistance options → key ∉ b.distanceBasedTrackingSessions) : (s.after origin p).Apart := by
  constructor
  · intro other held also
    rcases (mem_time_filed next).mp held with inTime | ⟨rfl, notFiles⟩
    · rcases (mem_distance_filed next).mp also with inDistance | ⟨rfl, files⟩
      · exact apart.one other (among.time other inTime) (among.distance other inDistance)
      · exact notTime files inTime
    · rcases (mem_distance_filed next).mp also with inDistance | ⟨-, files⟩
      · exact notDistance notFiles inDistance
      · exact notFiles files
  · intro other stopped
    have before : s.Stopped other := (stopped_after.mp stopped).resolve_right fun isStop => notStop other isStop.1
    obtain ⟨goneTime, goneDistance⟩ := apart.gone other before
    have different : other ≠ key := fun same => fresh (same ▸ before)
    constructor
    · intro held
      rcases (mem_time_filed next).mp held with held | ⟨same, -⟩
      · exact goneTime (among.time other held)
      · exact different same
    · intro held
      rcases (mem_distance_filed next).mp held with held | ⟨same, -⟩
      · exact goneDistance (among.distance other held)
      · exact different same

/-- A step that files a session: it must not have been stopped nor be in the other map. -/
theorem apart_filed_iff (among : Among b s.adapter) (next : p.next s.adapter = b.saveTrackingSession key options)
    (notStop : ∀ other, origin ≠ some (.stopTracking other)) (apart : s.Apart) :
    (s.after origin p).Apart ↔ ¬ s.Stopped key ∧ (b.FilesDistance options → key ∉ b.timeBasedTrackingSessions) ∧
      (¬ b.FilesDistance options → key ∉ b.distanceBasedTrackingSessions) := by
  constructor
  · exact away_of_filed next
  · rintro ⟨fresh, notTime, notDistance⟩
    exact apart_filed among next notStop apart fresh notTime notDistance

/-- A step that files no session and is not made for a stop. -/
theorem apart_kept (among : Among (p.next s.adapter) s.adapter) (notStop : ∀ key, origin ≠ some (.stopTracking key))
    (apart : s.Apart) : (s.after origin p).Apart :=
  apart_after among (fun key isStop => absurd isStop (notStop key)) apart

/-- A step that reports nothing and files no session. -/
theorem apart_silent (among : Among (p.next s.adapter) s.adapter)
    (silent : ∀ key err, .reportResponse key err ∉ p.emitted s.adapter)
    (apart : s.Apart) : (s.after origin p).Apart :=
  apart_after among (fun key _ told => absurd told (silent key .success)) apart

/-- Commands keep the sessions apart. -/
theorem apart_runs {command : Command Client} (runs : Runs s.adapter command p) (apart : s.Apart)
    (new : s.StartsNew (.command command)) : (s.after (some command) p).Apart := by
  cases runs with
  | wait waits => exact apart_silent ⟨fun _ => id, fun _ => id⟩ (fun _ _ => List.not_mem_nil) apart
  | startIgnored ignored => exact apart_silent (.refl _) (fun _ _ => List.not_mem_nil) apart
  | startDistance =>
    obtain ⟨notTime, notDistance, fresh⟩ := new
    exact apart_filed (.refl _) rfl (by rintro _ ⟨⟩) apart fresh (fun _ => notTime) fun _ => notDistance
  | @startTime key options =>
    obtain ⟨notTime, notDistance, fresh⟩ := new
    obtain ⟨b, same, next⟩ := next_startTimeBased (a := s.adapter) key options.clampInterval.fallBack
    have among := Among.of_same same
    exact apart_filed among next (by rintro _ ⟨⟩) apart fresh (fun _ => mt (among.time key) notTime) fun _ =>
      mt (among.distance key) notDistance
  | updateRefused err refused => exact apart_kept (.refl _) (by rintro _ ⟨⟩) apart
  | @updateToDistance key options waits held =>
    obtain ⟨b, same, next⟩ := next_switchToDistance (a := s.adapter) key options.fallBack.clampInterval
    have among := Among.of_same same
    refine apart_filed among.erase next (by rintro _ ⟨⟩) apart ?_ ?_ ?_
    · exact fun stopped => (apart.gone key stopped).1 held
    · exact fun _ member => (mem_time_erase.mp member).1 rfl
    · exact fun _ member => apart.one key held (among.distance key (mem_distance_erase.mp member).1)
  | updateToTime => exact apart_kept (Among.refl _).erase (by rintro _ ⟨⟩) apart
  | @updateTime key options held other sized time =>
    obtain ⟨b, same, next⟩ := next_updateTimeBased (a := s.adapter) key options.fallBack.clampInterval
    have among := Among.of_same same
    refine apart_filed among next (by rintro _ ⟨⟩) apart ?_ ?_ fun _ => mt (among.distance key) other
    · exact fun stopped => (apart.gone key stopped).1 held
    · exact fun files => absurd (by simpa using time) files.1.ne'
  | updateDistance => exact apart_kept (.refl _) (by rintro _ ⟨⟩) apart
  | @stopTime key held =>
    obtain ⟨b, same, next⟩ := next_stopTimeBased (a := s.adapter) key
    have among := Among.of_same same
    refine apart_after (next ▸ among.erase) (fun other isStop _ => ?_) apart
    cases isStop
    rw [next, mem_time_erase, mem_distance_erase]
    refine ⟨fun both => both.1 rfl, fun both => ?_⟩
    exact apart.one key held (among.distance key both.1)
  | stopDistance =>
    refine apart_silent (.refl _) (fun other err told => ?_) apart
    cases List.mem_singleton.mp told
  | stopUnknown =>
    refine apart_after (.refl _) (fun other _ told => ?_) apart
    cases List.mem_singleton.mp told

end Steps

section Answers

variable {s : Session Client} {origin : Option (Command Client)} {key : LocationSessionKey Client}
  {response : LocApiResponse Client} {err : LocationError}

theorem erased_away (apart : s.Apart) (key : LocationSessionKey Client) :
    key ∉ (s.adapter.eraseTrackingSession key).timeBasedTrackingSessions ∧
    key ∉ (s.adapter.eraseTrackingSession key).distanceBasedTrackingSessions := by
  rw [mem_time_erase, mem_distance_erase]
  refine ⟨fun both => both.1 rfl, fun both => ?_⟩
  exact apart.one key (both.2.resolve_left fun different => different rfl) both.1

/-- The answer of a stop. -/
theorem apart_stop_iff {p : AdapterM Client Unit} (among : Among (p.next s.adapter) s.adapter)
    (reports : p.emitted s.adapter = [.reportResponse key err]) (apart : s.Apart) :
    (s.after (some (.stopTracking key)) p).Apart ↔ (err = .success →
      key ∉ (p.next s.adapter).timeBasedTrackingSessions ∧ key ∉ (p.next s.adapter).distanceBasedTrackingSessions) := by
  constructor
  · rintro after rfl
    have stopped : (s.after (some (.stopTracking key)) p).Stopped key :=
      stopped_after.mpr (.inr ⟨rfl, reports ▸ List.mem_singleton_self _⟩)
    have away := after.gone key stopped
    rwa [Session.adapter_after] at away
  · intro away
    refine apart_after among (fun other isStop told => ?_) apart
    cases isStop
    rw [reports] at told
    cases List.mem_singleton.mp told
    exact away rfl

/-- The answer of a stop leaves its session gone if it is distance-based or not filed again. -/
theorem apart_stop_answer_iff
    (answer : response = .startTime key ∨ response = .stopTime key ∨ response = .stopDistance key) (apart : s.Apart) :
    (s.after (some (.stopTracking key)) (response.proc err)).Apart ↔ (response ≠ .stopDistance key → err = .success →
      key ∉ s.adapter.timeBasedTrackingSessions ∧ key ∉ s.adapter.distanceBasedTrackingSessions) := by
  have files : response.files err = none := by
    rcases answer with rfl | rfl | rfl <;> rfl
  have reports : (response.proc err).emitted s.adapter = [.reportResponse key err] :=
    emitted_reporter err (by rcases answer with rfl | rfl | rfl <;> rfl)
  rw [apart_stop_iff (among_of_files files) reports apart]
  rcases answer with rfl | rfl | rfl
  · constructor
    · rintro away - rfl
      exact away rfl
    · rintro away rfl
      exact away (by rintro ⟨⟩) rfl
  · constructor
    · exact fun away _ => away
    · exact fun away => away (by rintro ⟨⟩)
  · refine iff_of_true ?_ (absurd rfl)
    rintro rfl
    exact erased_away apart key

/-- Another answer keeps the sessions apart if what it files is apart. -/
theorem apart_other_answer_iff (notStop : ∀ key, origin ≠ some (.stopTracking key)) (apart : s.Apart) :
    (s.after origin (response.proc err)).Apart ↔ ∀ key options, response.files err = some (key, options) →
      ¬ s.Stopped key ∧ (s.adapter.FilesDistance options → key ∉ s.adapter.timeBasedTrackingSessions) ∧
      (¬ s.adapter.FilesDistance options → key ∉ s.adapter.distanceBasedTrackingSessions) := by
  cases files : response.files err with
  | none => exact iff_of_true (apart_kept (among_of_files files) notStop apart) (by rintro _ _ ⟨⟩)
  | some filed =>
    obtain ⟨key, options⟩ := filed
    obtain ⟨b, same, next⟩ := next_files (a := s.adapter) files
    rw [apart_filed_iff (.of_same same) next notStop apart]
    obtain ⟨running, rfl⟩ := same
    constructor
    · intro right other filed sameFiled
      cases sameFiled
      exact right
    · exact fun right => right key options rfl

/-- An answer keeps the sessions apart exactly when it keeps away. -/
theorem apart_answer_iff {waiting : Outstanding Client}
    (stopsWait : ∀ key, waiting.origin = some (.stopTracking key) →
      waiting.response = .startTime key ∨ waiting.response = .stopTime key ∨ waiting.response = .stopDistance key)
    (apart : s.Apart) : (s.after waiting.origin (waiting.response.proc err)).Apart ↔
      (∀ key options, waiting.response.files err = some (key, options) → ¬ s.Stopped key ∧
        (s.adapter.FilesDistance options → key ∉ s.adapter.timeBasedTrackingSessions) ∧
        (¬ s.adapter.FilesDistance options → key ∉ s.adapter.distanceBasedTrackingSessions)) ∧
      ∀ key, waiting.origin = some (.stopTracking key) → waiting.response ≠ .stopDistance key → err = .success →
        key ∉ s.adapter.timeBasedTrackingSessions ∧ key ∉ s.adapter.distanceBasedTrackingSessions := by
  obtain ⟨number, origin, response⟩ := waiting
  simp only at stopsWait ⊢
  by_cases isStop : ∃ key, origin = some (.stopTracking key)
  · obtain ⟨key, rfl⟩ := isStop
    have answer := stopsWait key rfl
    have files : response.files err = none := by
      rcases answer with rfl | rfl | rfl <;> rfl
    rw [apart_stop_answer_iff answer apart, files]
    refine Iff.trans ?_ (and_iff_right (by rintro _ _ ⟨⟩)).symm
    constructor
    · intro away other same
      cases same
      exact away
    · exact fun away => away key rfl
  · have notStop : ∀ key, origin ≠ some (.stopTracking key) := fun key same => isStop ⟨key, same⟩
    rw [and_iff_left fun key same => absurd same (notStop key)]
    exact apart_other_answer_iff notStop apart

end Answers

section Runs

variable {s : Session Client} {e : Event Client}

/-- The requests of a stop wait for its answer. -/
theorem answers_of_stop {p : AdapterM Client Unit} {key : LocationSessionKey Client} {request : LocApiRequest}
    {response : LocApiResponse Client} {a : GnssAdapter Client} (runs : Runs a (.stopTracking key) p)
    (member : .request request (some response) ∈ p.emitted a) :
    response = .startTime key ∨ response = .stopTime key ∨ response = .stopDistance key := by
  cases runs with
  | wait waits => cases waits
  | stopTime =>
    rw [stopTimeBased, Emit.emitted_bind, Emit.emitted_bind] at member
    obtain ⟨-, rfl, -⟩ | ⟨-, rfl, -⟩ := (stopTimeBasedTrackingMultiplex_cases key).2.asks_of_mem key member
    · exact .inr (.inl rfl)
    · exact .inl rfl
  | stopDistance =>
    cases List.mem_singleton.mp member
    exact .inr (.inr rfl)
  | stopUnknown => cases List.mem_singleton.mp member

theorem stopsWait_after {origin : Option (Command Client)} {p : AdapterM Client Unit}
    (added : ∀ key, origin = some (.stopTracking key) → ∀ request response,
      .request request (some response) ∈ p.emitted s.adapter →
        response = .startTime key ∨ response = .stopTime key ∨ response = .stopDistance key)
    (stopsWait : s.StopsWait) : (s.after origin p).StopsWait := by
  intro waiting member key isStop
  rcases Session.mem_outstanding_after p member with before | ⟨same, -, request, among, -⟩
  · exact stopsWait waiting before key isStop
  · exact added key (same.symm.trans isStop) request _ among

theorem stopsWait_step (stopsWait : s.StopsWait) : (s.step e).StopsWait := by
  cases e with
  | command command =>
    obtain ⟨p, runs, step⟩ := s.step_command command
    rw [step]
    refine stopsWait_after (fun key isStop request response member => ?_) stopsWait
    cases isStop
    exact answers_of_stop runs member
  | restartSessions => exact stopsWait_after (by rintro _ ⟨⟩) stopsWait
  | setEngineCapabilitiesKnown => exact stopsWait
  | answer index err =>
    rw [Session.step]
    cases waits : s.outstanding[index]? with
    | none => exact stopsWait
    | some waiting =>
      have answered : (s.answered index waiting.number err).StopsWait :=
        fun other member => stopsWait other (List.mem_of_mem_eraseIdx member)
      refine stopsWait_after (fun key isStop request response member => ?_) answered
      have answer := stopsWait waiting (List.mem_of_getElem? waits) key isStop
      have reporter : waiting.response.reporter = some key := by
        rcases answer with same | same | same <;> rw [same] <;> rfl
      rw [emitted_reporter err reporter] at member
      cases List.mem_singleton.mp member

theorem apart_step_iff (stopsWait : s.StopsWait) (new : s.StartsNew e) (apart : s.Apart) :
    (s.step e).Apart ↔ s.KeepsAway e := by
  cases e with
  | command command =>
    obtain ⟨p, runs, step⟩ := s.step_command command
    rw [step]
    exact iff_of_true (apart_runs runs apart new) trivial
  | restartSessions => exact iff_of_true (apart_kept (.of_same restartSessions_same) (by rintro _ ⟨⟩) apart) trivial
  | setEngineCapabilitiesKnown => exact iff_of_true ⟨apart.one, apart.gone⟩ trivial
  | answer index err =>
    rw [Session.step, Session.KeepsAway]
    cases waits : s.outstanding[index]? with
    | none => exact iff_of_true apart (by rintro _ ⟨⟩)
    | some waiting =>
      have answered : (s.answered index waiting.number err).Apart := ⟨apart.one, apart.gone⟩
      refine (apart_answer_iff (stopsWait waiting (List.mem_of_getElem? waits)) answered).trans ?_
      constructor
      · intro away other same
        cases same
        exact away
      · exact fun away => away waiting rfl

/-- In every run that starts new sessions they stay apart and gone exactly as long as every answer keeps away. -/
theorem apart_throughout_iff (clientData : Client → Option LocationCallbacks)
    (distanceSupported engineCapabilitiesKnown nHzNeeded : Bool) (events : List (Event Client)) :
    let start := Session.start (.initial clientData distanceSupported engineCapabilitiesKnown nHzNeeded)
    EachStep Session.step Session.StartsNew start events →
      (Throughout Session.step Session.Apart start events ↔ EachStep Session.step Session.KeepsAway start events) := by
  intro start new
  refine throughout_iff_eachStep_of new (I := Session.StopsWait) ?_ (fun s e stopsWait _ => stopsWait_step stopsWait) ?_
    fun s e stopsWait new apart => apart_step_iff stopsWait new apart
  · exact fun _ member => absurd member List.not_mem_nil
  · exact ⟨fun _ _ => SortedMap.not_mem_empty, fun _ stopped => absurd stopped List.not_mem_nil⟩

end Runs

section Late

/-- A session is updated and stopped, and the stop is answered first. -/
def stopOvertakes : List (Event ℕ) :=
  [.command (.startTracking ⟨0, 1⟩ (every 1000)), .answer 0 .success, .command (.updateTracking ⟨0, 1⟩ (every 2000)),
    .command (.stopTracking ⟨0, 1⟩), .answer 1 .success]

/-- The update fails. -/
def updateFails : Event ℕ := .answer 0 .generalFailure

theorem startsNew_stopOvertakes :
    EachStep Session.step Session.StartsNew Session.sample (stopOvertakes ++ [updateFails]) := by
  refine eachStep_cons ⟨SortedMap.contains_eq_false_iff.mp rfl, SortedMap.contains_eq_false_iff.mp rfl, ?_⟩ ?_
  · exact List.not_mem_nil
  · exact eachStep_cons trivial (eachStep_cons trivial (eachStep_cons trivial (eachStep_cons trivial
      (eachStep_cons trivial eachStep_nil))))

theorem apart_throughout_iff_stopOvertakes :
    Throughout Session.step Session.Apart Session.sample (stopOvertakes ++ [updateFails]) ↔
      EachStep Session.step Session.KeepsAway Session.sample (stopOvertakes ++ [updateFails]) :=
  apart_throughout_iff _ true true false _ startsNew_stopOvertakes

/-- An update that fails after its session was stopped files the session again. -/
theorem stopped_session_filed : ¬ ∀ events, EachStep Session.step Session.StartsNew Session.sample events →
    Throughout Session.step Session.Apart Session.sample events := by
  intro always
  have final := always _ startsNew_stopOvertakes _ List.prefix_rfl
  have stopped : ((stopOvertakes ++ [updateFails]).foldl Session.step Session.sample).Stopped ⟨0, 1⟩ := by
    have told : (⟨some (.stopTracking ⟨0, 1⟩), ⟨0, 1⟩, .success⟩ : Report ℕ) ∈
      ((stopOvertakes ++ [updateFails]).foldl Session.step Session.sample).reports := by decide
    exact told
  have filed :
    ((stopOvertakes ++ [updateFails]).foldl Session.step Session.sample).adapter.timeBasedTrackingSessions.contains
      ⟨0, 1⟩ = true := by decide
  exact (final.gone _ stopped).1 (SortedMap.contains_iff.mp filed)

end Late

end Cypfr.Tracking
