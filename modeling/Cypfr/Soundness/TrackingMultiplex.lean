import Cypfr.Machine.Run
import Cypfr.Proofs.TrackingModem
import Cypfr.Proofs.TrackingMultiplex

/-! # What the modem runs for the sessions

Over a run of commands and restarts, each answered with success before the next, the options that the modem was
last asked to run have the smallest interval and the smallest power mode of the sessions exactly as long as every
request takes its power mode from the right session and no session that is the fastest slows down unnoticed.
-/

namespace Cypfr.Tracking

open Machine

/-- The options of a request for a time-based session. -/
def LocApiRequest.started : LocApiRequest → Option TrackingOptions
  | .startTimeBasedTracking options => some options
  | _ => none

/-- The responses to requests of time-based sessions. -/
def LocApiResponse.timeBased {Client : Type} : LocApiResponse Client → Bool
  | .startTime _ | .updateTime _ _ | .stopTime _ => true
  | _ => false

section Run

variable {Client : Type} [LinearOrder Client]

/-- The options last sent to the modem for a time-based session. -/
def Session.lastStart (s : Session Client) : Option TrackingOptions :=
  ((s.log.map Prod.fst).filterMap LocApiRequest.started).getLast?

/-- If there are time-based sessions, the options last sent have their smallest interval and power mode. -/
def Session.Matches (s : Session Client) : Prop := s.adapter.allOptions ≠ [] → Asked s.adapter.allOptions s.lastStart

/-- Sessions are time-based and have valid power modes, started sessions are new, and the modem answers each request
with success before the next step. -/
def Session.Orderly (s : Session Client) : Event Client → Prop
  | .command (.startTracking key options) => s.outstanding = [] ∧ options.minDistance = 0 ∧ options.powerMode ≠ .invalid ∧
    key ∉ s.adapter.timeBasedTrackingSessions
  | .command (.updateTracking _ options) => s.outstanding = [] ∧ options.minDistance = 0 ∧ options.powerMode ≠ .invalid
  | .command (.stopTracking _) | .restartSessions => s.outstanding = []
  | .setEngineCapabilitiesKnown => True
  | .answer _ err => err = .success

/-- The options that start a session fit beside the other sessions; so do those that an update gives another interval or
power mode, and the session did not have the smallest interval or power mode alone unless it still does. -/
def Session.FitsStep (s : Session Client) : Event Client → Prop
  | .command (.startTracking key options) => s.adapter.hasCallbacksToStartTracking key.client = true → options.size ≠ 0 →
    s.adapter.allOptions ≠ [] → Fits s.adapter.allOptions options.clampInterval.fallBack
  | .command (.updateTracking key options) => ∀ old, s.adapter.timeBasedTrackingSessions.find? key = some old →
    options.size ≠ 0 → old.Changes options.fallBack.clampInterval → s.adapter.timeBasedTrackingSessions.size ≠ 1 →
      Fits (s.adapter.otherOptions key) options.fallBack.clampInterval ∧
      Backed (s.adapter.otherOptions key) old options.fallBack.clampInterval
  | _ => True

/-- What a run of time-based sessions keeps. -/
structure Session.Serves (s : Session Client) : Prop where
  off : s.adapter.nHzNeeded = false
  noDistance : ∀ key, key ∉ s.adapter.distanceBasedTrackingSessions
  valid : ∀ o ∈ s.adapter.allOptions, o.Valid
  timeBased : ∀ waiting ∈ s.outstanding, waiting.response.timeBased

end Run

section Steps

variable {Client : Type} [LinearOrder Client] {s : Session Client} {a : GnssAdapter Client}
  {key : LocationSessionKey Client} {asks : Option TrackingOptions} {response : LocApiResponse Client}

/-- The options that an output asks the modem to run. -/
def Output.started : Output Client → Option TrackingOptions
  | .request sent _ => sent.started
  | .reportResponse _ _ => none

theorem lastStart_after (origin : Option (Command Client)) (p : AdapterM Client Unit) :
    (s.after origin p).lastStart = ((p.emitted s.adapter).filterMap Output.started).getLast?.or s.lastStart := by
  have requests : ((p.emitted s.adapter).filterMap Output.asked).filterMap LocApiRequest.started =
      (p.emitted s.adapter).filterMap Output.started := by
    rw [List.filterMap_filterMap]
    refine List.filterMap_congr fun output _ => ?_
    cases output <;> rfl
  simp only [Session.lastStart, Session.log_after, List.map_append, List.map_map, List.filterMap_append,
    List.getLast?_append, Function.comp_def, List.map_id', requests]

theorem lastStart_answered (index number : ℕ) (err : LocationError) : (s.answered index number err).lastStart =
    s.lastStart := by
  have requests : (s.answered index number err).log.map Prod.fst = s.log.map Prod.fst := by
    refine List.ext_getElem? fun i => ?_
    rw [Session.answered, List.getElem?_map, List.getElem?_map, List.getElem?_modify]
    cases s.log[i]? with
    | none => rfl
    | some entry => by_cases here : number = i <;> simp [here]
  rw [Session.lastStart, requests, Session.lastStart]

/-- A multiplexer, a change of the sessions and the report that is left. -/
theorem Makes.then (key : LocationSessionKey Client) {p : AdapterM Client Bool} (makes : Makes p a asks response)
    (change : GnssAdapter Client → GnssAdapter Client) :
    let q : AdapterM Client Unit := do
      let reportToClientWithNoWait ← p
      Emit.modify change
      reportNoWait key reportToClientWithNoWait
    q.next a = change a ∧ ((q.emitted a).filterMap Output.started).getLast? = asks ∧
      ∀ sent answer, .request sent (some answer) ∈ q.emitted a → answer = response := by
  obtain ⟨result, next, emitted⟩ := makes
  simp only [Emit.next_bind, Emit.emitted_bind, Emit.next_modify, Emit.emitted_modify, result, next, emitted,
    List.nil_append]
  cases asks with
  | none =>
    refine ⟨rfl, rfl, fun _ _ member => ?_⟩
    cases List.mem_singleton.mp member
  | some sent =>
    refine ⟨rfl, rfl, fun _ _ member => ?_⟩
    cases List.mem_singleton.mp member
    rfl

/-- What a step of a run of time-based sessions comes to: the adapter that it leaves and what it asks the modem to
run. -/
structure Effect (s : Session Client) (left : GnssAdapter Client) (asks : Option TrackingOptions) (s' : Session Client) :
    Prop where
  adapter : s'.adapter = left
  lastStart : s'.lastStart = asks.or s.lastStart
  timeBased : ∀ waiting ∈ s'.outstanding, waiting.response.timeBased

theorem effect_after {p : AdapterM Client Unit} (origin : Option (Command Client)) (serves : s.Serves)
    (answers : ∀ sent answer, .request sent (some answer) ∈ p.emitted s.adapter → answer.timeBased) :
    Effect s (p.next s.adapter) ((p.emitted s.adapter).filterMap Output.started).getLast? (s.after origin p) where
  adapter := Session.adapter_after p
  lastStart := lastStart_after origin p
  timeBased waiting member := by
    rcases Session.mem_outstanding_after p member with before | ⟨-, -, sent, among, -⟩
    · exact serves.timeBased waiting before
    · exact answers sent _ among

/-- A step that multiplexes. -/
theorem effect_multiplex (key : LocationSessionKey Client) {p : AdapterM Client Bool}
    (makes : Makes p s.adapter asks response)
    (change : GnssAdapter Client → GnssAdapter Client) (origin : Option (Command Client)) (serves : s.Serves)
    (answer : response.timeBased) :
    Effect s (change s.adapter) asks (s.after origin (do
      let reportToClientWithNoWait ← p
      Emit.modify change
      reportNoWait key reportToClientWithNoWait)) := by
  obtain ⟨next, last, answers⟩ := makes.then key change
  have effect := effect_after origin serves fun sent other member => (answers sent other member) ▸ answer
  rwa [next, last] at effect

namespace Effect

variable {left : GnssAdapter Client} {s' : Session Client}

theorem serves (effect : Effect s left asks s') (off : left.nHzNeeded = false)
    (noDistance : ∀ key, key ∉ left.distanceBasedTrackingSessions) (valid : ∀ o ∈ left.allOptions, o.Valid) :
    s'.Serves := by
  obtain ⟨rfl, -, timeBased⟩ := effect
  exact ⟨off, noDistance, valid, timeBased⟩

theorem matches_iff (effect : Effect s left asks s') :
    s'.Matches ↔ (left.allOptions ≠ [] → Asked left.allOptions (asks.or s.lastStart)) := by
  rw [Session.Matches, effect.adapter, effect.lastStart]

end Effect

/-- A step that leaves the adapter and asks nothing of the modem. -/
theorem idle_after {p : AdapterM Client Unit} (origin : Option (Command Client)) (serves : s.Serves)
    (unchanged : p.next s.adapter = s.adapter) (silent : ∀ sent answer, .request sent answer ∉ p.emitted s.adapter) :
    (s.after origin p).Serves ∧ (s.Matches → (s.after origin p).Matches) := by
  have nothing : (p.emitted s.adapter).filterMap Output.started = [] := by
    refine List.filterMap_eq_nil_iff.mpr fun output member => ?_
    cases output with
    | request sent answer => exact absurd member (silent sent answer)
    | reportResponse key err => rfl
  have effect := effect_after origin serves fun sent answer member => absurd member (silent sent (some answer))
  rw [nothing, unchanged] at effect
  exact ⟨effect.serves serves.off serves.noDistance serves.valid, effect.matches_iff.mpr⟩

/-- A response to a client. -/
theorem reported_after (key : LocationSessionKey Client) (origin : Option (Command Client)) (serves : s.Serves)
    (err : LocationError) :
    (s.after origin (reportResponse key err)).Serves ∧
    (s.Matches → (s.after origin (reportResponse key err)).Matches) := by
  refine idle_after origin serves rfl fun sent answer member => ?_
  cases List.mem_singleton.mp member

/-- A session is filed after the multiplexer. -/
theorem filed_after {p : AdapterM Client Bool} {new : TrackingOptions} (origin : Option (Command Client))
    (makes : Makes p s.adapter asks response) (answer : response.timeBased) (time : new.minDistance = 0)
    (valid : new.Valid)
    (serves : s.Serves) :
    let s' := s.after origin (do
      let reportToClientWithNoWait ← p
      save key new
      reportNoWait key reportToClientWithNoWait)
    s'.Serves ∧ ∃ sessions : List TrackingOptions, (∀ o, o ∈ sessions ↔ o = new ∨ o ∈ s.adapter.otherOptions key) ∧
      (s'.Matches ↔ Asked sessions (asks.or s.lastStart)) := by
  have effect := effect_multiplex key makes (fun a => a.saveTrackingSession key new) origin serves answer
  rw [GnssAdapter.saveTrackingSession, if_neg fun both => both.1.ne' time] at effect
  refine ⟨effect.serves serves.off serves.noDistance fun o member => ?_, _, fun o => mem_allOptions_insert, ?_⟩
  · rcases mem_allOptions_insert.mp member with rfl | other
    · exact valid
    · obtain ⟨other, -, entry⟩ := mem_otherOptions.mp other
      exact serves.valid o (mem_allOptions.mpr ⟨other, entry⟩)
  · exact effect.matches_iff.trans (imp_iff_right (List.ne_nil_of_mem (mem_allOptions_insert.mpr (.inl rfl))))

theorem start_step {options : TrackingOptions} (serves : s.Serves)
    (orderly : s.Orderly (.command (.startTracking key options))) :
    (s.step (.command (.startTracking key options))).Serves ∧ (s.Matches →
      ((s.step (.command (.startTracking key options))).Matches ↔
      s.FitsStep (.command (.startTracking key options)))) := by
  obtain ⟨-, time, mode, fresh⟩ := orderly
  obtain ⟨p, runs, step⟩ := s.step_command (.startTracking key options)
  rw [step, Session.FitsStep]
  cases runs with
  | wait waits =>
    rw [Command.waits, time] at waits
    simp at waits
  | startIgnored ignored =>
    obtain ⟨kept, same⟩ := idle_after (some (.startTracking key options)) serves (Emit.next_pure s.adapter ())
      fun _ _ => List.not_mem_nil
    refine ⟨kept, fun before => iff_of_true (same before) fun callbacks sized => ?_⟩
    exact ignored.elim (fun missing => absurd (missing.symm.trans callbacks) Bool.false_ne_true) fun empty =>
      absurd empty sized
  | startDistance callbacks sized distance supported => exact absurd time distance.ne'
  | startTime callbacks sized notDistance =>
    have valid : options.clampInterval.fallBack.Valid :=
      TrackingOptions.Valid.fallBack (TrackingOptions.Valid.clampInterval ⟨sized, mode⟩)
    obtain ⟨kept, sessions, more, exactly⟩ := filed_after (some (.startTracking key options))
      (makes_start key options.clampInterval.fallBack serves.off) rfl (by simpa using time) valid serves
    refine ⟨kept, fun before => exactly.trans ?_⟩
    rw [asked_start serves.valid (fun o => (more o).trans (or_congr_right (mem_otherOptions_of_new fresh))) before,
      imp_iff_right callbacks, imp_iff_right sized]

theorem update_step {options : TrackingOptions} (serves : s.Serves)
    (orderly : s.Orderly (.command (.updateTracking key options))) :
    (s.step (.command (.updateTracking key options))).Serves ∧ (s.Matches →
      ((s.step (.command (.updateTracking key options))).Matches ↔
      s.FitsStep (.command (.updateTracking key options)))) := by
  obtain ⟨-, time, mode⟩ := orderly
  obtain ⟨p, runs, step⟩ := s.step_command (.updateTracking key options)
  rw [step, Session.FitsStep]
  cases runs with
  | wait waits =>
    rw [Command.waits, time] at waits
    simp at waits
  | updateRefused err refused =>
    obtain ⟨kept, same⟩ := reported_after key (some (.updateTracking key options)) serves err
    refine ⟨kept, fun before => iff_of_true (same before) fun old found sized => ?_⟩
    have held : key ∈ s.adapter.timeBasedTrackingSessions := ⟨old, SortedMap.find?_eq_some_iff.mp found⟩
    exact refused.elim (fun unknown => absurd held unknown.1) fun empty => absurd empty sized
  | updateToDistance waits held sized distance => exact absurd time distance.ne'
  | updateToTime held => exact absurd held (serves.noDistance key)
  | updateTime held other sized =>
    obtain ⟨old, entry⟩ := held
    have found := SortedMap.find?_eq_some_iff.mpr entry
    have valid : options.fallBack.clampInterval.Valid :=
      TrackingOptions.Valid.clampInterval (TrackingOptions.Valid.fallBack ⟨sized, mode⟩)
    have otherValid : ∀ o ∈ s.adapter.otherOptions key, o.Valid := fun o member =>
      serves.valid o ((mem_allOptions_of_found found).mpr (.inr member))
    have nonempty : s.adapter.allOptions ≠ [] := List.ne_nil_of_mem ((mem_allOptions_of_found found).mpr (.inl rfl))
    obtain ⟨kept, sessions, more, exactly⟩ := filed_after (some (.updateTracking key options))
      (makes_update key options.fallBack.clampInterval serves.off found) rfl (by simpa using time) valid serves
    refine ⟨kept, fun before => exactly.trans ?_⟩
    rw [asked_update otherValid (otherOptions_eq_nil_iff ⟨old, entry⟩) (fun o => mem_allOptions_of_found found) more
      (before nonempty)]
    constructor
    · intro right other found'
      cases found.symm.trans found'
      exact fun _ => right
    · exact fun right => right old found sized
  | updateDistance held => exact absurd held (serves.noDistance key)

section Alone

variable (held : key ∈ a.timeBasedTrackingSessions) (alone : a.timeBasedTrackingSessions.size = 1)

include alone

theorem emitted_stop_alone : (stopTimeBased key).emitted a = [.request .stopFix (some (.stopTime key))] := by
  obtain ⟨result, next, emitted⟩ := stopTimeBasedTrackingMultiplex_alone key alone
  simp only [stopTimeBased, erase, reportNoWait, Emit.emitted_bind, emitted, result, Emit.emitted_modify]
  rfl

theorem stop_alone_answers (sent : LocApiRequest) (answer : LocApiResponse Client)
    (member : .request sent (some answer) ∈ (stopTimeBased key).emitted a) : answer.timeBased := by
  rw [emitted_stop_alone alone] at member
  cases List.mem_singleton.mp member
  rfl

include held

theorem next_stop_alone : (stopTimeBased key).next a =
    { a with
      timeBasedTrackingSessions := a.timeBasedTrackingSessions.erase key
      speAlreadyRunningAtHighestInterval := false } := by
  obtain ⟨result, next, emitted⟩ := stopTimeBasedTrackingMultiplex_alone key alone
  simp only [stopTimeBased, erase, reportNoWait, Emit.next_bind, next, result, Emit.next_modify]
  exact eraseTrackingSession_of_mem held

end Alone

theorem stop_step (serves : s.Serves) : (s.step (.command (.stopTracking key))).Serves ∧
    (s.Matches → (s.step (.command (.stopTracking key))).Matches) := by
  obtain ⟨p, runs, step⟩ := s.step_command (.stopTracking key)
  rw [step]
  cases runs with
  | wait waits => cases waits
  | stopTime held =>
    obtain ⟨old, entry⟩ := held
    have found := SortedMap.find?_eq_some_iff.mpr entry
    have otherValid : ∀ o ∈ s.adapter.otherOptions key, o.Valid := fun o member =>
      serves.valid o ((mem_allOptions_of_found found).mpr (.inr member))
    have nonempty : s.adapter.allOptions ≠ [] := List.ne_nil_of_mem ((mem_allOptions_of_found found).mpr (.inl rfl))
    have left := eraseTrackingSession_of_mem ⟨old, entry⟩
    by_cases alone : s.adapter.timeBasedTrackingSessions.size = 1
    · have effect := effect_after (p := stopTimeBased key) (some (.stopTracking key)) serves (stop_alone_answers alone)
      have nobody : ((stopTimeBased key).next s.adapter).allOptions = [] := by
        rw [next_stop_alone ⟨old, entry⟩ alone]
        exact allOptions_erase.trans ((otherOptions_eq_nil_iff ⟨old, entry⟩).mpr alone)
      refine ⟨effect.serves ?_ ?_ ?_, fun _ => effect.matches_iff.mpr fun more => absurd nobody more⟩
      · rw [next_stop_alone ⟨old, entry⟩ alone]
        exact serves.off
      · rw [next_stop_alone ⟨old, entry⟩ alone]
        exact serves.noDistance
      · rw [nobody]
        exact nofun
    · have effect := effect_multiplex key (makes_stop key serves.off found alone) (fun a => a.eraseTrackingSession key)
        (some (.stopTracking key)) serves rfl
      rw [left] at effect
      refine ⟨effect.serves serves.off serves.noDistance fun o => ?_, fun before => effect.matches_iff.mpr fun more =>
        ?_⟩
      · rw [allOptions_erase]
        exact otherValid o
      · rw [allOptions_erase] at more ⊢
        exact asked_stop more otherValid (fun o => mem_allOptions_of_found found) (before nonempty)
  | stopDistance held => exact absurd held (serves.noDistance key)
  | stopUnknown => exact reported_after key (some (.stopTracking key)) serves .idUnknown

/-- After a restart the modem runs what the sessions demand, whatever it ran before. -/
theorem restart_step (serves : s.Serves) : (s.step .restartSessions).Serves ∧ (s.step .restartSessions).Matches ∧
    (s.step .restartSessions).adapter.allOptions = s.adapter.allOptions := by
  obtain ⟨next, emitted⟩ := restartSessions_off serves.off serves.noDistance
  have asked : ((restartSessions.emitted s.adapter).filterMap Output.started).getLast? = restartAsks s.adapter := by
    rw [emitted]
    cases restartAsks s.adapter <;> rfl
  have effect := effect_after (p := restartSessions) none serves fun sent answer member => by
    rw [emitted] at member
    cases asks : restartAsks s.adapter with
    | none =>
      rw [asks] at member
      cases member
    | some options =>
      rw [asks] at member
      cases List.mem_singleton.mp member
  rw [next, asked] at effect
  refine ⟨effect.serves serves.off serves.noDistance serves.valid, effect.matches_iff.mpr fun nonempty => ?_, ?_⟩
  · obtain ⟨sent, asks, demand⟩ := asked_restart (a := s.adapter) nonempty serves.valid
    refine ⟨sent, ?_, demand⟩
    rw [asks]
    rfl
  · exact (congrArg GnssAdapter.allOptions effect.adapter :)

/-- A response to a request of a time-based session reports success and changes nothing. -/
theorem proc_timeBased {response : LocApiResponse Client} (timeBased : response.timeBased) :
    ∃ key, (response.proc .success).next a = a ∧
      (response.proc .success).emitted a = [.reportResponse key .success] := by
  cases response with
  | startTime key | updateTime key | stopTime key => exact ⟨key, rfl, rfl⟩
  | _ => cases timeBased

/-- An answer with success changes no session. -/
theorem answer_step (serves : s.Serves) (index : ℕ) : (s.step (.answer index .success)).Serves ∧
    (s.Matches → (s.step (.answer index .success)).Matches) := by
  rw [Session.step]
  cases waits : s.outstanding[index]? with
  | none => exact ⟨serves, id⟩
  | some waiting =>
    have answered : (s.answered index waiting.number .success).Serves :=
      ⟨serves.off, serves.noDistance, serves.valid, fun other member =>
        serves.timeBased other (List.mem_of_mem_eraseIdx member)⟩
    have timeBased := serves.timeBased waiting (List.mem_of_getElem? waits)
    obtain ⟨key, reports⟩ := proc_timeBased (a := s.adapter) timeBased
    obtain ⟨kept, same⟩ := idle_after waiting.origin answered reports.1 fun sent answer member => by
      rw [show (s.answered index waiting.number .success).adapter = s.adapter from rfl, reports.2] at member
      cases List.mem_singleton.mp member
    refine ⟨kept, fun before => same fun nonempty => ?_⟩
    rw [lastStart_answered]
    exact before nonempty

end Steps

section Runs

variable {Client : Type} [LinearOrder Client] {s : Session Client}

/-- One step of an orderly run. -/
theorem orderly_step (e : Event Client) (serves : s.Serves) (orderly : s.Orderly e) :
    (s.step e).Serves ∧ (s.Matches → ((s.step e).Matches ↔ s.FitsStep e)) := by
  have right {e : Event Client} (always : s.FitsStep e) (kept : (s.step e).Serves ∧ (s.Matches → (s.step e).Matches)) :
      (s.step e).Serves ∧ (s.Matches → ((s.step e).Matches ↔ s.FitsStep e)) :=
    ⟨kept.1, fun before => iff_of_true (kept.2 before) always⟩
  cases e with
  | command command =>
    cases command with
    | startTracking key options => exact start_step serves orderly
    | updateTracking key options => exact update_step serves orderly
    | stopTracking key => exact right trivial (stop_step serves)
  | restartSessions =>
    obtain ⟨kept, same, -⟩ := restart_step serves
    exact right trivial ⟨kept, fun _ => same⟩
  | setEngineCapabilitiesKnown =>
    exact right trivial ⟨⟨serves.off, serves.noDistance, serves.valid, serves.timeBased⟩, id⟩
  | answer index err =>
    cases orderly
    exact right trivial (answer_step serves index)

theorem serves_start (clientData : Client → Option LocationCallbacks)
    (distanceSupported engineCapabilitiesKnown : Bool) :
    (Session.start (.initial clientData distanceSupported engineCapabilitiesKnown false)).Serves :=
  ⟨rfl, fun _ => SortedMap.not_mem_empty, fun _ member => absurd member List.not_mem_nil,
    fun _ member => absurd member List.not_mem_nil⟩

/-- A restart asks for what the sessions already run with. -/
theorem restart_agrees (serves : s.Serves) (same : s.Matches) (nonempty : s.adapter.allOptions ≠ []) :
    ∃ sent sent', s.lastStart = some sent ∧ (s.step .restartSessions).lastStart = some sent' ∧
      sent'.minInterval = sent.minInterval ∧ sent'.powerMode = sent.powerMode := by
  obtain ⟨-, again, unchanged⟩ := restart_step serves
  obtain ⟨sent, last, demand⟩ := same nonempty
  rw [Session.Matches, unchanged] at again
  obtain ⟨sent', last', demand'⟩ := again nonempty
  obtain ⟨interval, power⟩ := demand'.unique demand
  exact ⟨sent, sent', last, last', interval, value_injective power⟩

/-- In every orderly run the modem runs what the sessions demand exactly as long as every step fits, and wherever it
does so a restart asks for the same. -/
theorem matches_throughout_iff (clientData : Client → Option LocationCallbacks)
    (distanceSupported engineCapabilitiesKnown : Bool) (events : List (Event Client)) :
    let start := Session.start (.initial clientData distanceSupported engineCapabilitiesKnown false)
    EachStep Session.step Session.Orderly start events →
      (Throughout Session.step Session.Matches start events ↔ EachStep Session.step Session.FitsStep start events) ∧
      ∀ done, done <+: events → (done.foldl Session.step start).Matches →
        (done.foldl Session.step start).adapter.allOptions ≠ [] →
        ∃ sent sent', (done.foldl Session.step start).lastStart = some sent ∧
          ((done.foldl Session.step start).step .restartSessions).lastStart = some sent' ∧
          sent'.minInterval = sent.minInterval ∧ sent'.powerMode = sent.powerMode := by
  intro start orderly
  have invariant := serves_start clientData distanceSupported engineCapabilitiesKnown
  have always : Throughout Session.step Session.Serves start events :=
    throughout_of_eachStep invariant (fun s e serves orderly => (orderly_step e serves orderly).1) orderly
  refine ⟨throughout_iff_eachStep_of orderly invariant (fun s e serves orderly => (orderly_step e serves orderly).1)
    (absurd rfl) fun s e serves orderly => (orderly_step e serves orderly).2, ?_⟩
  exact fun done reached same nonempty => restart_agrees (always done reached) same nonempty

end Runs

section Slower

/-- A session is started, and a slower one beside it. -/
def twoSessions : List (Event ℕ) :=
  [.command (.startTracking ⟨0, 1⟩ (every 1000)), .answer 0 .success, .command (.startTracking ⟨0, 2⟩ (every 2000))]

/-- The faster of the two sessions becomes the slower one. -/
def slowDown : Event ℕ := .command (.updateTracking ⟨0, 1⟩ (every 5000))

theorem orderly_twoSessions_slowDown :
    EachStep Session.step Session.Orderly Session.sample (twoSessions ++ [slowDown]) := by
  refine eachStep_cons ⟨rfl, rfl, nofun, SortedMap.contains_eq_false_iff.mp rfl⟩ ?_
  refine eachStep_cons rfl ?_
  refine eachStep_cons ⟨rfl, rfl, nofun, SortedMap.contains_eq_false_iff.mp rfl⟩ ?_
  exact eachStep_cons ⟨rfl, rfl, nofun⟩ eachStep_nil

theorem matches_throughout_iff_slowDown :
    (Throughout Session.step Session.Matches Session.sample (twoSessions ++ [slowDown]) ↔
      EachStep Session.step Session.FitsStep Session.sample (twoSessions ++ [slowDown])) ∧
    ∀ done, done <+: twoSessions ++ [slowDown] → (done.foldl Session.step Session.sample).Matches →
      (done.foldl Session.step Session.sample).adapter.allOptions ≠ [] →
      ∃ sent sent', (done.foldl Session.step Session.sample).lastStart = some sent ∧
        ((done.foldl Session.step Session.sample).step .restartSessions).lastStart = some sent' ∧
        sent'.minInterval = sent.minInterval ∧ sent'.powerMode = sent.powerMode :=
  matches_throughout_iff _ true true _ orderly_twoSessions_slowDown

/-- When the fastest session slows down the modem is not asked to slow down. -/
theorem slowDown_unnoticed : ¬ ∀ events, EachStep Session.step Session.Orderly Session.sample events →
    Throughout Session.step Session.Matches Session.sample events := by
  intro always
  have final := always _ orderly_twoSessions_slowDown _ List.prefix_rfl
  have last : ((twoSessions ++ [slowDown]).foldl Session.step Session.sample).lastStart = some (every 1000) := by decide
  have sessions : ((twoSessions ++ [slowDown]).foldl Session.step Session.sample).adapter.allOptions =
      [every 5000, every 2000] := by decide
  rw [Session.Matches, sessions, last, asked_some] at final
  obtain ⟨o, member, interval⟩ := (final (List.cons_ne_nil _ _)).interval.1
  rcases List.mem_pair.mp member with rfl | rfl <;> cases interval

end Slower

end Cypfr.Tracking
