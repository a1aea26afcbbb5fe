import Cypfr.Model.Tracking

/-! # What the multiplexers do

Each multiplexer leaves the sessions alone and either tells its caller to report at once, or has reported
itself because the engine already runs at the highest rate, or has made one request to the modem.
-/

namespace Cypfr.Tracking

variable {Client : Type} [LinearOrder Client] {a : GnssAdapter Client} {key : LocationSessionKey Client}

/-- Two adapters that differ at most in whether the engine runs at the highest rate. -/
def SameSessions (a a' : GnssAdapter Client) : Prop := ∃ running, a' = { a with speAlreadyRunningAtHighestInterval := running }

theorem SameSessions.refl (a : GnssAdapter Client) : SameSessions a a := ⟨a.speAlreadyRunningAtHighestInterval, rfl⟩

section Sessions

variable {other : LocationSessionKey Client} {options : TrackingOptions}

/-- Options of a session that is filed as distance-based. -/
def GnssAdapter.FilesDistance (a : GnssAdapter Client) (options : TrackingOptions) : Prop :=
  options.minDistance > 0 ∧ a.distanceSupported = true

@[simp] theorem mem_time_save : other ∈ (a.saveTrackingSession key options).timeBasedTrackingSessions ↔
    other ∈ a.timeBasedTrackingSessions ∨ other = key ∧ ¬ a.FilesDistance options := by
  rw [GnssAdapter.saveTrackingSession, GnssAdapter.FilesDistance]
  split_ifs with distance
  · exact (or_iff_left fun both => both.2 distance).symm
  · rw [SortedMap.mem_insert, and_iff_left distance, or_comm]

@[simp] theorem mem_distance_save : other ∈ (a.saveTrackingSession key options).distanceBasedTrackingSessions ↔
    other ∈ a.distanceBasedTrackingSessions ∨ other = key ∧ a.FilesDistance options := by
  rw [GnssAdapter.saveTrackingSession, GnssAdapter.FilesDistance]
  split_ifs with distance
  · rw [SortedMap.mem_insert, and_iff_left distance, or_comm]
  · exact (or_iff_left fun both => distance both.2).symm

@[simp] theorem mem_time_erase :
    other ∈ (a.eraseTrackingSession key).timeBasedTrackingSessions ↔ other ≠ key ∧
    other ∈ a.timeBasedTrackingSessions := by
  rw [GnssAdapter.eraseTrackingSession]
  split_ifs with held
  · exact SortedMap.mem_erase
  · refine (and_iff_right_of_imp fun member same => held ?_).symm
    exact SortedMap.contains_iff.mpr (same ▸ member)

@[simp] theorem mem_distance_erase : other ∈ (a.eraseTrackingSession key).distanceBasedTrackingSessions ↔
    other ∈ a.distanceBasedTrackingSessions ∧ (other ≠ key ∨ key ∈ a.timeBasedTrackingSessions) := by
  rw [GnssAdapter.eraseTrackingSession, ← SortedMap.contains_iff (k := key)]
  split_ifs with held
  · exact (and_iff_left (.inr held)).symm
  · rw [SortedMap.mem_erase, or_iff_left held, and_comm]

@[simp] theorem nHzNeeded_save : (a.saveTrackingSession key options).nHzNeeded = a.nHzNeeded := by
  rw [GnssAdapter.saveTrackingSession]
  split_ifs <;> rfl

@[simp] theorem nHzNeeded_erase : (a.eraseTrackingSession key).nHzNeeded = a.nHzNeeded := by
  rw [GnssAdapter.eraseTrackingSession]
  split_ifs <;> rfl

@[simp] theorem filesDistance_erase : (a.eraseTrackingSession key).FilesDistance options ↔ a.FilesDistance options := by
  rw [GnssAdapter.FilesDistance, GnssAdapter.eraseTrackingSession]
  split_ifs <;> exact Iff.rfl

end Sessions

/-- How a multiplexer leaves its caller: with nothing done, with the report made, or with one request made. -/
inductive Multiplexes (key : LocationSessionKey Client) (a : GnssAdapter Client) (quiet : Prop) (result : Bool)
    (outputs : List (Output Client)) (asks : LocApiRequest → LocApiResponse Client → Prop) : Prop where
  | nothing (isQuiet : quiet) (report : result = true) (silent : outputs = [])
  | reported (running : a.nHzNeeded = true) (told : result = false)
      (reports : outputs = [.reportResponse key .success])
  | asked (request : LocApiRequest) (response : LocApiResponse Client) (told : result = false)
      (sent : outputs = [.request request (some response)]) (isAsked : asks request response)

section Request

variable (key) (out options : TrackingOptions) (response : LocApiResponse Client)

theorem checkAndSetSPEToRunforNHz_cases :
    SameSessions a ((checkAndSetSPEToRunforNHz out).next a) ∧ (checkAndSetSPEToRunforNHz out).emitted a = [] ∧
    (a.nHzNeeded = false → (checkAndSetSPEToRunforNHz out).result a = (false, out) ∧
      (checkAndSetSPEToRunforNHz out).next a = a) := by
  rw [checkAndSetSPEToRunforNHz, Emit.next_get_bind, Emit.emitted_get_bind, Emit.result_get_bind]
  cases needed : a.nHzNeeded with
  | false => exact ⟨.refl a, rfl, fun _ => ⟨rfl, rfl⟩⟩
  | true =>
    cases running : a.speAlreadyRunningAtHighestInterval with
    | true => exact ⟨.refl a, rfl, nofun⟩
    | false =>
      by_cases slow : out.minInterval > minTrackingInterval
      · simp only [Bool.not_true, Bool.false_eq_true, if_false, if_pos slow]
        exact ⟨⟨true, rfl⟩, rfl, nofun⟩
      · simp only [Bool.not_true, Bool.false_eq_true, if_false, if_neg slow]
        exact ⟨.refl a, rfl, nofun⟩

/-- The program asks the modem for a time-based session or reports that one runs. -/
theorem requestTimeBasedTracking_cases :
    SameSessions a ((requestTimeBasedTracking key options response).next a) ∧
    ((requestTimeBasedTracking key options response).emitted a = [.reportResponse key .success] ∧ a.nHzNeeded = true ∨
      ∃ sent, (requestTimeBasedTracking key options response).emitted a =
        [.request (.startTimeBasedTracking sent) (some response)]) := by
  obtain ⟨same, silent, off⟩ := checkAndSetSPEToRunforNHz_cases (a := a) options
  simp only [requestTimeBasedTracking, Emit.next_bind, Emit.emitted_bind, silent, List.nil_append, Emit.next_ite,
    Emit.emitted_ite, Emit.emitted_emit, Emit.next_emit, reportResponse, ite_self]
  refine ⟨same, ?_⟩
  cases running : ((checkAndSetSPEToRunforNHz options).result a).1 with
  | false => exact .inr ⟨_, rfl⟩
  | true =>
    cases needed : a.nHzNeeded with
    | false =>
      rw [(off needed).1] at running
      cases running
    | true => exact .inl ⟨rfl, rfl⟩

/-- Without the fixed rate the request is made as it is. -/
theorem requestTimeBasedTracking_off (off : a.nHzNeeded = false) :
    (requestTimeBasedTracking key options response).next a = a ∧
    (requestTimeBasedTracking key options response).emitted a =
      [.request (.startTimeBasedTracking options) (some response)] := by
  obtain ⟨-, silent, unchanged⟩ := checkAndSetSPEToRunforNHz_cases (a := a) options
  obtain ⟨result, next⟩ := unchanged off
  simp only [requestTimeBasedTracking, Emit.next_bind, Emit.emitted_bind, silent, List.nil_append, Emit.next_ite,
    Emit.emitted_ite, Emit.emitted_emit, Emit.next_emit, reportResponse, ite_self, next, result]
  exact ⟨trivial, rfl⟩

end Request

section Multiplexers

variable (key)

/-- A program that makes the request for a time-based session and returns false. -/
theorem multiplexes_request {quiet : Prop} {asks : LocApiRequest → LocApiResponse Client → Prop}
    (options : TrackingOptions) (response : LocApiResponse Client)
    (isAsked : ∀ sent, asks (.startTimeBasedTracking sent) response) :
    SameSessions a ((requestTimeBasedTracking key options response).next a) ∧
      Multiplexes key a quiet false ((requestTimeBasedTracking key options response).emitted a) asks := by
  obtain ⟨same, ⟨reports, needed⟩ | ⟨sent, asked⟩⟩ := requestTimeBasedTracking_cases (a := a) key options response
  · exact ⟨same, .reported needed rfl reports⟩
  · exact ⟨same, .asked _ _ rfl asked (isAsked sent)⟩

/-- What a multiplexer asks is all that it and the report that is left ask. -/
theorem Multiplexes.asks_of_mem {quiet : Prop} {result : Bool} {outputs : List (Output Client)}
    {asks : LocApiRequest → LocApiResponse Client → Prop} (multiplexes : Multiplexes key a quiet result outputs asks)
    {a' : GnssAdapter Client} {request : LocApiRequest} {response : LocApiResponse Client}
    (member : .request request (some response) ∈ outputs ++ (reportNoWait key result).emitted a') :
    asks request response := by
  cases multiplexes with
  | nothing _ report silent =>
    rw [silent, report] at member
    cases List.mem_singleton.mp member
  | reported _ told reports =>
    rw [told, reports] at member
    cases List.mem_singleton.mp member
  | asked sent answer told outputs isAsked =>
    rw [told, outputs] at member
    cases List.mem_singleton.mp member
    exact isAsked

@[simp] theorem next_reportNoWait (report : Bool) : (reportNoWait key report).next a = a := by
  cases report <;> rfl

theorem startTimeBasedTrackingMultiplex_cases (options : TrackingOptions) :
    SameSessions a ((startTimeBasedTrackingMultiplex key options).next a) ∧
    Multiplexes key a (∃ other, other ∈ a.timeBasedTrackingSessions)
      ((startTimeBasedTrackingMultiplex key options).result a) ((startTimeBasedTrackingMultiplex key options).emitted a)
      fun request response => response = .startTime key ∧ ∃ sent, request = .startTimeBasedTracking sent := by
  rw [startTimeBasedTrackingMultiplex, Emit.next_get_bind, Emit.result_get_bind, Emit.emitted_get_bind]
  cases none : a.timeBasedTrackingSessions.isEmpty with
  | true =>
    simp only [if_true, Emit.next_bind, Emit.emitted_bind, Emit.result_bind, Emit.result_pure, Emit.next_pure,
      Emit.emitted_pure, List.append_nil, startTimeBasedTracking]
    exact multiplexes_request key options (.startTime key) fun sent => ⟨rfl, sent, rfl⟩
  | false =>
    simp only [Bool.false_eq_true, if_false]
    cases more : (withSession (multiplex a.allOptions) options).2 with
    | true =>
      simp only [if_true, Emit.next_bind, Emit.emitted_bind, Emit.result_bind, Emit.result_pure, Emit.next_pure,
        Emit.emitted_pure, List.append_nil, startTimeBasedTracking]
      exact multiplexes_request key _ (.startTime key) fun sent => ⟨rfl, sent, rfl⟩
    | false =>
      simp only [Bool.false_eq_true, if_false]
      refine ⟨.refl a, .nothing ?_ rfl rfl⟩
      by_contra nobody
      rw [SortedMap.isEmpty_iff.mpr (not_exists.mp nobody)] at none
      cases none

theorem updateTrackingMultiplex_cases (options : TrackingOptions) :
    SameSessions a ((updateTrackingMultiplex key options).next a) ∧
    Multiplexes key a True ((updateTrackingMultiplex key options).result a)
      ((updateTrackingMultiplex key options).emitted a)
      fun request response => (∃ old, response = .updateTime key old ∧ a.timeBasedTrackingSessions.find? key =
      some old) ∧
        ∃ sent, request = .startTimeBasedTracking sent := by
  rw [updateTrackingMultiplex, Emit.next_get_bind, Emit.result_get_bind, Emit.emitted_get_bind]
  cases found : a.timeBasedTrackingSessions.find? key with
  | none => exact ⟨.refl a, .nothing trivial rfl rfl⟩
  | some old =>
    by_cases changed : old.minInterval ≠ options.minInterval ∨ old.powerMode ≠ options.powerMode
    · simp only [if_pos changed]
      by_cases only : a.timeBasedTrackingSessions.size = 1
      · simp only [if_pos only, Emit.next_bind, Emit.emitted_bind, Emit.result_bind, Emit.result_pure, Emit.next_pure,
          Emit.emitted_pure, List.append_nil, updateTracking]
        exact multiplexes_request key options (.updateTime key old) fun sent => ⟨⟨old, rfl, rfl⟩, sent, rfl⟩
      · simp only [if_neg only]
        cases more : (withSession (multiplex (a.otherOptions key)) options).2 with
        | true =>
          simp only [if_true, Emit.next_bind, Emit.emitted_bind, Emit.result_bind, Emit.result_pure, Emit.next_pure,
            Emit.emitted_pure, List.append_nil, updateTracking]
          exact multiplexes_request key _ (.updateTime key old) fun sent => ⟨⟨old, rfl, rfl⟩, sent, rfl⟩
        | false => exact ⟨.refl a, .nothing trivial rfl rfl⟩
    · simp only [if_neg changed]
      exact ⟨.refl a, .nothing trivial rfl rfl⟩

theorem stopTimeBasedTrackingMultiplex_cases :
    SameSessions a ((stopTimeBasedTrackingMultiplex key).next a) ∧
    Multiplexes key a (a.timeBasedTrackingSessions.size ≠ 1) ((stopTimeBasedTrackingMultiplex key).result a)
      ((stopTimeBasedTrackingMultiplex key).emitted a)
      fun request response => (request = .stopFix ∧ response = .stopTime key ∧ a.timeBasedTrackingSessions.size = 1) ∨
        (∃ sent, request = .startTimeBasedTracking sent) ∧ response = .startTime key ∧
          a.timeBasedTrackingSessions.size ≠ 1 := by
  rw [stopTimeBasedTrackingMultiplex, Emit.next_get_bind, Emit.result_get_bind, Emit.emitted_get_bind]
  by_cases only : a.timeBasedTrackingSessions.size = 1
  · simp only [if_pos only]
    exact ⟨⟨false, rfl⟩, .asked _ _ rfl rfl (.inl ⟨rfl, rfl, only⟩)⟩
  · simp only [if_neg only]
    cases found : a.timeBasedTrackingSessions.find? key with
    | none => exact ⟨.refl a, .nothing only rfl rfl⟩
    | some options =>
      by_cases less : options.minInterval < (multiplex (a.otherOptions key)).1.minInterval ∨
          options.powerMode.value < (multiplex (a.otherOptions key)).2.value
      · simp only [if_pos less, Emit.next_bind, Emit.emitted_bind, Emit.result_bind, Emit.result_pure, Emit.next_pure,
          Emit.emitted_pure, List.append_nil, startTimeBasedTracking]
        exact multiplexes_request key _ (.startTime key) fun sent => .inr ⟨⟨sent, rfl⟩, rfl, only⟩
      · simp only [if_neg less]
        exact ⟨.refl a, .nothing only rfl rfl⟩

/-- What is left by a multiplexer, a change of the sessions and the report that is left. -/
theorem next_multiplexed {m : AdapterM Client Bool} (same : SameSessions a (m.next a))
    (change : GnssAdapter Client → GnssAdapter Client) : ∃ b, SameSessions a b ∧ (do
      let reportToClientWithNoWait ← m
      Emit.modify change
      reportNoWait key reportToClientWithNoWait : AdapterM Client Unit).next a = change b := by
  refine ⟨m.next a, same, ?_⟩
  rw [Emit.next_bind, Emit.next_bind, next_reportNoWait, Emit.next_modify]

end Multiplexers

section Restart

theorem SameSessions.trans {b c : GnssAdapter Client} (first : SameSessions a b) (second : SameSessions b c) :
    SameSessions a c := by
  obtain ⟨running, rfl⟩ := first
  obtain ⟨running', rfl⟩ := second
  exact ⟨running', rfl⟩

theorem next_restartDistanceSessions (sessions : List (LocationSessionKey Client × LocationOptions)) :
    (restartDistanceSessions sessions).next a = a := by
  induction sessions with
  | nil => rfl
  | cons session rest ih => rw [restartDistanceSessions, Emit.next_bind, Emit.next_emit, ih]

theorem checkAndRestartTimeBasedSession_same : SameSessions a (checkAndRestartTimeBasedSession.next a) := by
  rw [checkAndRestartTimeBasedSession, Emit.next_get_bind]
  cases a.timeBasedTrackingSessions.isEmpty with
  | true => exact .refl a
  | false =>
    simp only [Bool.false_eq_true, if_false, Emit.next_bind, Emit.next_ite, Emit.next_pure, Emit.next_emit, ite_self]
    exact (checkAndSetSPEToRunforNHz_cases _).1

/-- A restart keeps the sessions. -/
theorem restartSessions_same : SameSessions a (restartSessions.next a) := by
  rw [restartSessions, Emit.next_bind, Emit.next_modify, Emit.next_bind, Emit.next_bind, next_restartDistanceSessions,
    Emit.next_get]
  exact SameSessions.trans ⟨false, rfl⟩ checkAndRestartTimeBasedSession_same

end Restart

section Reporters

/-- The session that a response reports to and then is done. -/
def LocApiResponse.reporter : LocApiResponse Client → Option (LocationSessionKey Client)
  | .startDistance key | .startTime key | .updateTime key _ | .restartedDistance key _ | .stopTime key
  | .stopDistance key => some key
  | .ignore | .switchToTime _ _ | .restartDistance _ _ => none

theorem emitted_reporter (err : LocationError) {response : LocApiResponse Client}
    (reporter : response.reporter = some key) :
    (response.proc err).emitted a = [.reportResponse key err] := by
  cases response with
  | ignore | switchToTime | restartDistance => cases reporter
  | stopTime =>
    cases reporter
    rfl
  | _ =>
    cases reporter
    simp only [LocApiResponse.proc, reportResponse, save, erase, Emit.emitted_bind, Emit.emitted_ite,
      Emit.emitted_modify, Emit.emitted_emit, ite_self, List.nil_append]

end Reporters

section Commands

/-- Whether a command waits until the capabilities of the engine are known. -/
def Command.waits (a : GnssAdapter Client) : Command Client → Bool
  | .startTracking _ options | .updateTracking _ options => !a.engineCapabilitiesKnown && options.minDistance > 0
  | .stopTracking _ => false

/-- A time-based session changes its options. -/
def updateTimeBased (key : LocationSessionKey Client) (options : TrackingOptions) : AdapterM Client Unit := do
  let reportToClientWithNoWait ← updateTrackingMultiplex key options
  save key options
  reportNoWait key reportToClientWithNoWait

/-- A time-based session stops. -/
def stopTimeBased (key : LocationSessionKey Client) : AdapterM Client Unit := do
  let reportToClientWithNoWait ← stopTimeBasedTrackingMultiplex key
  erase key
  reportNoWait key reportToClientWithNoWait

/-- A time-based session becomes distance-based. -/
def switchToDistance (key : LocationSessionKey Client) (options : TrackingOptions) : AdapterM Client Unit := do
  let reportToClientWithNoWait ← stopTimeBasedTrackingMultiplex key
  erase key
  reportNoWait key reportToClientWithNoWait
  save key options
  Emit.emit (.request (.startDistanceBasedTracking key.id options.toLocationOptions) (some .ignore))

section Next

variable (key) (options : TrackingOptions)

theorem next_startTimeBased :
    ∃ b, SameSessions a b ∧ (startTimeBased key options).next a = b.saveTrackingSession key options :=
  next_multiplexed key (startTimeBasedTrackingMultiplex_cases key options).1 fun a => a.saveTrackingSession key options

theorem next_updateTimeBased :
    ∃ b, SameSessions a b ∧ (updateTimeBased key options).next a = b.saveTrackingSession key options :=
  next_multiplexed key (updateTrackingMultiplex_cases key options).1 fun a => a.saveTrackingSession key options

theorem next_stopTimeBased : ∃ b, SameSessions a b ∧ (stopTimeBased key).next a = b.eraseTrackingSession key :=
  next_multiplexed key (stopTimeBasedTrackingMultiplex_cases key).1 fun a => a.eraseTrackingSession key

theorem next_switchToDistance : ∃ b, SameSessions a b ∧
    (switchToDistance key options).next a = (b.eraseTrackingSession key).saveTrackingSession key options := by
  refine ⟨_, (stopTimeBasedTrackingMultiplex_cases key).1, ?_⟩
  simp only [switchToDistance, Emit.next_bind, erase, save, Emit.next_modify, next_reportNoWait, Emit.next_emit]

end Next

/-- The session that a response files when it is answered, with its options. -/
def LocApiResponse.files (err : LocationError) : LocApiResponse Client → Option (LocationSessionKey Client × TrackingOptions)
  | .updateTime key oldOptions => if err = .success then none else some (key, oldOptions)
  | .switchToTime key options => some (key, options)
  | .restartedDistance key options => if err = .success then some (key, options) else none
  | _ => none

/-- The sessions of an adapter are among those of another. -/
structure Among (b a : GnssAdapter Client) : Prop where
  time : ∀ key, key ∈ b.timeBasedTrackingSessions → key ∈ a.timeBasedTrackingSessions
  distance : ∀ key, key ∈ b.distanceBasedTrackingSessions → key ∈ a.distanceBasedTrackingSessions

section Answers

variable {options : TrackingOptions} {response : LocApiResponse Client} {err : LocationError} {b : GnssAdapter Client}

theorem Among.refl (a : GnssAdapter Client) : Among a a := ⟨fun _ => id, fun _ => id⟩

theorem Among.of_same (same : SameSessions a b) : Among b a := by
  obtain ⟨running, rfl⟩ := same
  exact ⟨fun _ => id, fun _ => id⟩

theorem Among.erase (among : Among b a) : Among (b.eraseTrackingSession key) a where
  time other member := among.time other (mem_time_erase.mp member).2
  distance other member := among.distance other (mem_distance_erase.mp member).1

theorem next_files (files : response.files err = some (key, options)) :
    ∃ b, SameSessions a b ∧ (response.proc err).next a = b.saveTrackingSession key options := by
  cases response with
  | updateTime other oldOptions =>
    rw [LocApiResponse.files] at files
    split_ifs at files with success
    cases files
    refine ⟨a, .refl a, ?_⟩
    rw [LocApiResponse.proc, if_neg success]
    rfl
  | switchToTime other options =>
    cases files
    exact next_startTimeBased key _
  | restartedDistance other options =>
    rw [LocApiResponse.files] at files
    split_ifs at files with success
    cases files
    refine ⟨a, .refl a, ?_⟩
    rw [LocApiResponse.proc, if_pos success]
    rfl
  | _ => cases files

theorem among_of_files (files : response.files err = none) : Among ((response.proc err).next a) a := by
  cases response with
  | startDistance other | startTime other | stopDistance other =>
    simp only [LocApiResponse.proc, reportResponse, erase, Emit.next_bind, Emit.next_ite, Emit.next_modify,
      Emit.next_emit]
    split_ifs
    all_goals first | exact .refl a | exact (Among.refl a).erase
  | updateTime other oldOptions =>
    rw [LocApiResponse.files] at files
    split_ifs at files with success
    rw [LocApiResponse.proc, if_pos success]
    exact .refl a
  | restartedDistance other options =>
    rw [LocApiResponse.files] at files
    split_ifs at files with success
    rw [LocApiResponse.proc, if_neg success]
    exact .refl a
  | restartDistance other options =>
    rw [LocApiResponse.proc]
    split_ifs
    · exact .refl a
    · exact .refl a
  | ignore | stopTime => exact .refl a
  | switchToTime => cases files

end Answers

/-- The ways a command is processed, each with the program that it comes to. -/
inductive Runs (a : GnssAdapter Client) : Command Client → AdapterM Client Unit → Prop
  | wait {command : Command Client} (waits : command.waits a = true) :
    Runs a command (Emit.modify fun a => { a with pendingMsgs := a.pendingMsgs ++ [command] })
  | startIgnored {key : LocationSessionKey Client} {options : TrackingOptions}
    (ignored : a.hasCallbacksToStartTracking key.client = false ∨ options.size = 0) :
    Runs a (.startTracking key options) (pure ())
  | startDistance {key : LocationSessionKey Client} {options : TrackingOptions}
    (callbacks : a.hasCallbacksToStartTracking key.client = true) (sized : options.size ≠ 0)
    (distance : options.minDistance > 0) (supported : a.distanceSupported = true) :
    Runs a (.startTracking key options) (do
      save key options.clampInterval
      Emit.emit (.request (.startDistanceBasedTracking key.id options.clampInterval.toLocationOptions)
        (some (.startDistance key))))
  | startTime {key : LocationSessionKey Client} {options : TrackingOptions}
    (callbacks : a.hasCallbacksToStartTracking key.client = true) (sized : options.size ≠ 0)
    (time : ¬ (options.minDistance > 0 ∧ a.distanceSupported = true)) :
    Runs a (.startTracking key options) (startTimeBased key options.clampInterval.fallBack)
  | updateRefused {key : LocationSessionKey Client} {options : TrackingOptions} (err : LocationError)
    (refused : key ∉ a.timeBasedTrackingSessions ∧ key ∉ a.distanceBasedTrackingSessions ∨ options.size = 0) :
    Runs a (.updateTracking key options) (reportResponse key err)
  | updateToDistance {key : LocationSessionKey Client} {options : TrackingOptions}
    (ready : (Command.updateTracking key options).waits a = false) (held : key ∈ a.timeBasedTrackingSessions)
    (sized : options.size ≠ 0)
    (distance : options.minDistance > 0) :
    Runs a (.updateTracking key options) (switchToDistance key options.fallBack.clampInterval)
  | updateToTime {key : LocationSessionKey Client} {options : TrackingOptions}
    (held : key ∈ a.distanceBasedTrackingSessions) (sized : options.size ≠ 0)
    (time : options.minDistance = 0) :
    Runs a (.updateTracking key options) (do
      erase key
      Emit.emit (.request (.stopDistanceBasedTracking key.id)
        (some (.switchToTime key options.fallBack.clampInterval))))
  | updateTime {key : LocationSessionKey Client} {options : TrackingOptions}
    (held : key ∈ a.timeBasedTrackingSessions) (other : key ∉ a.distanceBasedTrackingSessions)
    (sized : options.size ≠ 0) (time : options.minDistance = 0) :
    Runs a (.updateTracking key options) (updateTimeBased key options.fallBack.clampInterval)
  | updateDistance {key : LocationSessionKey Client} {options : TrackingOptions}
    (held : key ∈ a.distanceBasedTrackingSessions) (other : key ∉ a.timeBasedTrackingSessions)
    (sized : options.size ≠ 0) (distance : options.minDistance > 0) :
    Runs a (.updateTracking key options) (Emit.emit (.request (.stopDistanceBasedTracking key.id)
      (some (.restartDistance key options.fallBack.clampInterval))))
  | stopTime {key : LocationSessionKey Client} (held : key ∈ a.timeBasedTrackingSessions) :
    Runs a (.stopTracking key) (stopTimeBased key)
  | stopDistance {key : LocationSessionKey Client} (held : key ∈ a.distanceBasedTrackingSessions)
      (other : key ∉ a.timeBasedTrackingSessions) :
    Runs a (.stopTracking key)
      (Emit.emit (.request (.stopDistanceBasedTracking key.id) (some (.stopDistance key))))
  | stopUnknown {key : LocationSessionKey Client} (notTime : key ∉ a.timeBasedTrackingSessions)
      (notDistance : key ∉ a.distanceBasedTrackingSessions) :
    Runs a (.stopTracking key) (reportResponse key .idUnknown)

@[simp] theorem minDistance_clampInterval (o : TrackingOptions) : o.clampInterval.minDistance = o.minDistance := by
  rw [TrackingOptions.clampInterval]
  split_ifs <;> rfl

@[simp] theorem minDistance_fallBack (o : TrackingOptions) : o.fallBack.minDistance = o.minDistance := by
  rw [TrackingOptions.fallBack]
  split_ifs <;> rfl


variable (a)

theorem runs_startTracking (options : TrackingOptions) :
    ∃ p, Runs a (.startTracking key options) p ∧ startTrackingProc key options a = p a := by
  rw [startTrackingProc, Emit.get_bind_apply]
  cases waits : !a.engineCapabilitiesKnown && options.minDistance > 0 with
  | true =>
    rw [if_pos rfl]
    exact ⟨_, .wait waits, rfl⟩
  | false =>
    rw [if_neg Bool.false_ne_true]
    cases callbacks : a.hasCallbacksToStartTracking key.client with
    | false =>
      rw [Bool.not_false, if_pos rfl]
      exact ⟨_, .startIgnored (.inl callbacks), rfl⟩
    | true =>
      rw [Bool.not_true, if_neg Bool.false_ne_true]
      by_cases empty : options.size = 0
      · rw [if_pos empty]
        exact ⟨_, .startIgnored (.inr empty), rfl⟩
      · rw [if_neg empty]
        simp only [minDistance_clampInterval]
        by_cases distance : options.minDistance > 0 ∧ a.distanceSupported = true
        · rw [if_pos distance]
          exact ⟨_, .startDistance callbacks empty distance.1 distance.2, rfl⟩
        · rw [if_neg distance]
          exact ⟨_, .startTime callbacks empty distance, rfl⟩

theorem runs_updateTracking (options : TrackingOptions) :
    ∃ p, Runs a (.updateTracking key options) p ∧ updateTrackingProc key options a = p a := by
  rw [updateTrackingProc, Emit.get_bind_apply]
  cases waits : !a.engineCapabilitiesKnown && options.minDistance > 0 with
  | true =>
    rw [if_pos rfl]
    exact ⟨_, .wait waits, rfl⟩
  | false =>
    rw [if_neg Bool.false_ne_true]
    simp only [minDistance_clampInterval, minDistance_fallBack]
    cases timeBased : a.timeBasedTrackingSessions.contains key with
    | false =>
      have notTime := SortedMap.contains_eq_false_iff.mp timeBased
      cases distanceBased : a.distanceBasedTrackingSessions.contains key with
      | false => exact ⟨_, .updateRefused _ (.inl ⟨notTime, SortedMap.contains_eq_false_iff.mp distanceBased⟩), rfl⟩
      | true =>
        have held := SortedMap.contains_iff.mp distanceBased
        simp only [Bool.not_true, Bool.and_false, Bool.false_eq_true, if_false, Bool.false_and, Bool.true_and,
          decide_eq_true_eq]
        by_cases empty : options.size = 0
        · rw [if_pos empty]
          exact ⟨_, .updateRefused _ (.inr empty), rfl⟩
        · rw [if_neg empty]
          by_cases time : options.minDistance = 0
          · rw [if_pos time]
            exact ⟨_, .updateToTime held empty time, rfl⟩
          · rw [if_neg time]
            exact ⟨_, .updateDistance held notTime empty (Nat.pos_of_ne_zero time), rfl⟩
    | true =>
      have held := SortedMap.contains_iff.mp timeBased
      simp only [Bool.not_true, Bool.false_and, Bool.false_eq_true, if_false, Bool.true_and, decide_eq_true_eq, if_true]
      by_cases empty : options.size = 0
      · rw [if_pos empty]
        exact ⟨_, .updateRefused _ (.inr empty), rfl⟩
      · rw [if_neg empty]
        by_cases distance : options.minDistance > 0
        · rw [if_pos distance]
          exact ⟨_, .updateToDistance waits held empty distance, rfl⟩
        · have time := Nat.eq_zero_of_not_pos distance
          rw [if_neg distance]
          simp only [time, decide_true, Bool.and_true]
          cases distanceBased : a.distanceBasedTrackingSessions.contains key with
          | false =>
            exact ⟨_, .updateTime held (SortedMap.contains_eq_false_iff.mp distanceBased) empty time, rfl⟩
          | true => exact ⟨_, .updateToTime (SortedMap.contains_iff.mp distanceBased) empty time, rfl⟩

theorem runs_stopTracking : ∃ p, Runs a (.stopTracking key) p ∧ stopTrackingProc key a = p a := by
  rw [stopTrackingProc, Emit.get_bind_apply]
  cases timeBased : a.timeBasedTrackingSessions.contains key with
  | true => exact ⟨_, .stopTime (SortedMap.contains_iff.mp timeBased), rfl⟩
  | false =>
    have notTime := SortedMap.contains_eq_false_iff.mp timeBased
    cases distanceBased : a.distanceBasedTrackingSessions.contains key with
    | true => exact ⟨_, .stopDistance (SortedMap.contains_iff.mp distanceBased) notTime, rfl⟩
    | false => exact ⟨_, .stopUnknown notTime (SortedMap.contains_eq_false_iff.mp distanceBased), rfl⟩

/-- Every command is processed in one of the ways. -/
theorem runs_proc (command : Command Client) : ∃ p, Runs a command p ∧ command.proc a = p a := by
  cases command with
  | startTracking key options => exact runs_startTracking a options
  | updateTracking key options => exact runs_updateTracking a options
  | stopTracking key => exact runs_stopTracking a

end Commands

end Cypfr.Tracking
