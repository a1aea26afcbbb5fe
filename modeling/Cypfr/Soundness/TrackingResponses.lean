import Cypfr.Proofs.Tracking

/-! # How often a tracking command is answered

A command and the modem's responses to its requests make a tree: each response may report to the client and
make further requests. The number of reports is counted over whole trees, whatever the modem answers and
whatever else has happened to the adapter in between.
-/

namespace Cypfr.Tracking

variable {Client : Type} [LinearOrder Client]

/-- The requests among some outputs are all answered, with the listed results, in any states of the adapter, and so are
those made on the way; a session is reported to so many times. -/
inductive Settles (key : LocationSessionKey Client) :
    List (Output Client) → List (LocApiRequest × LocationError) → ℕ → Prop
  | nil : Settles key [] [] 0
  | report {rest results n} (other : LocationSessionKey Client) (err : LocationError) (later : Settles key rest results n) :
    Settles key (.reportResponse other err :: rest) results ((if other = key then 1 else 0) + n)
  | unanswered {rest results n} (request : LocApiRequest) (later : Settles key rest results n) :
    Settles key (.request request none :: rest) results n
  | answered {rest results n answers m} (request : LocApiRequest) (response : LocApiResponse Client)
      (a : GnssAdapter Client) (err : LocationError) (now : Settles key ((response.proc err).emitted a) answers m)
      (later : Settles key rest results n) :
    Settles key (.request request (some response) :: rest) ((request, err) :: answers ++ results) (m + n)

/-- The session that a command is about. -/
def Command.key : Command Client → LocationSessionKey Client
  | .startTracking key _ | .updateTracking key _ | .stopTracking key => key

/-- The adapter that a command meets when it does not wait or no longer does. -/
def Command.processed (command : Command Client) (a later : GnssAdapter Client) : GnssAdapter Client :=
  if command.waits a then later else a

/-- What a command emits, at first and when it is processed again after it waited. -/
def Command.outputs (command : Command Client) (a later : GnssAdapter Client) : List (Output Client) :=
  command.proc.emitted a ++ if command.waits a then command.proc.emitted later else []

/-- The command finds no callbacks or options to start with, or its session is only distance-based, stays so, and
stopping it fails. -/
def Command.Unanswered (a : GnssAdapter Client) (results : List (LocApiRequest × LocationError)) : Command Client → Prop
  | .startTracking key options => a.hasCallbacksToStartTracking key.client = false ∨ options.size = 0
  | .updateTracking key options => key ∉ a.timeBasedTrackingSessions ∧ key ∈ a.distanceBasedTrackingSessions ∧
    options.size ≠ 0 ∧ options.minDistance > 0 ∧
    ∃ err, err ≠ .success ∧ (.stopDistanceBasedTracking key.id, err) ∈ results
  | .stopTracking _ => False

variable {a : GnssAdapter Client} {key : LocationSessionKey Client}

/-- However the requests are answered, the session is reported to once. -/
def AnswersOnce (key : LocationSessionKey Client) (outputs : List (Output Client)) : Prop :=
  ∀ results n, Settles key outputs results n → n = 1

theorem settles_append {outputs outputs' : List (Output Client)} {results : List (LocApiRequest × LocationError)}
    {n : ℕ}
    (settles : Settles key (outputs ++ outputs') results n) :
    ∃ first second m m', Settles key outputs first m ∧ Settles key outputs' second m' ∧ results = first ++ second ∧
      n = m + m' := by
  induction outputs generalizing results n with
  | nil => exact ⟨[], results, 0, n, .nil, settles, rfl, (Nat.zero_add n).symm⟩
  | cons output rest ih =>
    cases settles with
    | report other err later =>
      obtain ⟨first, second, m, m', before, after, rfl, rfl⟩ := ih later
      exact ⟨first, second, _, m', .report other err before, after, rfl, (Nat.add_assoc ..).symm⟩
    | unanswered request later =>
      obtain ⟨first, second, m, m', before, after, rfl, rfl⟩ := ih later
      exact ⟨first, second, m, m', .unanswered request before, after, rfl, rfl⟩
    | answered request response a err now later =>
      obtain ⟨first, second, m, m', before, after, rfl, rfl⟩ := ih later
      exact ⟨_, second, _, m', .answered request response a err now before, after, by simp, (Nat.add_assoc ..).symm⟩

theorem settles_nil {results : List (LocApiRequest × LocationError)} {n : ℕ} (settles : Settles key [] results n) :
    results = [] ∧ n = 0 := by
  cases settles
  exact ⟨rfl, rfl⟩

theorem answersOnce_report (err : LocationError) : AnswersOnce key [.reportResponse key err] := by
  intro results n settles
  cases settles with
  | report other err later =>
    obtain ⟨-, rfl⟩ := settles_nil later
    rw [if_pos rfl]

/-- A request whose answer is ignored. -/
theorem settles_ignore {request : LocApiRequest} {results : List (LocApiRequest × LocationError)} {n : ℕ}
    (settles : Settles key [.request request (some .ignore)] results n) : n = 0 := by
  cases settles with
  | answered _ _ _ _ now later =>
    obtain ⟨-, rfl⟩ := settles_nil now
    obtain ⟨-, rfl⟩ := settles_nil later
    rfl

/-- A request is answered once if its response is, in every state and whatever the result. -/
theorem answersOnce_request (request : LocApiRequest) {response : LocApiResponse Client}
    (once : ∀ a err, AnswersOnce key ((response.proc err).emitted a)) :
    AnswersOnce key [.request request (some response)] := by
  intro results n settles
  cases settles with
  | answered request response a err now later =>
    obtain ⟨-, rfl⟩ := settles_nil later
    exact once a err _ _ now

section Responses

variable (err : LocationError)

theorem answersOnce_reporter {response : LocApiResponse Client} (reporter : response.reporter = some key)
    (request : LocApiRequest) : AnswersOnce key [.request request (some response)] := by
  refine answersOnce_request request fun a err => ?_
  rw [emitted_reporter err reporter]
  exact answersOnce_report err

/-- A multiplexer and the report that it leaves to its caller. -/
theorem answersOnce_multiplexes {quiet : Prop} {result : Bool} {outputs : List (Output Client)}
    {asks : LocApiRequest → LocApiResponse Client → Prop} (multiplexes : Multiplexes key a quiet result outputs asks)
    (reporter : ∀ request response, asks request response → response.reporter = some key) (a' : GnssAdapter Client) :
    AnswersOnce key (outputs ++ (reportNoWait key result).emitted a') := by
  cases multiplexes with
  | nothing _ report silent =>
    rw [silent, report]
    exact answersOnce_report .success
  | reported _ told reports =>
    rw [told, reports]
    exact answersOnce_report .success
  | asked request response told sent isAsked =>
    rw [told, sent]
    exact answersOnce_reporter (reporter request response isAsked) request

theorem answersOnce_startTimeBased (a : GnssAdapter Client) (options : TrackingOptions) :
    AnswersOnce key ((startTimeBased key options).emitted a) := by
  obtain ⟨-, multiplexes⟩ : SameSessions a _ ∧ _ := startTimeBasedTrackingMultiplex_cases key options
  rw [startTimeBased, Emit.emitted_bind, Emit.emitted_bind]
  refine answersOnce_multiplexes multiplexes (fun request response asked => ?_) _
  rw [asked.1]
  rfl

theorem answersOnce_switchToTime (options : TrackingOptions) (request : LocApiRequest) :
    AnswersOnce key [.request request (some (.switchToTime key options))] :=
  answersOnce_request request fun a _ => answersOnce_startTimeBased a options

end Responses

section Commands

/-- The multiplexer of a stop, followed by the report that is left. -/
theorem answersOnce_stopMultiplex (a a' : GnssAdapter Client) :
    AnswersOnce key ((stopTimeBasedTrackingMultiplex key).emitted a ++
      (reportNoWait key ((stopTimeBasedTrackingMultiplex key).result a)).emitted a') := by
  obtain ⟨-, multiplexes⟩ : SameSessions a _ ∧ _ := stopTimeBasedTrackingMultiplex_cases key
  refine answersOnce_multiplexes multiplexes (fun request response asked => ?_) a'
  obtain ⟨-, rfl, -⟩ | ⟨-, rfl, -⟩ := asked <;> rfl

/-- A distance-based session that stays so is reported to exactly when it is stopped. -/
theorem restart_answered (options : TrackingOptions) {results : List (LocApiRequest × LocationError)} {n : ℕ}
    (settles : Settles key
      [.request (.stopDistanceBasedTracking key.id) (some (.restartDistance key options))] results n) :
    n = 1 ↔ ¬ ∃ err, err ≠ .success ∧ (.stopDistanceBasedTracking key.id, err) ∈ results := by
  cases settles with
  | answered _ _ _ err now later =>
    obtain ⟨rfl, rfl⟩ := settles_nil later
    by_cases stopped : err = .success
    · rw [LocApiResponse.proc, if_pos stopped, Emit.emitted_emit] at now
      have once := answersOnce_reporter rfl _ _ _ now
      cases now with
      | answered _ _ _ _ reported done =>
        rw [emitted_reporter _ rfl] at reported
        cases reported with
        | report _ _ nothing =>
          obtain ⟨rfl, -⟩ := settles_nil nothing
          obtain ⟨rfl, -⟩ := settles_nil done
          refine iff_of_true once ?_
          rintro ⟨err', failed, member⟩
          simp only [List.append_nil, List.mem_cons, Prod.mk.injEq, true_and, reduceCtorEq, false_and, List.not_mem_nil,
            or_false] at member
          exact failed (member.trans stopped)
    · rw [LocApiResponse.proc, if_neg stopped] at now
      obtain ⟨rfl, rfl⟩ := settles_nil now
      exact iff_of_false Nat.zero_ne_one (not_not.mpr ⟨err, stopped, List.mem_cons_self⟩)

/-- A command that does not wait is answered once unless it is one of those that are not. -/
theorem runs_answered {command : Command Client} {p : AdapterM Client Unit} (runs : Runs a command p)
    (ready : command.waits a = false) {results : List (LocApiRequest × LocationError)} {n : ℕ}
    (settles : Settles command.key (p.emitted a) results n) : n = 1 ↔ ¬ command.Unanswered a results := by
  cases runs with
  | wait waits =>
    rw [ready] at waits
    cases waits
  | startIgnored ignored =>
    obtain ⟨-, rfl⟩ := settles_nil settles
    exact iff_of_false Nat.zero_ne_one (not_not.mpr ignored)
  | startDistance callbacks sized distance supported =>
    have answered := callbacks.trans_ne Bool.false_ne_true.symm
    exact iff_of_true (answersOnce_reporter rfl _ _ _ settles) fun unanswered => unanswered.elim answered sized
  | startTime callbacks sized time =>
    have answered := callbacks.trans_ne Bool.false_ne_true.symm
    exact iff_of_true (answersOnce_startTimeBased a _ _ _ settles) fun unanswered => unanswered.elim answered sized
  | updateRefused err refused =>
    refine iff_of_true (answersOnce_report err _ _ settles) fun unanswered => ?_
    obtain ⟨-, held, sized, -⟩ := unanswered
    exact refused.elim (fun unknown => unknown.2 held) sized
  | updateToDistance waits held sized distance =>
    refine iff_of_true ?_ fun unanswered => unanswered.1 held
    simp only [switchToDistance, Emit.emitted_bind, erase, save, Emit.emitted_modify, List.nil_append,
      ← List.append_assoc] at settles
    obtain ⟨_, _, m, m', first, second, -, rfl⟩ := settles_append settles
    rw [answersOnce_stopMultiplex a _ _ _ first, settles_ignore second]
  | updateToTime held sized time =>
    refine iff_of_true (answersOnce_switchToTime _ _ _ _ settles) fun unanswered => ?_
    exact unanswered.2.2.2.1.ne' time
  | updateTime held other sized time =>
    refine iff_of_true ?_ fun unanswered => unanswered.1 held
    obtain ⟨-, multiplexes⟩ : SameSessions a _ ∧ _ := updateTrackingMultiplex_cases _ _
    refine answersOnce_multiplexes multiplexes (fun request response asked => ?_) _ _ _ settles
    obtain ⟨⟨old, rfl, -⟩, -⟩ := asked
    rfl
  | updateDistance held other sized distance =>
    refine (restart_answered _ settles).trans (not_congr ⟨fun failed => ⟨other, held, sized, distance, failed⟩, ?_⟩)
    exact fun unanswered => unanswered.2.2.2.2
  | stopTime held => exact iff_of_true (answersOnce_stopMultiplex a _ _ _ settles) not_false
  | stopDistance held other => exact iff_of_true (answersOnce_reporter rfl _ _ _ settles) not_false
  | stopUnknown notTime notDistance => exact iff_of_true (answersOnce_report .idUnknown _ _ settles) not_false

/-- A command that waits is filed and nothing else is done. -/
theorem proc_of_waits {command : Command Client} (waits : command.waits a = true) :
    command.proc.emitted a = [] ∧ (command.proc.next a) = { a with pendingMsgs := a.pendingMsgs ++ [command] } := by
  cases command with
  | stopTracking => cases waits
  | startTracking key options =>
    rw [Command.waits] at waits
    rw [Command.proc, startTrackingProc, Emit.emitted_get_bind, Emit.next_get_bind, if_pos waits]
    exact ⟨rfl, rfl⟩
  | updateTracking key options =>
    rw [Command.waits] at waits
    simp only [Command.proc, updateTrackingProc, Emit.emitted_get_bind, Emit.next_get_bind, if_pos waits]
    exact ⟨rfl, rfl⟩

theorem waits_of_known (known : a.engineCapabilitiesKnown = true) (command : Command Client) :
    command.waits a = false := by
  cases command with
  | stopTracking => rfl
  | _ => rw [Command.waits, known, Bool.not_true, Bool.false_and]

end Commands

section Settling

/-- Outputs whose responses can each be settled can be settled. -/
theorem exists_settles_of {outputs : List (Output Client)}
    (each : ∀ request response, .request request (some response) ∈ outputs →
      ∃ a err results n, Settles key ((response.proc err).emitted a) results n) :
    ∃ results n, Settles key outputs results n := by
  induction outputs with
  | nil => exact ⟨[], 0, .nil⟩
  | cons output rest ih =>
    obtain ⟨results, n, later⟩ := ih fun request response member =>
      each request response (List.mem_cons_of_mem _ member)
    cases output with
    | reportResponse other err => exact ⟨results, _, .report other err later⟩
    | request request response =>
      cases response with
      | none => exact ⟨results, n, .unanswered request later⟩
      | some response =>
        obtain ⟨a, err, answers, m, now⟩ := each request response List.mem_cons_self
        exact ⟨_, _, .answered request response a err now later⟩

theorem exists_settles_reporter (a : GnssAdapter Client) {response : LocApiResponse Client}
    {other : LocationSessionKey Client}
    (reporter : response.reporter = some other) :
    ∃ a err results n, Settles key ((response.proc err).emitted a) results n := by
  have answered : Settles key [.reportResponse other .success] [] _ := .report other .success .nil
  rw [← emitted_reporter .success reporter] at answered
  exact ⟨a, .success, [], _, answered⟩

/-- Whatever is asked, the requests and those made on the way can all be answered. -/
theorem exists_settles (a : GnssAdapter Client) (outputs : List (Output Client)) :
    ∃ results n, Settles key outputs results n := by
  refine exists_settles_of fun request response _ => ?_
  cases response with
  | ignore => exact ⟨a, .success, [], 0, .nil⟩
  | restartDistance other options => exact ⟨a, .generalFailure, [], 0, .nil⟩
  | switchToTime other options =>
    refine ⟨a, .success, exists_settles_of fun request response member => ?_⟩
    obtain ⟨-, multiplexes⟩ : SameSessions a _ ∧ _ := startTimeBasedTrackingMultiplex_cases other options
    obtain ⟨rfl, -⟩ := multiplexes.asks_of_mem other member
    exact exists_settles_reporter a rfl
  | _ => exact exists_settles_reporter a rfl

end Settling

/-- A command is answered once, whatever the modem answers, exactly unless it is one of those that are not; if it
waits it is filed to be processed again. -/
theorem answered_once_iff (command : Command Client) (a later : GnssAdapter Client)
    (known : later.engineCapabilitiesKnown = true) :
    (command.waits a = true → (command.proc.next a).pendingMsgs = a.pendingMsgs ++ [command]) ∧
    (∃ results n, Settles command.key (command.outputs a later) results n) ∧
    ∀ results n, Settles command.key (command.outputs a later) results n →
      (n = 1 ↔ ¬ command.Unanswered (command.processed a later) results) := by
  refine ⟨fun waits => ?_, exists_settles a _, fun results n settles => ?_⟩
  · rw [(proc_of_waits waits).2]
  · rw [Command.outputs] at settles
    rw [Command.processed]
    cases waits : command.waits a with
    | true =>
      obtain ⟨p, runs, same⟩ := runs_proc later command
      rw [waits, if_pos rfl, (proc_of_waits waits).1, List.nil_append, Emit.emitted, same] at settles
      exact runs_answered runs (waits_of_known known command) settles
    | false =>
      obtain ⟨p, runs, same⟩ := runs_proc a command
      rw [waits, if_neg Bool.false_ne_true, List.append_nil, Emit.emitted, same] at settles
      exact runs_answered runs waits settles

/-- A distance-based start that comes before the capabilities of the engine are known. -/
theorem answered_once_iff_early :
    let command : Command ℕ := .startTracking ⟨0, 1⟩ { TrackingOptions.zero with size := 28, minDistance := 50 }
    let a : GnssAdapter ℕ := .initial (fun _ => some trackingCallbacks) true false false
    let later : GnssAdapter ℕ := .initial (fun _ => some trackingCallbacks) true true false
    (command.waits a = true → (command.proc.next a).pendingMsgs = a.pendingMsgs ++ [command]) ∧
    (∃ results n, Settles command.key (command.outputs a later) results n) ∧
    ∀ results n, Settles command.key (command.outputs a later) results n →
      (n = 1 ↔ ¬ command.Unanswered (command.processed a later) results) :=
  answered_once_iff _ _ _ rfl

/-- A start with options of size zero is never answered. -/
theorem start_unanswered :
    ¬ ∀ (command : Command ℕ) (a later : GnssAdapter ℕ) results n, (a.clientData command.key.client).isSome →
      later.engineCapabilitiesKnown = true → Settles command.key (command.outputs a later) results n → n = 1 := by
  intro always
  have once := always (.startTracking ⟨0, 1⟩ .zero) (.initial (fun _ => some trackingCallbacks) true true false)
    (.initial (fun _ => some trackingCallbacks) true true false) [] 0 rfl rfl .nil
  cases once

end Cypfr.Tracking
