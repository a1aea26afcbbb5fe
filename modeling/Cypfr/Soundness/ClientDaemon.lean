import Cypfr.Machine.Run
import Cypfr.Proofs.LocationClientApi

/-! # The daemon runs the session that its client keeps

However the calls of the users, the messages of both sides, the capabilities and restarts of the daemon interleave: once
a client and the daemon have taken all that is under way, the client is registered, and the daemon runs for it the
session that it keeps. Until then a start that waits makes up for the difference.
-/

namespace Cypfr.ClientApi

open Tracking HalDaemon Machine

/-- The session that the daemon is to run for a client. -/
def kept (mode : GnssSuplMode) (impl : LocationClientApiImpl) : Option TrackingOptions :=
  if impl.mSessionId ≠ 0 ∧ ¬ IsPassive impl.mLocationOptions then some (asked mode impl.mLocationOptions) else none

/-- Whether the client takes itself for registered once it has taken the message. -/
def Task.hears (registered : Bool) : Task → Bool
  | .capabilities => true
  | .halReady => false
  | _ => registered

/-- The message sends a registration. -/
def Task.registers : Task → Bool
  | .clientRegister => true
  | _ => false

/-- Until the client has heard of the last restart, it does not take itself for registered with a daemon that knows
it. -/
def Quiet (registered known : Bool) : List Task → Prop
  | [] => True
  | task :: rest =>
    (.halReady ∈ task :: rest → ¬ (registered = true ∧ known = true)) ∧
      Quiet (task.hears registered) (known || task.registers) rest

/-- The capabilities wait, and no later restart does. -/
def Tells : List Task → Prop
  | [] => False
  | task :: rest => Tells rest ∨ task = .capabilities ∧ .halReady ∉ rest

section Queues

variable {registered known : Bool} {tasks more : List Task}

theorem quiet_of_not_mem (heard : .halReady ∉ tasks) : Quiet registered known tasks := by
  induction tasks generalizing registered known with
  | nil => trivial
  | cons task rest ih =>
    exact ⟨fun waits => absurd waits heard, ih fun waits => heard (List.mem_cons_of_mem _ waits)⟩

theorem quiet_append (heard : .halReady ∉ more) (quiet : Quiet registered known tasks) :
    Quiet registered known (tasks ++ more) := by
  induction tasks generalizing registered known with
  | nil => exact quiet_of_not_mem heard
  | cons task rest ih =>
    refine ⟨fun waits => quiet.1 ?_, ih quiet.2⟩
    exact (List.mem_append.mp waits).resolve_right heard

theorem tells_append (heard : .halReady ∉ more) : Tells (tasks ++ more) ↔ Tells tasks ∨ Tells more := by
  induction tasks with
  | nil => exact (false_or _).symm.to_iff
  | cons task rest ih =>
    rw [List.cons_append, Tells, Tells, ih, List.mem_append, not_or, and_iff_left heard]
    exact or_right_comm

theorem tells_of_mem (waits : .capabilities ∈ tasks) (heard : .halReady ∉ tasks) : Tells tasks := by
  induction tasks with
  | nil => exact absurd waits List.not_mem_nil
  | cons task rest ih =>
    have later : .halReady ∉ rest := fun waits => heard (List.mem_cons_of_mem _ waits)
    rcases List.mem_cons.mp waits with rfl | waits
    · exact .inr ⟨rfl, later⟩
    · exact .inl (ih waits later)

theorem not_tells_append_halReady : ¬ Tells (tasks ++ [.halReady]) := by
  induction tasks with
  | nil => rintro (⟨⟨⟩⟩ | ⟨⟨⟩, -⟩)
  | cons task rest ih =>
    rintro (later | ⟨-, heard⟩)
    · exact ih later
    · exact heard (List.mem_append_right rest (List.mem_singleton_self _))

end Queues

section Effects

variable {impl impl' : LocationClientApiImpl} {task : Task} {sent : List ClientMsg} {posted : List Task}
  {mode : GnssSuplMode} {p : Peer}

theorem Effect.hears (effect : Effect impl task impl' sent posted) :
    impl'.mHalRegistered = task.hears impl.mHalRegistered := by
  cases effect with
  | start started => cases started with
    | kept deaf after | new _ _ after | updated _ _ _ after | same _ _ _ after => rw [after]; rfl
  | stop => rw [stopped]; split <;> rfl
  | functions _ _ plain | callbacks _ plain | listener _ plain | response _ _ plain => exact plain.registered
  | register | capabilities | halReady => rfl

/-- A client posts to itself a start or its registration only. -/
theorem Effect.not_mem_posted (effect : Effect impl task impl' sent posted) :
    .halReady ∉ posted ∧ .capabilities ∉ posted := by
  cases effect with
  | capabilities => split <;> exact ⟨by simp, by simp⟩
  | _ => exact ⟨by simp, by simp⟩

/-- The daemon knows the client once it has read its registration. -/
theorem Effect.registered (effect : Effect impl task impl' sent posted) :
    (sent.foldl (Peer.receive mode) p).registered = (p.registered || task.registers) := by
  have other {msg : ClientMsg} (different : msg ≠ .clientRegister) :
      (p.receive mode msg).registered = (p.registered || false) := by
    rw [Bool.or_false]
    cases unknown : p.registered with
    | false => rw [Peer.receive_stranger unknown different, unknown]
    | true => exact Peer.registered_receive unknown
  have none : ([].foldl (Peer.receive mode) p).registered = (p.registered || false) := (Bool.or_false _).symm
  have told (mask : UInt32) : ((if impl.mHalRegistered then [ClientMsg.updateCallbacks mask] else []).foldl
      (Peer.receive mode) p).registered = (p.registered || false) := by
    split
    · exact other (by rintro ⟨⟩)
    · exact none
  have plain {sent : List ClientMsg} (plain : Subscribes impl impl' sent) :
      (sent.foldl (Peer.receive mode) p).registered = (p.registered || false) := by
    rcases plain.told with ⟨rfl, -⟩ | rfl
    · exact none
    · exact told _
  cases effect with
  | start started =>
    cases started with
    | kept _ _ nothing | same _ _ _ _ nothing => rw [nothing]; exact none
    | new _ _ _ start =>
      rw [start]
      split
      · exact none
      · exact other (by rintro ⟨⟩)
    | updated _ _ _ _ update =>
      rw [update]
      split
      · exact other (by rintro ⟨⟩)
      · split <;> exact other (by rintro ⟨⟩)
  | stop =>
    split
    · exact other (by rintro ⟨⟩)
    · exact none
  | functions _ _ subscribes | callbacks _ subscribes | listener _ subscribes | response _ _ subscribes =>
    exact plain subscribes
  | register => rw [List.foldl_cons, Peer.receive_register]; exact (Bool.or_true _).symm
  | capabilities =>
    split
    · exact other (by rintro ⟨⟩)
    · exact none
  | halReady => exact none

theorem session_receive_updateCallbacks (mask : UInt32) : (p.receive mode (.updateCallbacks mask)).session =
    p.session := by
  cases p with
  | mk registered session mask => cases registered <;> rfl

theorem session_subscribes (plain : Subscribes impl impl' sent) :
    (sent.foldl (Peer.receive mode) p).session = p.session := by
  rcases plain.told with ⟨rfl, -⟩ | rfl
  · rfl
  · split
    · exact session_receive_updateCallbacks _
    · rfl

/-- Where the client is not registered, or the daemon does not know it, no session comes or goes. -/
theorem Effect.session (effect : Effect impl task impl' sent posted)
    (apart : ¬ (impl.mHalRegistered = true ∧ p.registered = true)) :
    (sent.foldl (Peer.receive mode) p).session = p.session := by
  have other {msg : ClientMsg} (registered : impl.mHalRegistered = true) (different : msg ≠ .clientRegister) :
      (p.receive mode msg).session = p.session := by
    have unknown : p.registered = false := Bool.eq_false_of_not_eq_true fun known => apart ⟨registered, known⟩
    rw [Peer.receive_stranger unknown different]
  cases effect with
  | start started =>
    cases started with
    | kept _ _ nothing | same _ _ _ _ nothing => rw [nothing]; rfl
    | new registered _ _ start =>
      rw [start]
      split
      · rfl
      · exact other registered (by rintro ⟨⟩)
    | updated registered _ _ _ update =>
      rw [update]
      split
      · exact other registered (by rintro ⟨⟩)
      · split <;> exact other registered (by rintro ⟨⟩)
  | stop =>
    split
    · next told => exact other told.2.1 (by rintro ⟨⟩)
    · rfl
  | functions _ _ plain | callbacks _ plain | listener _ plain | response _ _ plain => exact session_subscribes plain
  | register => rw [List.foldl_cons, Peer.receive_register]; rfl
  | capabilities =>
    split
    · exact session_receive_updateCallbacks _
    · rfl
  | halReady => rfl

end Effects

/-- The session is one that the client keeps, or one that a waiting start asks for. -/
def Agrees (mode : GnssSuplMode) (impl : LocationClientApiImpl) (tasks : List Task) (session : Option TrackingOptions) :
    Prop :=
  session = kept mode impl ∨ ∃ option : TrackingOptions, .startTracking option ∈ tasks ∧
    ¬ IsPassive option.toLocationOptions ∧ session = some (asked mode option.toLocationOptions)

/-- No change between passive options is taken while a start that is not passive waits. -/
def MayTake (impl : LocationClientApiImpl) : List Task → Prop
  | .startTracking option :: rest =>
    impl.mSessionId ≠ 0 ∧ IsPassive impl.mLocationOptions ∧ IsPassive option.toLocationOptions ∧
        IsOptionUpdated impl.mLocationOptions option.toLocationOptions →
      ∀ later : TrackingOptions, .startTracking later ∈ rest → IsPassive later.toLocationOptions
  | _ => True

section Agreement

variable {mode : GnssSuplMode} {impl impl' : LocationClientApiImpl} {task : Task} {rest : List Task}
  {option : TrackingOptions} {sent : List ClientMsg} {posted : List Task} {p : Peer}

theorem kept_of_idle (idle : impl.mSessionId = 0) : kept mode impl = none := if_neg fun runs => runs.1 idle

theorem kept_of_passive {options : LocationOptions} (has : impl.mLocationOptions = options)
    (passive : IsPassive options) :
    kept mode impl = none := by
  subst has
  exact if_neg fun runs => runs.2 passive

theorem kept_of_runs {options : LocationOptions} (runs : impl.mSessionId ≠ 0) (has : impl.mLocationOptions = options)
    (active : ¬ IsPassive options) : kept mode impl = some (asked mode options) := by
  subst has
  exact if_pos ⟨runs, active⟩

theorem kept_congr (session : impl'.mSessionId = impl.mSessionId)
    (options : impl'.mLocationOptions = impl.mLocationOptions) :
    kept mode impl' = kept mode impl := by rw [kept, kept, session, options]

/-- What a start that has been taken asked for is kept, or another start asks for the session. -/
theorem Agrees.taken (agrees : Agrees mode impl (.startTracking option :: rest) p.session)
    (same : ¬ IsPassive option.toLocationOptions → p.session = some (asked mode option.toLocationOptions) →
      p.session = kept mode impl') (before : p.session = kept mode impl → Agrees mode impl' rest p.session) :
    Agrees mode impl' rest p.session := by
  rcases agrees with keeps | ⟨other, waits, active, asks⟩
  · exact before keeps
  · rcases List.mem_cons.mp waits with found | later
    · obtain rfl := Task.startTracking.inj found
      exact .inl (same active asks)
    · exact .inr ⟨other, later, active, asks⟩

/-- A message that leaves the session alone leaves the agreement. -/
theorem Agrees.plain (agrees : Agrees mode impl (task :: rest) p.session) (plain : Subscribes impl impl' sent)
    (other : ∀ option, task ≠ .startTracking option) :
    Agrees mode impl' (rest ++ []) (sent.foldl (Peer.receive mode) p).session := by
  rw [session_subscribes plain, List.append_nil]
  rcases agrees with keeps | ⟨option, waits, active, asks⟩
  · exact .inl (keeps.trans (kept_congr plain.session plain.options).symm)
  · exact .inr ⟨option, (List.mem_cons.mp waits).resolve_left fun found => other option found.symm, active, asks⟩

/-- A start that the client takes while it is registered. -/
theorem Agrees.start (agrees : Agrees mode impl (.startTracking option :: rest) p.session)
    (started : Started impl option.toLocationOptions impl' sent) (registered : impl.mHalRegistered = true)
    (known : p.registered = true) (may : MayTake impl (.startTracking option :: rest)) :
    Agrees mode impl' rest (sent.foldl (Peer.receive mode) p).session := by
  obtain ⟨knows, session, mask⟩ := p
  dsimp only at known
  subst known
  cases started with
  | kept deaf => rw [registered] at deaf; cases deaf
  | new _ idle after start =>
    have runs : impl'.mSessionId ≠ 0 := by
      rw [after]
      exact impl.valid
    have options : impl'.mLocationOptions = option.toLocationOptions := by rw [after]
    rw [start]
    by_cases passive : IsPassive option.toLocationOptions
    · rw [if_pos passive]
      refine agrees.taken (fun active _ => absurd passive active) fun keeps => .inl ?_
      exact keeps.trans ((kept_of_idle idle).trans (kept_of_passive options passive).symm)
    · rw [if_neg passive]
      change Agrees mode impl' rest (some (session.getD _))
      cases session with
      | none => exact .inl (kept_of_runs runs options passive).symm
      | some running =>
        refine agrees.taken (fun _ asks => asks.trans (kept_of_runs runs options passive).symm) fun keeps => ?_
        exact absurd (keeps.trans (kept_of_idle idle)) (by rintro ⟨⟩)
  | updated _ runs changed after update =>
    have runs' : impl'.mSessionId ≠ 0 := by
      rw [after]
      exact runs
    have options : impl'.mLocationOptions = option.toLocationOptions := by rw [after]
    rw [update]
    by_cases passive : IsPassive option.toLocationOptions
    · by_cases was : IsPassive impl.mLocationOptions
      · rw [if_neg fun stops => stops.2 was, if_neg fun starts => starts.1 passive]
        have none : session = none := by
          rcases agrees with keeps | ⟨other, waits, active, -⟩
          · exact keeps.trans (kept_of_passive rfl was)
          · rcases List.mem_cons.mp waits with found | later
            · exact absurd (Task.startTracking.inj found ▸ passive) active
            · exact absurd (may ⟨runs, was, passive, changed⟩ other later) active
        subst none
        exact .inl (kept_of_passive options passive).symm
      · rw [if_pos ⟨passive, was⟩]
        exact .inl (kept_of_passive options passive).symm
    · by_cases was : IsPassive impl.mLocationOptions
      · rw [if_neg fun stops => passive stops.1, if_pos ⟨passive, was⟩]
        change Agrees mode impl' rest (some (session.getD _))
        cases session with
        | none => exact .inl (kept_of_runs runs' options passive).symm
        | some running =>
          refine agrees.taken (fun _ asks => asks.trans (kept_of_runs runs' options passive).symm) fun keeps => ?_
          exact absurd (keeps.trans (kept_of_passive rfl was)) (by rintro ⟨⟩)
      · rw [if_neg fun stops => passive stops.1, if_neg fun starts => was starts.2]
        change Agrees mode impl' rest (session.map _)
        have some : ∃ running, session = some running := by
          rcases agrees with keeps | ⟨other, -, -, asks⟩
          · exact ⟨_, keeps.trans (kept_of_runs runs rfl was)⟩
          · exact ⟨_, asks⟩
        obtain ⟨running, rfl⟩ := some
        exact .inl (kept_of_runs runs' options passive).symm
  | same _ runs unchanged after nothing =>
    rw [nothing, after]
    refine agrees.taken (fun active asks => ?_) .inl
    rw [asks, ← asked_congr unchanged]
    exact (kept_of_runs runs rfl (mt (isPassive_congr unchanged).mp active)).symm

/-- A message that the client takes while it is registered with a daemon that knows it. -/
theorem Agrees.proc (agrees : Agrees mode impl (task :: rest) p.session) (effect : Effect impl task impl' sent posted)
    (own : impl.mSessionId = 0 ∨ impl.mSessionId = impl.mClientId) (registered : impl.mHalRegistered = true)
    (known : p.registered = true) (may : MayTake impl (task :: rest)) :
    Agrees mode impl' (rest ++ posted) (sent.foldl (Peer.receive mode) p).session := by
  cases effect with
  | start started =>
    rw [List.append_nil]
    exact agrees.start started registered known may
  | stop =>
    rw [List.append_nil]
    have idle : (stopped impl).mSessionId = 0 := by
      rw [stopped]
      split <;> rfl
    by_cases told : Told impl
    · rw [if_pos told]
      obtain ⟨knows, session, mask⟩ := p
      dsimp only at known
      subst known
      exact .inl (kept_of_idle idle).symm
    · rw [if_neg told]
      rcases agrees with keeps | ⟨option, waits, active, asks⟩
      · refine .inl (keeps.trans ((if_neg ?_).trans (kept_of_idle idle).symm))
        rintro ⟨runs, active⟩
        exact told ⟨own.resolve_left runs, registered, active⟩
      · exact .inr ⟨option, (List.mem_cons.mp waits).resolve_left (by rintro ⟨⟩), active, asks⟩
  | functions _ _ plain | callbacks _ plain | listener _ plain | response _ _ plain =>
    exact agrees.plain plain (by rintro _ ⟨⟩)
  | register =>
    rw [List.append_nil, List.foldl_cons, Peer.receive_register]
    rcases agrees with keeps | ⟨option, waits, active, asks⟩
    · exact .inl keeps
    · exact .inr ⟨option, (List.mem_cons.mp waits).resolve_left (by rintro ⟨⟩), active, asks⟩
  | capabilities =>
    have same : ((if impl.mCallbacksMask ≠ 0 then [ClientMsg.updateCallbacks impl.mCallbacksMask] else []).foldl
        (Peer.receive mode) p).session = p.session := by
      split
      · exact session_receive_updateCallbacks _
      · rfl
    rw [same]
    rcases agrees with keeps | ⟨option, waits, active, asks⟩
    · by_cases runs : impl.mSessionId ≠ 0 ∧ ¬ IsPassive impl.mLocationOptions
      · have asks : kept mode impl = some (asked mode impl.mLocationOptions) := kept_of_runs runs.1 rfl runs.2
        refine .inr ⟨TrackingOptions.zero.setLocationOptions impl.mLocationOptions, ?_, runs.2, keeps.trans asks⟩
        rw [if_pos runs.1]
        exact List.mem_append_right rest (List.mem_singleton_self _)
      · exact .inl (keeps.trans (if_neg runs))
    · exact .inr ⟨option, List.mem_append_left _ ((List.mem_cons.mp waits).resolve_left (by rintro ⟨⟩)), active, asks⟩
  | halReady =>
    rcases agrees with keeps | ⟨option, waits, active, asks⟩
    · exact .inl keeps
    · exact .inr ⟨option, List.mem_append_left _ ((List.mem_cons.mp waits).resolve_left (by rintro ⟨⟩)), active, asks⟩

end Agreement

/-- What a client that takes itself for registered, the messages of its task, and the daemon once it has read what is
under way know of each other. -/
structure Aware (impl : LocationClientApiImpl) (tasks : List Task) (p : Peer) : Prop where
  quiet : Quiet impl.mHalRegistered p.registered tasks
  told : Tells tasks → p.registered = true
  known : impl.mHalRegistered = true → .halReady ∉ tasks → p.registered = true

namespace Aware

variable {mode : GnssSuplMode} {impl impl' : LocationClientApiImpl} {task : Task} {tasks rest more : List Task}
  {sent : List ClientMsg} {posted : List Task} {p : Peer}

/-- Where the client is registered after a message and no restart waits, none waited before. -/
theorem not_mem_of_effect (effect : Effect impl task impl' sent posted) (registered : impl'.mHalRegistered = true)
    (heard : .halReady ∉ rest ++ posted) : .halReady ∉ task :: rest := by
  intro waits
  rcases List.mem_cons.mp waits with rfl | later
  · rw [effect.hears] at registered
    cases registered
  · exact heard (List.mem_append_left _ later)

/-- Before a message that leaves the client registered with no restart to hear of, the daemon knows it. -/
theorem before (aware : Aware impl (task :: rest) p) (effect : Effect impl task impl' sent posted)
    (registered : impl'.mHalRegistered = true) (heard : .halReady ∉ rest ++ posted) : p.registered = true := by
  have absent := not_mem_of_effect effect registered heard
  rw [effect.hears] at registered
  cases task with
  | capabilities => exact aware.told (.inr ⟨rfl, fun later => absent (List.mem_cons_of_mem _ later)⟩)
  | halReady => cases registered
  | _ => exact aware.known registered absent

/-- The task of the client takes a message. -/
theorem proc (aware : Aware impl (task :: rest) p) (effect : Effect impl task impl' sent posted) :
    Aware impl' (rest ++ posted) (sent.foldl (Peer.receive mode) p) := by
  obtain ⟨calm, silent⟩ := effect.not_mem_posted
  have known (known : p.registered = true) : (sent.foldl (Peer.receive mode) p).registered = true := by
    rw [effect.registered, known]
    rfl
  refine ⟨?_, ?_, fun registered heard => known (aware.before effect registered heard)⟩
  · rw [effect.hears, effect.registered]
    exact quiet_append calm aware.quiet.2
  · intro tells
    rcases (tells_append calm).mp tells with later | own
    · exact known (aware.told (.inl later))
    · refine absurd own ?_
      cases effect with
      | capabilities =>
        split
        · rintro (⟨⟨⟩⟩ | ⟨⟨⟩, -⟩)
        · exact id
      | halReady => rintro (⟨⟨⟩⟩ | ⟨⟨⟩, -⟩)
      | _ => exact id

/-- Messages other than that of a restart come to the task. -/
theorem append (aware : Aware impl tasks p) (heard : .halReady ∉ more) (told : Tells more → p.registered = true) :
    Aware impl (tasks ++ more) p := by
  refine ⟨quiet_append heard aware.quiet, ?_, fun registered absent => aware.known registered ?_⟩
  · exact fun tells => ((tells_append heard).mp tells).elim aware.told told
  · exact fun waits => absent (List.mem_append_left _ waits)

/-- The daemon restarts: then no registration is to reach it while the client takes itself for registered. -/
theorem restart (may : Quiet impl.mHalRegistered false (tasks ++ [.halReady])) :
    Aware impl (tasks ++ [.halReady]) .stranger := by
  have waits : Task.halReady ∈ tasks ++ [.halReady] := List.mem_append_right _ (List.mem_singleton_self _)
  exact ⟨may, fun tells => absurd tells not_tells_append_halReady, fun _ heard => absurd waits heard⟩

end Aware

/-- What holds of a client, the messages of its task, and the daemon once it has read what is under way. -/
structure Consistent (mode : GnssSuplMode) (impl : LocationClientApiImpl) (tasks : List Task) (p : Peer) : Prop where
  own : impl.mSessionId = 0 ∨ impl.mSessionId = impl.mClientId
  deaf : p.session ≠ none → impl.mHalRegistered = true ∧ .halReady ∉ tasks ∧ p.registered = true
  agrees : impl.mHalRegistered = true → .halReady ∉ tasks → Agrees mode impl tasks p.session

namespace Consistent

variable {mode : GnssSuplMode} {impl impl' : LocationClientApiImpl} {task : Task} {tasks rest more : List Task}
  {sent : List ClientMsg} {posted : List Task} {p : Peer}

/-- The task of the client takes a message. -/
theorem proc (consistent : Consistent mode impl (task :: rest) p) (aware : Aware impl (task :: rest) p)
    (effect : Effect impl task impl' sent posted) (may : MayTake impl (task :: rest)) :
    Consistent mode impl' (rest ++ posted) (sent.foldl (Peer.receive mode) p) := by
  obtain ⟨calm, silent⟩ := effect.not_mem_posted
  refine ⟨?_, ?_, ?_⟩
  · cases effect with
    | start started =>
      cases started with
      | kept _ after | new _ _ after => rw [after]; exact .inr rfl
      | updated _ _ _ after | same _ _ _ after => rw [after]; exact consistent.own
    | stop => rw [stopped]; split <;> exact .inl rfl
    | functions _ _ plain | callbacks _ plain | listener _ plain | response _ _ plain =>
      rw [plain.session, plain.client]
      exact consistent.own
    | register | halReady => exact consistent.own
    | capabilities => exact .inl rfl
  · intro runs
    by_cases together : impl.mHalRegistered = true ∧ p.registered = true
    · have heard : .halReady ∉ task :: rest := fun waits => aware.quiet.1 waits together
      refine ⟨?_, ?_, ?_⟩
      · rw [effect.hears, together.1]
        cases task with
        | halReady => exact absurd List.mem_cons_self heard
        | _ => rfl
      · exact fun waits => (List.mem_append.mp waits).elim (fun later => heard (List.mem_cons_of_mem _ later)) calm
      · rw [effect.registered, together.2]
        rfl
    · rw [effect.session together] at runs
      obtain ⟨registered, -, known⟩ := consistent.deaf runs
      exact absurd ⟨registered, known⟩ together
  · intro registered heard
    by_cases before : impl.mHalRegistered = true
    · have absent := Aware.not_mem_of_effect effect registered heard
      exact (consistent.agrees before absent).proc effect consistent.own before
        (aware.before effect registered heard) may
    · have absent : p.session = none := by
        by_contra runs
        exact before (consistent.deaf runs).1
      have apart : ¬ (impl.mHalRegistered = true ∧ p.registered = true) := fun together => before together.1
      have still : (sent.foldl (Peer.receive mode) p).session = none := (effect.session apart).trans absent
      rw [effect.hears] at registered
      cases task with
      | capabilities => cases effect; exact .inl (still.trans (kept_of_idle rfl).symm)
      | halReady => cases registered
      | _ => exact absurd registered before

/-- Messages other than that of a restart come to the task. -/
theorem append (consistent : Consistent mode impl tasks p) (heard : .halReady ∉ more) :
    Consistent mode impl (tasks ++ more) p := by
  refine ⟨consistent.own, ?_, ?_⟩
  · intro runs
    obtain ⟨registered, absent, known⟩ := consistent.deaf runs
    exact ⟨registered, fun waits => (List.mem_append.mp waits).elim absent heard, known⟩
  · intro registered absent
    refine (consistent.agrees registered fun waits => absent (List.mem_append_left _ waits)).imp id ?_
    rintro ⟨option, waits, active, asks⟩
    exact ⟨option, List.mem_append_left _ waits, active, asks⟩

theorem restart (consistent : Consistent mode impl tasks p) :
    Consistent mode impl (tasks ++ [.halReady]) .stranger := by
  have waits : Task.halReady ∈ tasks ++ [.halReady] := List.mem_append_right _ (List.mem_singleton_self _)
  exact ⟨consistent.own, fun runs => absurd rfl runs, fun _ heard => absurd waits heard⟩

end Consistent

/-- The client has registered, is about to, or is to hear that the daemon has restarted; a handler that is new is owed
the capabilities until they wait for the client. -/
structure Connected (l : Link) : Prop where
  owed : l.owed = true → l.peer.registered = true
  told : l.peer.registered = true →
    l.impl.mHalRegistered = true ∧ .halReady ∉ l.tasks ∨ l.owed = true ∨ Tells l.tasks
  reaches : l.impl.mHalRegistered = false →
    .halReady ∈ l.tasks ∨ .clientRegister ∈ l.tasks ∨ .clientRegister ∈ l.toDaemon ∨ l.peer.registered = true

namespace Connected

variable {mode : GnssSuplMode} {l : Link} {more : List Task}

theorem append (connected : Connected l) (heard : .halReady ∉ more) :
    Connected { l with tasks := l.tasks ++ more } := by
  refine ⟨connected.owed, fun known => ?_, fun deaf => ?_⟩
  · rcases connected.told known with ⟨registered, absent⟩ | owed | tells
    · exact .inl ⟨registered, fun waits => (List.mem_append.mp waits).elim absent heard⟩
    · exact .inr (.inl owed)
    · exact .inr (.inr ((tells_append heard).mpr (.inl tells)))
  · exact (connected.reaches deaf).imp (List.mem_append_left _) (Or.imp_left (List.mem_append_left _))

theorem proc (connected : Connected l) {task : Task} {rest : List Task} (head : l.tasks = task :: rest)
    {impl' : LocationClientApiImpl} {sent : List ClientMsg} {posted : List Task}
    (effect : Effect l.impl task impl' sent posted) :
    Connected { l with impl := impl', tasks := rest ++ posted, toDaemon := l.toDaemon ++ sent } := by
  obtain ⟨calm, -⟩ := effect.not_mem_posted
  have hears := effect.hears
  refine ⟨connected.owed, fun known => ?_, fun deaf => ?_⟩
  · have told := connected.told known
    rw [head] at told
    rcases told with ⟨registered, absent⟩ | owed | later | ⟨rfl, later⟩
    · have keeps : impl'.mHalRegistered = true := by
        rw [hears, registered]
        cases task with
        | halReady => exact absurd List.mem_cons_self absent
        | _ => rfl
      refine .inl ⟨keeps, fun waits => ?_⟩
      exact (List.mem_append.mp waits).elim (fun later => absent (List.mem_cons_of_mem _ later)) calm
    · exact .inr (.inl owed)
    · exact .inr (.inr ((tells_append calm).mpr (.inl later)))
    · refine .inl ⟨hears, fun waits => (List.mem_append.mp waits).elim later calm⟩
  · cases effect with
    | halReady => exact .inr (.inl (List.mem_append_right _ (List.mem_singleton_self _)))
    | register => exact .inr (.inr (.inl (List.mem_append_right _ (List.mem_singleton_self _))))
    | capabilities => cases deaf
    | _ =>
      have before := connected.reaches (hears.symm.trans deaf)
      rw [head] at before
      rcases before with waits | waits | under | known
      · exact .inl (List.mem_append_left _ ((List.mem_cons.mp waits).resolve_left (by rintro ⟨⟩)))
      · exact .inr (.inl (List.mem_append_left _ ((List.mem_cons.mp waits).resolve_left (by rintro ⟨⟩))))
      · exact .inr (.inr (.inl (List.mem_append_left _ under)))
      · exact .inr (.inr (.inr known))

theorem read (connected : Connected l) {msg : ClientMsg} {rest : List ClientMsg} (head : l.toDaemon = msg :: rest) :
    Connected { l with
      toDaemon := rest, peer := l.peer.receive mode msg
      owed := l.owed || (msg == .clientRegister && !l.peer.registered) } := by
  by_cases register : msg = .clientRegister
  · subst register
    rw [Peer.receive_register]
    refine ⟨fun _ => rfl, fun _ => ?_, fun _ => .inr (.inr (.inr rfl))⟩
    cases known : l.peer.registered with
    | true => exact (connected.told known).imp_right (Or.imp_left fun owed => by rw [owed]; rfl)
    | false => exact .inr (.inl (Bool.or_true _))
  · have same : (l.peer.receive mode msg).registered = l.peer.registered := by
      cases known : l.peer.registered with
      | true => exact Peer.registered_receive known
      | false => rw [Peer.receive_stranger known register, known]
    have quiet : (msg == ClientMsg.clientRegister && !l.peer.registered) = false := by
      rw [beq_eq_false_iff_ne.mpr register, Bool.false_and]
    rw [quiet, Bool.or_false]
    refine ⟨fun owed => same.trans (connected.owed owed), fun known => connected.told (same.symm.trans known), ?_⟩
    intro deaf
    have before := connected.reaches deaf
    rw [head] at before
    rcases before with waits | waits | under | known
    · exact .inl waits
    · exact .inr (.inl waits)
    · exact .inr (.inr (.inl ((List.mem_cons.mp under).resolve_left (Ne.symm register))))
    · exact .inr (.inr (.inr (same.trans known)))

/-- Each move keeps the client connected. -/
theorem move (connected : Connected l) (m : Move) : Connected (l.move mode m) := by
  cases m with
  | call c =>
    refine connected.append ?_
    cases c <;> exact (by intro waits; cases List.mem_singleton.mp waits)
  | proc =>
    cases head : l.tasks with
    | nil =>
      rw [Link.move_proc_nil head]
      exact connected
    | cons task rest =>
      rw [Link.move_proc_cons head]
      exact connected.proc head (proc_effect l.impl task)
  | read =>
    cases head : l.toDaemon with
    | nil =>
      rw [Link.move_read_nil head]
      exact connected
    | cons msg rest =>
      rw [Link.move_read_cons head]
      exact connected.read head
  | capabilities =>
    rw [Link.move]
    split
    · have appended : Connected { l with tasks := l.tasks ++ [.capabilities] } :=
        connected.append (by intro waits; cases List.mem_singleton.mp waits)
      have heard : Task.halReady ∉ [Task.capabilities] := by
        intro waits
        cases List.mem_singleton.mp waits
      refine ⟨(by rintro ⟨⟩), fun _ => .inr (.inr ((tells_append heard).mpr (.inr (.inr ⟨rfl, List.not_mem_nil⟩)))), ?_⟩
      exact appended.reaches
    · exact connected
  | answer responses =>
    refine connected.append fun waits => ?_
    obtain ⟨response, -, found⟩ := List.mem_map.mp waits
    cases found
  | restart => exact ⟨(by rintro ⟨⟩), (by rintro ⟨⟩), fun _ => .inl (List.mem_append_right _ (List.mem_singleton_self _))⟩
  | elsewhere => exact connected

end Connected

/-- At a restart no registration is to reach the daemon that is new from a client that takes itself for registered. -/
def Move.MayRestart (l : Link) : Move → Prop
  | .restart => Quiet l.impl.mHalRegistered false (l.tasks ++ [.halReady])
  | _ => True

/-- A passive session is not given other passive options while a start that is not passive waits. -/
def Move.MayProc (l : Link) : Move → Prop
  | .proc => MayTake l.impl l.tasks
  | _ => True

section Links

variable {mode : GnssSuplMode} {l : Link} {m : Move}

theorem Link.ahead_append (sent : List ClientMsg) (impl : LocationClientApiImpl) (tasks : List Task) :
    Link.ahead mode { l with impl := impl, tasks := tasks, toDaemon := l.toDaemon ++ sent } =
      sent.foldl (Peer.receive mode) (l.ahead mode) := List.foldl_append

theorem Link.ahead_read (mode : GnssSuplMode) (l : Link) :
    (l.move mode .read).ahead mode = l.ahead mode ∧ (l.move mode .read).tasks = l.tasks ∧
      (l.move mode .read).impl = l.impl := by
  cases head : l.toDaemon with
  | nil => rw [Link.move_read_nil head]; exact ⟨rfl, rfl, rfl⟩
  | cons msg rest =>
    rw [Link.move_read_cons head, Link.ahead, Link.ahead, head]
    exact ⟨rfl, rfl, rfl⟩

theorem not_mem_call (c : UserCall) : Task.halReady ∉ [c.task] ∧ ¬ Tells [c.task] := by
  cases c <;> exact ⟨(by intro waits; cases List.mem_singleton.mp waits), by rintro (⟨⟨⟩⟩ | ⟨⟨⟩, -⟩)⟩

theorem not_mem_answer (responses : List (ELocMsgID × LocationError)) :
    Task.halReady ∉ (responses.map fun r => Task.genericResp r.1 r.2) ∧
      ¬ Tells (responses.map fun r => Task.genericResp r.1 r.2) := by
  constructor
  · intro waits
    obtain ⟨response, -, found⟩ := List.mem_map.mp waits
    cases found
  · induction responses with
    | nil => exact id
    | cons response rest ih =>
      rintro (later | ⟨⟨⟩, -⟩)
      exact ih later

/-- Each move keeps a client aware, but for a restart that comes at the wrong time. -/
theorem Aware.move (aware : Aware l.impl l.tasks (l.ahead mode)) (may : m.MayRestart l) :
    Aware (l.move mode m).impl (l.move mode m).tasks ((l.move mode m).ahead mode) := by
  cases m with
  | call c => exact aware.append (not_mem_call c).1 fun tells => absurd tells (not_mem_call c).2
  | proc =>
    cases head : l.tasks with
    | nil =>
      rw [Link.move_proc_nil head]
      exact aware
    | cons task rest =>
      rw [Link.move_proc_cons head, Link.ahead_append]
      rw [head] at aware
      exact aware.proc (proc_effect l.impl task)
  | read =>
    obtain ⟨ahead, tasks, impl⟩ := Link.ahead_read mode l
    rw [ahead, tasks, impl]
    exact aware
  | capabilities =>
    rw [Link.move]
    split
    · next known =>
      exact aware.append (by intro waits; cases List.mem_singleton.mp waits) fun _ => Peer.registered_foldl known
    · exact aware
  | answer responses =>
    exact aware.append (not_mem_answer responses).1 fun tells => absurd tells (not_mem_answer responses).2
  | restart => exact Aware.restart may
  | elsewhere => exact aware

/-- Each move keeps what holds of the client and the daemon that is ahead, but for a start that comes at the wrong
time. -/
theorem Consistent.move (consistent : Consistent mode l.impl l.tasks (l.ahead mode))
    (aware : Aware l.impl l.tasks (l.ahead mode)) (may : m.MayProc l) :
    Consistent mode (l.move mode m).impl (l.move mode m).tasks ((l.move mode m).ahead mode) := by
  cases m with
  | call c => exact consistent.append (not_mem_call c).1
  | proc =>
    cases head : l.tasks with
    | nil =>
      rw [Link.move_proc_nil head]
      exact consistent
    | cons task rest =>
      rw [Link.move_proc_cons head, Link.ahead_append]
      rw [head] at consistent aware
      have may : MayTake l.impl (task :: rest) := head ▸ may
      exact consistent.proc aware (proc_effect l.impl task) may
  | read =>
    obtain ⟨ahead, tasks, impl⟩ := Link.ahead_read mode l
    rw [ahead, tasks, impl]
    exact consistent
  | capabilities =>
    rw [Link.move]
    split
    · exact consistent.append (by intro waits; cases List.mem_singleton.mp waits)
    · exact consistent
  | answer responses => exact consistent.append (not_mem_answer responses).1
  | restart => exact consistent.restart
  | elsewhere => exact consistent

end Links

namespace System

variable {Client : Type} [DecidableEq Client] {mode : GnssSuplMode} {clientId : Client → ValidId} {s : System Client}
  {events : List (Event Client)} {client : Client}

/-- No client is in the midst of registering when the daemon restarts. -/
def MayRestart (s : System Client) (e : Event Client) : Prop :=
  ∀ client, (s.moveOf client e).MayRestart (s.link client)

/-- A step that the agreement allows, for every client. -/
def Calm (s : System Client) (e : Event Client) : Prop :=
  s.MayRestart e ∧ ∀ client, (s.moveOf client e).MayProc (s.link client)

/-- All that is under way between a client and the daemon has been taken. -/
structure Settled (s : System Client) (client : Client) : Prop where
  tasks : s.tasks client = []
  toDaemon : s.toDaemon client = []
  owed : s.owed client = false

/-- What holds of all clients in every run whose steps are calm. -/
structure Sound (mode : GnssSuplMode) (s : System Client) : Prop where
  positionMode : s.service.mPositionMode = mode
  served : ∀ client, s.Served client
  connected : ∀ client, Connected (s.link client)
  aware : ∀ client, Aware (s.link client).impl (s.link client).tasks ((s.link client).ahead mode)
  consistent : ∀ client, Consistent mode (s.link client).impl (s.link client).tasks ((s.link client).ahead mode)

theorem aware_initial : Aware ((initial mode clientId).link client).impl ((initial mode clientId).link client).tasks
    (((initial mode clientId).link client).ahead mode) := by
  refine ⟨quiet_of_not_mem (by intro waits; cases List.mem_singleton.mp waits), ?_, (by rintro ⟨⟩)⟩
  rintro (⟨⟨⟩⟩ | ⟨⟨⟩, -⟩)

theorem sound_initial : Sound mode (initial mode clientId) := by
  refine ⟨rfl, fun _ => rfl, fun client => ⟨(by rintro ⟨⟩), (by rintro ⟨⟩), fun _ => .inr (.inl (List.mem_singleton_self _))⟩,
    fun _ => aware_initial, fun client => ⟨.inl rfl, fun runs => absurd rfl runs, (by rintro ⟨⟩)⟩⟩

theorem Sound.step (sound : Sound mode s) (e : Event Client) (calm : s.Calm e) : Sound mode (s.step e) := by
  have moves := fun client => (step_link e sound.served client).2
  rw [sound.positionMode] at moves
  refine ⟨(mPositionMode_step e).trans sound.positionMode, fun client => (step_link e sound.served client).1,
    fun client => ?_, fun client => ?_, fun client => ?_⟩
  · rw [moves client]
    exact (sound.connected client).move _
  · rw [moves client]
    exact (sound.aware client).move (calm.1 client)
  · rw [moves client]
    exact (sound.consistent client).move (sound.aware client) (calm.2 client)

/-- In every run whose steps are calm: once all that is under way between a client and the daemon has been taken, the
client is registered, and the daemon has a handler for it, which runs exactly the session that the client keeps. -/
theorem daemon_runs_kept_session (calm : EachStep System.step Calm (initial mode clientId) events)
    (settled : (events.foldl System.step (initial mode clientId)).Settled client) :
    ((events.foldl System.step (initial mode clientId)).impl client).mHalRegistered = true ∧
      ∃ h, (events.foldl System.step (initial mode clientId)).service.getClient client = some h ∧
        Tied h ((events.foldl System.step (initial mode clientId)).session client) ∧
        ((events.foldl System.step (initial mode clientId)).session client).map sized =
          kept mode ((events.foldl System.step (initial mode clientId)).impl client) := by
  have sound : Sound mode (events.foldl System.step (initial mode clientId)) :=
    throughout_of_eachStep sound_initial (fun s e sound calm => sound.step e calm) calm events List.prefix_rfl
  generalize events.foldl System.step (initial mode clientId) = s at settled sound
  obtain ⟨tasks, toDaemon, owed⟩ := settled
  have connected := sound.connected client
  have consistent := sound.consistent client
  have aware := sound.aware client
  have none {task : Task} : task ∉ (s.link client).tasks := by
    rw [link, tasks]
    exact List.not_mem_nil
  have registered : (s.impl client).mHalRegistered = true := by
    by_contra deaf
    rcases connected.reaches (Bool.eq_false_of_not_eq_true deaf) with waits | waits | under | known
    · exact none waits
    · exact none waits
    · rw [link, toDaemon] at under
      exact List.not_mem_nil under
    · rcases connected.told known with ⟨registered, -⟩ | due | tells
      · exact deaf registered
      · exact Bool.false_ne_true (owed.symm.trans due)
      · rw [link, tasks] at tells
        exact tells
  have ahead : (s.link client).ahead mode = s.peer client := by
    rw [Link.ahead, link, toDaemon]
    rfl
  rw [ahead] at consistent aware
  have known := aware.known registered none
  obtain ⟨h, present⟩ := Option.isSome_iff_exists.mp (registered_peer.symm.trans known)
  have tied := sound.served client
  rw [Served, present, Option.elim_some] at tied
  refine ⟨registered, h, present, tied, ?_⟩
  rcases consistent.agrees registered none with keeps | ⟨option, waits, -⟩
  · rw [peer_of_some present] at keeps
    exact keeps
  · exact absurd waits none

theorem seven_ne_zero : (7 : UInt32) ≠ 0 := by decide

/-- A client starts a session and the daemon restarts. -/
def restarted : List (Event Unit) :=
  let id : ValidId := ⟨7, seven_ne_zero⟩
  [.proc (), .read () id, .capabilities (), .proc (), .call () (.startTracking (every 1000)), .proc (), .read () id,
    .restart, .proc (), .proc (), .read () id, .capabilities (), .proc (), .proc (), .read () id]

theorem daemon_runs_kept_session_restarted :
    ((restarted.foldl System.step (initial .msb fun _ => ⟨1, by decide⟩)).session ()).map sized =
      some (asked .msb (every 1000).toLocationOptions) := by
  have calm : EachStep System.step Calm (initial .msb fun _ => ⟨1, by decide⟩) restarted := by
    iterate 5 refine eachStep_cons ⟨fun _ => trivial, fun _ => trivial⟩ ?_
    refine eachStep_cons ⟨fun _ => trivial, fun _ update => absurd rfl update.1⟩ ?_
    refine eachStep_cons ⟨fun _ => trivial, fun _ => trivial⟩ ?_
    refine eachStep_cons ⟨fun _ => ⟨fun _ together => Bool.false_ne_true together.2, trivial⟩, fun _ => trivial⟩ ?_
    iterate 5 refine eachStep_cons ⟨fun _ => trivial, fun _ => trivial⟩ ?_
    refine eachStep_cons ⟨fun _ => trivial, fun _ update => absurd rfl update.1⟩ ?_
    exact eachStep_cons ⟨fun _ => trivial, fun _ => trivial⟩ eachStep_nil
  exact (daemon_runs_kept_session calm ⟨rfl, rfl, rfl⟩).2.choose_spec.2.2

end System

end Cypfr.ClientApi
