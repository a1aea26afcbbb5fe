import Cypfr.Machine.Run
import Cypfr.Proofs.BatchingReplies
import Mathlib.Data.List.Perm.Basic

/-! # The replies to a batching command

A command that is not accepted gets no reply, and one that stops a session to start it again gets two. A command is
followed from its message to the last answer of the modem, whatever else happens to the adapter meanwhile.
-/

namespace Cypfr.Batching

open Machine Tracking

/-- What comes next for a command: its message is processed, the modem answers one of its requests, or other messages
leave the adapter in another state. -/
inductive Turn (Client : Type) [LinearOrder Client] where
  | proc
  | answer (index : ℕ) (err : LocationError) (data : LocApiBatchData)
  | meanwhile (adapter : BatchingAdapter Client)

/-- The adapter with the requests of one command, and the command as long as it is not processed. -/
structure Conversation (Client : Type) [LinearOrder Client] where
  session : BatchingSession Client
  deferred : Option (BatchingCommand Client)

namespace Conversation

variable {Client : Type} [LinearOrder Client] {c : Conversation Client} {command : BatchingCommand Client}
  {key : LocationSessionKey Client}

/-- A command is sent. -/
def start (adapter : BatchingAdapter Client) (command : BatchingCommand Client) : Conversation Client :=
  ⟨.start adapter, some command⟩

/-- A message that is processed before the capabilities are known is sent again. -/
def step (c : Conversation Client) : Turn Client → Conversation Client
  | .proc =>
    match c.deferred with
    | none => c
    | some command =>
      { session := c.session.step (.command command)
        deferred := if c.session.adapter.engineCapabilitiesKnown then none else some command }
  | .answer index err data => { c with session := c.session.step (.answer index err data) }
  | .meanwhile adapter => { c with session := { c.session with adapter } }

/-- The command is processed and all its requests are answered. -/
def Finished (c : Conversation Client) : Prop := c.deferred = none ∧ c.session.outstanding = []

/-- The replies to a session. -/
def replies (key : LocationSessionKey Client) (c : Conversation Client) : ℕ :=
  c.session.log.countP (BatchingOutput.repliesTo key)

/-- The condition on an answer: a session that is to start again fails to stop; a trip that is stopped is still one. -/
def MayReply (a : BatchingAdapter Client) (err : LocationError) : BatchingResponse Client → Prop
  | .stopped _ _ _ restartNeeded _ => restartNeeded = true → err ≠ .success
  | .tripStopped _ sessionId _ _ => sessionId ∈ a.mTripSessions
  | _ => True

/-- The condition on a turn: the command is accepted when it is processed, and each answer meets its condition. -/
def MayTurn (c : Conversation Client) : Turn Client → Prop
  | .proc => ∀ command, c.deferred = some command → c.session.adapter.engineCapabilitiesKnown = true →
    command.Accepted c.session.adapter
  | .answer index err _ => ∀ sent response, c.session.outstanding[index]? = some (sent, response) →
    MayReply c.session.adapter err response
  | .meanwhile _ => True

/-- The replies to a session that its requests still owe. -/
def owed (key : LocationSessionKey Client) (s : BatchingSession Client) : ℕ :=
  (s.outstanding.map fun awaited => awaited.2.owes key).sum

/-- The replies that were made, that are owed, and one for a command that is not processed. -/
def promised (key : LocationSessionKey Client) (c : Conversation Client) : ℕ :=
  (if c.deferred.isSome then 1 else 0) + (c.replies key + owed key c.session)

theorem promised_of_finished (finished : c.Finished) : c.promised key = c.replies key := by
  obtain ⟨processed, answered⟩ := finished
  rw [promised, processed, owed, answered]
  exact Nat.zero_add _

/-- What a program adds is what it makes and owes. -/
theorem replies_after (key : LocationSessionKey Client) (s : BatchingSession Client) (p : BatchingM Client Unit) :
    (s.after p).log.countP (BatchingOutput.repliesTo key) + owed key (s.after p) =
      s.log.countP (BatchingOutput.repliesTo key) + owed key s + p.total (BatchingOutput.credit key) s.adapter := by
  have credit := sum_credit key (p.emitted s.adapter)
  rw [owed, owed, BatchingSession.after, Emit.total, List.countP_append, List.map_append, List.sum_append]
  omega

/-- An answer takes a request away and adds what its function makes and owes. -/
theorem replies_answer (key : LocationSessionKey Client) {s : BatchingSession Client} {index : ℕ}
    {sent : BatchingRequest}
    {response : BatchingResponse Client} (waits : s.outstanding[index]? = some (sent, response)) (err : LocationError)
    (data : LocApiBatchData) :
    (s.step (.answer index err data)).log.countP (BatchingOutput.repliesTo key) +
        owed key (s.step (.answer index err data)) + response.owes key =
      s.log.countP (BatchingOutput.repliesTo key) + owed key s +
        (response.proc err data).total (BatchingOutput.credit key) s.adapter := by
  let rest : BatchingSession Client := { s with outstanding := s.outstanding.eraseIdx index }
  have step : s.step (.answer index err data) = rest.after (response.proc err data) := by
    rw [BatchingSession.step, waits]
  have whole : owed key s = response.owes key + owed key rest := by
    obtain ⟨within, same⟩ := List.getElem?_eq_some_iff.mp waits
    have perm := (List.getElem_cons_eraseIdx_perm within).map fun awaited => awaited.2.owes key
    rw [same] at perm
    exact perm.sum_nat.symm
  have added := replies_after key rest (response.proc err data)
  have sameLog : rest.log = s.log := rfl
  have sameAdapter : rest.adapter = s.adapter := rfl
  rw [sameLog, sameAdapter] at added
  rw [step, whole]
  omega

/-- How far a command has come: it is not processed; it waits for a session to stop; or it waits for nothing that stops
one. -/
def Phase (command : BatchingCommand Client) (c : Conversation Client) : Prop :=
  c.deferred = some command ∧ c.session.outstanding = [] ∧ c.replies command.key = 0 ∨
    c.deferred = none ∧
      ((∃ sent response, c.session.outstanding = [(sent, response)] ∧ response.StopsFor command.key ∧
          c.replies command.key = 0) ∨
        ∀ awaited ∈ c.session.outstanding, awaited.2.stops = false)

theorem phase_start (adapter : BatchingAdapter Client) (command : BatchingCommand Client) :
    (start adapter command).Phase command := .inl ⟨rfl, rfl, rfl⟩

/-- The answer to a stop is the only reply exactly when it was to be the only one and meets its condition. -/
theorem total_stops_iff {response : BatchingResponse Client} (a : BatchingAdapter Client) (err : LocationError)
    (data : LocApiBatchData) (stops : response.StopsFor key) :
    (response.proc err data).total (BatchingOutput.credit key) a = 1 ↔
      response.owes key = 1 ∧ MayReply a err response := by
  cases response with
  | stopped client sessionId flpOptions restartNeeded options =>
    obtain ⟨rfl, valid⟩ := stops
    have owes : (BatchingResponse.stopped client sessionId flpOptions restartNeeded options).owes ⟨client, sessionId⟩ =
      1 :=
      if_pos rfl
    rw [total_stopped valid, if_pos rfl, owes, MayReply]
    by_cases success : err = .success <;> cases restartNeeded <;> simp [success]
  | tripStopped client sessionId restartNeeded options =>
    obtain ⟨rfl, valid⟩ := stops
    obtain ⟨a', same, total⟩ := total_tripStopped ⟨client, sessionId⟩ a client sessionId restartNeeded options
    rw [total, BatchingResponse.owes, if_pos rfl, MayReply]
    by_cases known : sessionId ∈ a.mTripSessions
    · rw [total_stopTripBatchingMultiplexCommon (by rwa [same]) valid, if_pos rfl]
      exact (and_iff_left known).symm
    · rw [total_stopTripBatchingMultiplexCommon_of_notMem (by rwa [same])]
      exact iff_of_false Nat.zero_ne_one fun both => known both.2
  | _ => cases stops

theorem command_unknown {a : BatchingAdapter Client} (unknown : a.engineCapabilitiesKnown = false) :
    command.proc.emitted a = [] := by
  rw [BatchingCommand.proc, Emit.emitted_get_bind, unknown]
  rfl

theorem step_proc (deferred : c.deferred = some command) : c.step .proc =
    { session := c.session.step (.command command)
      deferred := if c.session.adapter.engineCapabilitiesKnown then none else some command } := by
  rw [step, deferred]

/-- The turn in which a command is processed. -/
theorem phase_proc (deferred : c.deferred = some command) (idle : c.session.outstanding = [])
    (silent : c.replies command.key = 0) : (c.step .proc).Phase command := by
  rw [step_proc deferred]
  rw [replies] at silent
  cases known : c.session.adapter.engineCapabilitiesKnown with
  | false =>
    left
    rw [replies, BatchingSession.step, BatchingSession.after, command_unknown known, idle]
    exact ⟨rfl, rfl, by rw [List.append_nil, silent]⟩
  | true =>
    right
    refine ⟨rfl, ?_⟩
    rw [replies, BatchingSession.step, BatchingSession.after, idle, List.nil_append]
    rcases command_asks (a := c.session.adapter) command with none | ⟨sent, response, emitted, stops⟩
    · exact .inr none
    · left
      rw [emitted]
      exact ⟨sent, response, rfl, stops, by rw [List.countP_append, silent]; rfl⟩

theorem promised_proc_iff (deferred : c.deferred = some command) (idle : c.session.outstanding = [])
    (silent : c.replies command.key = 0) :
    (c.step .proc).promised command.key = 1 ↔ c.promised command.key = 1 ∧ c.MayTurn .proc := by
  have before : c.promised command.key = 1 := by
    rw [promised, deferred, silent, owed, idle]
    rfl
  have added := replies_after command.key c.session command.proc
  rw [replies] at silent
  rw [silent, owed, owed, idle, List.map_nil, List.sum_nil] at added
  rw [and_iff_right before, step_proc deferred, promised, replies, MayTurn, deferred, BatchingSession.step, owed, added]
  cases known : c.session.adapter.engineCapabilitiesKnown with
  | false =>
    have none : command.proc.total (BatchingOutput.credit command.key) c.session.adapter = 0 := by
      rw [Emit.total, command_unknown known]
      rfl
    rw [none]
    exact iff_of_true rfl fun _ _ isKnown => absurd isKnown Bool.false_ne_true
  | true =>
    have total : (if (if true = true then none else some command : Option (BatchingCommand Client)).isSome then
      1 else 0) +
        (0 + 0 + command.proc.total (BatchingOutput.credit command.key) c.session.adapter) =
        command.proc.total (BatchingOutput.credit command.key) c.session.adapter := by
      simp
    rw [total, total_command_iff command known]
    simp

theorem phase_step (phase : c.Phase command) (turn : Turn Client) : (c.step turn).Phase command := by
  cases turn with
  | proc =>
    rcases phase with ⟨deferred, idle, silent⟩ | ⟨processed, rest⟩
    · exact phase_proc deferred idle silent
    · have same : c.step .proc = c := by rw [step, processed]
      rw [same]
      exact .inr ⟨processed, rest⟩
  | answer index err data =>
    cases waits : c.session.outstanding[index]? with
    | none =>
      have same : c.step (.answer index err data) = c := by rw [step, BatchingSession.step, waits]
      rwa [same]
    | some awaited =>
      obtain ⟨sent, response⟩ := awaited
      obtain ⟨processed, rest⟩ : c.deferred = none ∧ _ := phase.resolve_left fun first => by
        rw [first.2.1] at waits
        cases waits
      right
      refine ⟨processed, .inr fun awaited member => ?_⟩
      rw [step, BatchingSession.step, waits] at member
      rcases List.mem_append.mp member with other | asked
      · rcases rest with ⟨_, _, only, -⟩ | none
        · have within := (List.getElem?_eq_some_iff.mp waits).1
          rw [only, List.length_singleton, Nat.lt_one_iff] at within
          rw [only, within] at other
          cases other
        · exact none awaited (List.mem_of_mem_eraseIdx other)
      · exact (continues_proc asked).1
  | meanwhile adapter => exact phase

theorem promised_step_iff (phase : c.Phase command) (turn : Turn Client) :
    (c.step turn).promised command.key = 1 ↔ c.promised command.key = 1 ∧ c.MayTurn turn := by
  cases turn with
  | proc =>
    rcases phase with ⟨deferred, idle, silent⟩ | ⟨processed, -⟩
    · exact promised_proc_iff deferred idle silent
    · have same : c.step .proc = c := by rw [step, processed]
      rw [same, MayTurn, processed]
      exact (and_iff_left fun _ none => absurd none.symm (Option.some_ne_none _)).symm
  | answer index err data =>
    cases waits : c.session.outstanding[index]? with
    | none =>
      have same : c.step (.answer index err data) = c := by rw [step, BatchingSession.step, waits]
      rw [same, MayTurn, waits]
      exact (and_iff_left fun _ _ none => absurd none.symm (Option.some_ne_none _)).symm
    | some awaited =>
      obtain ⟨sent, response⟩ := awaited
      have added := replies_answer command.key waits err data
      obtain ⟨processed, rest⟩ : c.deferred = none ∧ _ := phase.resolve_left fun first => by
        rw [first.2.1] at waits
        cases waits
      have may : c.MayTurn (.answer index err data) ↔ MayReply c.session.adapter err response := by
        rw [MayTurn, waits]
        simp
      have counts (turned : Conversation Client) (later : turned.deferred = none) :
          turned.promised command.key = turned.replies command.key + owed command.key turned.session := by
        rw [promised, later]
        exact Nat.zero_add _
      rw [may, counts _ processed, counts (c.step (.answer index err data)) processed, replies, replies]
      change (c.session.step (.answer index err data)).log.countP _ + owed _ (c.session.step (.answer index err data)) =
        1 ↔ _
      rcases rest with ⟨_, _, only, stops, silent⟩ | none
      · have within := (List.getElem?_eq_some_iff.mp waits).1
        rw [only, List.length_singleton, Nat.lt_one_iff] at within
        rw [only, within] at waits
        cases waits
        have total := total_stops_iff c.session.adapter err data stops
        have owes : owed command.key c.session = response.owes command.key := by
          rw [owed, only]
          exact Nat.add_zero _
        rw [replies] at silent
        rw [silent, owes, Nat.zero_add, ← total]
        omega
      · have goesOn : response.stops = false := none _ (List.mem_of_getElem? waits)
        have same : (response.proc err data).total (BatchingOutput.credit command.key) c.session.adapter =
          response.owes command.key := total_proc goesOn
        have may : MayReply c.session.adapter err response := by
          cases response with
          | stopped | tripStopped => cases goesOn
          | _ => trivial
        rw [and_iff_left may]
        omega
  | meanwhile adapter => exact (and_iff_left trivial).symm

/-- In every conversation that is finished a command has exactly one reply exactly when every turn meets the
condition. -/
theorem one_reply_iff (adapter : BatchingAdapter Client) (command : BatchingCommand Client)
    (turns : List (Turn Client)) :
    (turns.foldl step (start adapter command)).Finished →
      ((turns.foldl step (start adapter command)).replies command.key = 1 ↔
        EachStep step MayTurn (start adapter command) turns) := by
  intro finished
  rw [← promised_of_finished finished]
  exact final_iff_eachStep_of (P := fun c => c.promised command.key = 1) (I := Phase command) (D := fun _ _ => True)
    (fun _ _ _ => trivial) (phase_start adapter command) (fun _ turn phase _ => phase_step phase turn) rfl
    fun _ turn phase _ => promised_step_iff phase turn

section Replied

/-- A trip is started. -/
def starts : List (Turn ℕ) := [.proc, .answer 0 .success ⟨0, 0⟩]

theorem one_reply_iff_starts : (starts.foldl step (start .fresh (.start 0 1 (.ofTrip 100 10)))).replies ⟨0, 1⟩ = 1 ↔
    EachStep step MayTurn (start .fresh (.start 0 1 (.ofTrip 100 10))) starts :=
  one_reply_iff .fresh (.start 0 1 (.ofTrip 100 10)) starts ⟨by decide, by decide⟩

/-- The stop of a session that is not known gets no reply. -/
theorem unknown_stop_unanswered : ¬ ∀ (adapter : BatchingAdapter ℕ) (command : BatchingCommand ℕ) (turns : List (Turn ℕ)),
    adapter.responseCb command.key.client = true → (turns.foldl step (start adapter command)).Finished →
      (turns.foldl step (start adapter command)).replies command.key = 1 := by
  intro always
  have one := always .fresh (.stop 0 1) [.proc] rfl ⟨by decide, by decide⟩
  exact absurd one (by decide)

end Replied

end Conversation

end Cypfr.Batching
