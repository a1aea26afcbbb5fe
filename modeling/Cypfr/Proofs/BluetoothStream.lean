import Cypfr.Model.BluetoothStream

/-! # What a step does to the state of a Bluetooth port

Besides the answers of the stack, a step leaves the state, disables the port or wakes a disabled one; it begins a
`Start` or a `Suspend`, in its transitional state; or it ends one.
-/

namespace Cypfr.BluetoothAudio

variable {value : SessionType → UInt16}

/-- The state after a result, by the state alone. -/
def afterResult (status : BluetoothAudioStatus) : BluetoothStreamState → BluetoothStreamState
  | .STARTED => if status = .RECONFIGURATION ∨ status = .SUCCESS then .STANDBY else .STARTED
  | .STARTING => if status = .SUCCESS then .STARTED else .STANDBY
  | .SUSPENDING => if status = .SUCCESS then .STANDBY else .DISABLED
  | state => state

/-- The states that the functions of a stream may set without waiting. -/
def Settles (state state' : BluetoothStreamState) : Prop :=
  state' = state ∨ state' = .DISABLED ∨ (state = .DISABLED ∧ state' = .STANDBY)

namespace BluetoothAudioPortAidl

variable {port : BluetoothAudioPortAidl}

theorem state_control_result_cb (inUse : port.in_use value = true) (start_resp : Bool) (status : BluetoothAudioStatus) :
    (port.control_result_cb value port.cookie_ start_resp status).state_ = afterResult status port.state_ := by
  rw [control_result_cb, if_pos inUse, if_neg (not_not.mpr rfl), ControlResultHandler, if_pos inUse, afterResult.eq_def]
  cases state : port.state_ with
  | STARTED | STARTING | SUSPENDING =>
    dsimp only
    split <;> first | rfl | exact state
  | DISABLED | STANDBY | UNKNOWN => exact state

theorem control_result_cb_of_not_in_use (unused : port.in_use value = false) (cookie : UInt16) (start_resp : Bool)
    (status : BluetoothAudioStatus) : port.control_result_cb value cookie start_resp status = port := by
  rw [control_result_cb, unused]
  rfl

theorem settles_session_changed_cb (cookie : UInt16) :
    Settles port.state_ (port.session_changed_cb value cookie).state_ := by
  rw [session_changed_cb, SessionChangedHandler]
  split
  · split
    · exact .inl rfl
    · exact .inr (.inl rfl)
  · exact .inl rfl

end BluetoothAudioPortAidl

namespace BluetoothStreamOut

variable {out : BluetoothStreamOut}

@[simp] theorem GetState_setState (state : BluetoothStreamState) : (out.setState state).GetState = state := rfl

variable (value out) in
theorem GetState_shut (asked : Bool) :
    (out.shut value asked).GetState = out.GetState ∨ (out.shut value asked).GetState = .DISABLED := by
  rw [shut, Stop]
  split
  · split
    · exact .inr rfl
    · exact .inl rfl
  · exact .inl rfl

variable (value out) in
theorem GetState_closeAndExit (params : Params) :
    (out.closeAndExit value params).GetState = out.GetState ∨ (out.closeAndExit value params).GetState = .DISABLED := by
  rw [closeAndExit]
  rcases GetState_shut value (out.shut value params.closing) params.exiting with same | disabled
  · rw [same]
    exact GetState_shut value out params.closing
  · exact .inr disabled

theorem GetState_out_set_parameters_suspended (params : Params) :
    (out.out_set_parameters_suspended value params).GetState = .DISABLED := by
  rcases GetState_closeAndExit value (out.setState .DISABLED) params with same | disabled
  · exact same
  · exact disabled

/-- What a function of the stream decides at once. -/
structure Decided (out : BluetoothStreamOut) (decided : Decision × BluetoothStreamOut) : Prop where
  returns : ∀ retval, decided.1 = .returns retval → Settles out.GetState decided.2.GetState
  calls : ∀ request, decided.1 = .calls request → decided.2.GetState = out.GetState

theorem decided_same (decision : Decision) : out.Decided (decision, out) := ⟨fun _ _ => .inl rfl, fun _ _ => rfl⟩

theorem decided_suspending : out.Decided out.suspending := by
  rw [suspending]
  split <;> exact ⟨fun _ _ => .inl rfl, fun _ _ => rfl⟩

/-- What settles the state settles it also with the branches of `closing` and `exiting` behind. -/
theorem decided_closeAndExit {out' : BluetoothStreamOut} (settles : Settles out.GetState out'.GetState)
    (params : Params) (retval : Retval) : out.Decided (.returns retval, out'.closeAndExit value params) := by
  refine ⟨fun _ _ => ?_, fun _ called => by cases called⟩
  change Settles out.GetState (out'.closeAndExit value params).GetState
  rcases GetState_closeAndExit value out' params with same | disabled
  · rwa [same]
  · exact .inr (.inl disabled)

theorem decided_out_set_parameters (params : Params) : out.Decided (out.out_set_parameters value params) := by
  rw [out_set_parameters]
  split
  · dsimp only
    split
    · exact ⟨fun _ _ => .inl rfl, fun _ _ => rfl⟩
    · refine decided_closeAndExit ?_ params .ok
      split
      · rw [Stop]
        split
        · exact .inr (.inl rfl)
        · exact .inl rfl
      · exact .inl rfl
  · refine decided_closeAndExit ?_ params .ok
    split
    · exact .inr (.inr ⟨‹_›, rfl⟩)
    · exact .inl rfl
  · exact decided_closeAndExit (.inl rfl) params .ok

end BluetoothStreamOut

theorem Request.transition_ne (r : Request) : r.transition ≠ .STARTED ∧ r.transition ≠ .STANDBY := by
  cases r <;> decide

theorem Request.transition_inj {r r' : Request} (same : r.transition = r'.transition) : r = r' := by
  cases r <;> cases r' <;> first | rfl | cases same

theorem afterResult_ne_transition (status : BluetoothAudioStatus) (state : BluetoothStreamState) (r : Request) :
    afterResult status state ≠ r.transition := by
  cases status <;> cases state <;> cases r <;> decide

/-- A state that a function has set without waiting is transitional only when it was before. -/
theorem Settles.transition {state state' : BluetoothStreamState} (settles : Settles state state') {r : Request}
    (now : state' = r.transition) : state = r.transition := by
  rcases settles with same | disabled | ⟨-, standby⟩
  · exact same.symm.trans now
  · cases r <;> cases disabled.symm.trans now
  · exact absurd (now.symm.trans standby) r.transition_ne.2

/-- `out_set_parameters` disables the port behind its `Suspend`. -/
def Caller.disables : Caller → Bool
  | .out_set_parameters _ => true
  | _ => false

/-- The events with which a use of `Start` or `Suspend` may end. -/
inductive Ends (state : BluetoothStreamState) (c : InProgress) : Event → Prop
  | refused (early : c.waits = false) : Ends state c (.request false)
  | timeout (waits : c.waits = true) : Ends state c .timeout
  | notified (waits : c.waits = true) (changed : state ≠ c.request.transition) : Ends state c .notified

namespace System

/-- The state of the port. -/
def state (s : System) : BluetoothStreamState := s.out.GetState

/-- The event does not end the call in progress, and is no answer that a port in use hears. -/
structure Uneventful (value : SessionType → UInt16) (s : System) (e : Event) : Prop where
  lasts : ∀ c, s.call = some c → ¬ Ends s.state c e
  unheard : ∀ status r rest, e = .answer status → s.requests = r :: rest → s.out.bluetooth_output_.in_use value = false

/-- The effect of a step on the state, the requests and the call in progress. -/
inductive Effect (value : SessionType → UInt16) (s : System) : Event → System → Prop
  | settled {e : Event} {s' : System} (uneventful : s.Uneventful value e) (settles : Settles s.state s'.state)
      (call : s'.call = s.call) (requests : s'.requests = s.requests ∨ s'.requests = s.requests.tail) :
      Effect value s e s'
  | begun {e : Event} {s' : System} (uneventful : s.Uneventful value e) (request : Request) (caller : Caller)
      (idle : s.call = none) (source : s.state = request.source) (transition : s'.state = request.transition)
      (call : s'.call = some { request := request, caller := caller, waits := false })
      (requests : s'.requests = s.requests) : Effect value s e s'
  | accepted {s' : System} (c : InProgress) (busy : s.call = some c) (early : c.waits = false) (same : s'.state = s.state)
      (call : s'.call = some { c with waits := true }) (requests : s'.requests = s.requests ++ [c.request]) :
      Effect value s (.request true) s'
  | ended {e : Event} {s' : System} (c : InProgress) (busy : s.call = some c) (ends : Ends s.state c e)
      (state : s'.state = if c.caller.disables then .DISABLED else s.state) (call : s'.call = none)
      (requests : s'.requests = s.requests) : Effect value s e s'
  | answered {s' : System} (r : Request) (rest : List Request) (status : BluetoothAudioStatus)
      (inUse : s.out.bluetooth_output_.in_use value = true) (pending : s.requests = r :: rest)
      (state : s'.state = afterResult status s.state) (call : s'.call = s.call) (requests : s'.requests = rest) :
      Effect value s (.answer status) s'

variable {s : System}

/-- A function of the stream is no answer and ends no call. -/
theorem uneventful_of_not {e : Event} (lasts : ∀ c, ¬ Ends s.state c e) (other : ∀ status, e ≠ .answer status) :
    s.Uneventful value e := ⟨fun c _ => lasts c, fun status _ _ answer => absurd answer (other status)⟩

theorem effect_use {e : Event} {decided : Decision × BluetoothStreamOut} (caller : Caller)
    (uneventful : s.Uneventful value e) (law : s.out.Decided decided) :
    s.Effect value e (s.use value caller decided) := by
  rw [use]
  split
  · rw [begin]
    split
    · exact .settled uneventful (law.returns _ ‹_›) rfl (.inl rfl)
    · have same := law.calls _ ‹_›
      split
      · exact .begun uneventful _ caller ‹_› (same.symm.trans (And.right ‹_›)) rfl rfl rfl
      · exact .settled uneventful (.inl same) rfl (.inl rfl)
  · exact .settled uneventful (.inl rfl) rfl (.inl rfl)

theorem effect_finish {e : Event} {c : InProgress} (busy : s.call = some c) (ends : Ends s.state c e) :
    s.Effect value e (s.finish value c.caller) := by
  cases here : c.caller with
  | out_set_parameters params =>
    refine .ended c busy ends ?_ rfl rfl
    rw [here]
    exact BluetoothStreamOut.GetState_out_set_parameters_suspended params
  | out_resume | out_standby | out_pause | out_write =>
    refine .ended c busy ends ?_ rfl rfl
    rw [here]
    rfl

variable (value s) in
theorem effect_step (e : Event) : s.Effect value e (s.step value e) := by
  have still (uneventful : s.Uneventful value e) : s.Effect value e s := .settled uneventful (.inl rfl) rfl (.inl rfl)
  cases e with
  | out_resume =>
    exact effect_use .out_resume (uneventful_of_not (by rintro _ ⟨⟩) (by simp)) (BluetoothStreamOut.decided_same _)
  | out_standby =>
    exact effect_use .out_standby (uneventful_of_not (by rintro _ ⟨⟩) (by simp)) BluetoothStreamOut.decided_suspending
  | out_pause =>
    exact effect_use .out_pause (uneventful_of_not (by rintro _ ⟨⟩) (by simp)) BluetoothStreamOut.decided_suspending
  | out_write =>
    exact effect_use .out_write (uneventful_of_not (by rintro _ ⟨⟩) (by simp)) (BluetoothStreamOut.decided_same _)
  | out_set_parameters params =>
    exact effect_use (.out_set_parameters params) (uneventful_of_not (by rintro _ ⟨⟩) (by simp))
      (BluetoothStreamOut.decided_out_set_parameters params)
  | request accepted =>
    rw [step]
    cases busy : s.call with
    | none => exact still ⟨fun c here => by simp [busy] at here, by simp⟩
    | some c =>
      cases waits : c.waits with
      | true =>
        simp only [waits, if_true]
        refine still ⟨fun c' here ends => ?_, by simp⟩
        obtain rfl : c = c' := Option.some.inj (busy.symm.trans here)
        cases ends with
        | refused early => exact absurd (waits.symm.trans early) (by decide)
      | false =>
        cases accepted with
        | true =>
          simp only [waits, Bool.false_eq_true, if_false, if_true]
          exact .accepted c busy waits rfl rfl rfl
        | false =>
          simp only [waits, Bool.false_eq_true, if_false]
          exact effect_finish busy (.refused waits)
  | answer status =>
    rw [step]
    cases pending : s.requests with
    | nil => exact still ⟨by rintro _ _ ⟨⟩, fun _ _ _ _ here => by simp [pending] at here⟩
    | cons r rest =>
      cases inUse : s.out.bluetooth_output_.in_use value with
      | true =>
        exact .answered r rest status inUse pending (BluetoothAudioPortAidl.state_control_result_cb inUse _ _) rfl rfl
      | false =>
        refine .settled ⟨by rintro _ _ ⟨⟩, fun _ _ _ _ _ => inUse⟩ (.inl ?_) rfl (.inr (by rw [pending]; rfl))
        exact congrArg (·.state_) (BluetoothAudioPortAidl.control_result_cb_of_not_in_use inUse _ _ _)
  | forget => exact .settled (uneventful_of_not (by rintro _ ⟨⟩) (by simp)) (.inl rfl) rfl (.inr rfl)
  | notified =>
    rw [step]
    cases busy : s.call with
    | none => exact still ⟨fun c here => by simp [busy] at here, by simp⟩
    | some c =>
      dsimp only
      split
      · exact effect_finish busy (.notified (And.left ‹_›) (And.right ‹_›))
      · refine still ⟨fun c' here ends => ?_, by simp⟩
        obtain rfl : c = c' := Option.some.inj (busy.symm.trans here)
        cases ends with
        | notified waits changed => exact absurd (And.intro waits changed) ‹_›
  | timeout =>
    rw [step]
    cases busy : s.call with
    | none => exact still ⟨fun c here => by simp [busy] at here, by simp⟩
    | some c =>
      dsimp only
      split
      · exact effect_finish busy (.timeout ‹_›)
      · refine still ⟨fun c' here ends => ?_, by simp⟩
        obtain rfl : c = c' := Option.some.inj (busy.symm.trans here)
        cases ends with
        | timeout waits => exact absurd waits ‹_›
  | sessionChanged =>
    exact .settled (uneventful_of_not (by rintro _ ⟨⟩) (by simp))
      (BluetoothAudioPortAidl.settles_session_changed_cb _) rfl (.inl rfl)

end System

end Cypfr.BluetoothAudio
