import Cypfr.Machine.Run
import Cypfr.Proofs.BluetoothStream

/-! # Answers, states and requests of a Bluetooth port

The port hears a result, but not of which request, and takes it for the one that its state waits for. Its state is
therefore right as long as results meet the state of their request. A `Start` or `Suspend` that fails or gives up
leaves its transitional state behind, unless it was used by `out_set_parameters`.
-/

namespace Cypfr.BluetoothAudio

open Machine

variable {value : SessionType → UInt16}

namespace System

section Starts

/-- A port becomes started by the success of a start, and leaves a suspend for standby by the success of a suspend. -/
structure Caused (s : System) (e : Event) (s' : System) : Prop where
  started : s'.state = .STARTED → s.state ≠ .STARTED → e = .answer .SUCCESS ∧ s.requests.head? = some .Start
  suspended : s.state = .SUSPENDING → s'.state = .STANDBY → e = .answer .SUCCESS ∧ s.requests.head? = some .Suspend

/-- No success of a suspend meets a port that is starting, and none of a start one that is suspending. -/
def MayHear (value : SessionType → UInt16) (s : System) (e : Event) : Prop :=
  e = .answer .SUCCESS → s.out.bluetooth_output_.in_use value = true → ∀ r, s.requests.head? = some r →
    (s.state = .STARTING → r = .Start) ∧ (s.state = .SUSPENDING → r = .Suspend)

variable {s s' : System} {e : Event}

/-- The two changes of the state come from a success that meets the state in which it is awaited. -/
theorem afterResult_started {status : BluetoothAudioStatus} {state : BluetoothStreamState} :
    afterResult status state = .STARTED ∧ state ≠ .STARTED ↔ status = .SUCCESS ∧ state = .STARTING := by
  cases status <;> cases state <;> decide

theorem afterResult_suspended {status : BluetoothAudioStatus} :
    afterResult status .SUSPENDING = .STANDBY ↔ status = .SUCCESS := by
  cases status <;> decide

theorem caused_of_unchanged (started : s'.state = .STARTED → s.state = .STARTED)
    (suspended : s.state = .SUSPENDING → s'.state ≠ .STANDBY) : s.Caused e s' :=
  ⟨fun now before => absurd (started now) before, fun before now => absurd now (suspended before)⟩

theorem mayHear_of_no_answer (other : ∀ status, e ≠ .answer status) : s.MayHear value e :=
  fun answer => absurd answer (other _)

theorem mayHear_of_uneventful (uneventful : s.Uneventful value e) : s.MayHear value e := by
  intro answer inUse r oldest
  obtain ⟨rest, pending⟩ := List.head?_eq_some_iff.mp oldest
  rw [uneventful.unheard _ r rest answer pending] at inUse
  cases inUse

theorem caused_iff_mayHear : s.Caused e (s.step value e) ↔ s.MayHear value e := by
  have effect := effect_step value s e
  generalize s.step value e = s' at effect ⊢
  cases effect with
  | settled uneventful settles =>
    refine iff_of_true ?_ ?_
    · rcases settles with same | disabled | ⟨disabled, standby⟩
      · exact caused_of_unchanged (fun now => same ▸ now) fun before => by simp [same, before]
      · exact caused_of_unchanged (fun now => by simp [disabled] at now) fun _ => by simp [disabled]
      · exact caused_of_unchanged (fun now => by simp [standby] at now) fun before => by simp [disabled] at before
    · exact mayHear_of_uneventful uneventful
  | begun uneventful request caller idle source transition =>
    refine iff_of_true (caused_of_unchanged ?_ ?_) (mayHear_of_uneventful uneventful)
    · exact fun now => absurd (transition.symm.trans now) request.transition_ne.1
    · exact fun _ now => request.transition_ne.2 (transition.symm.trans now)
  | accepted c busy early same =>
    refine iff_of_true ?_ (mayHear_of_no_answer (by simp))
    exact caused_of_unchanged (fun now => same ▸ now) fun before => by simp [same, before]
  | ended c busy ends state =>
    refine iff_of_true ?_ (mayHear_of_no_answer (by rintro _ rfl; cases ends))
    cases disables : c.caller.disables with
    | true => exact caused_of_unchanged (fun now => by simp [state, disables] at now) fun _ => by simp [state, disables]
    | false =>
      have same : s'.state = s.state := by simpa [disables] using state
      exact caused_of_unchanged (fun now => same ▸ now) fun before => by simp [same, before]
  | answered r rest status inUse pending state =>
    constructor
    · rintro ⟨started, suspended⟩ success _ r' oldest
      obtain rfl : status = .SUCCESS := Event.answer.inj success
      constructor
      · intro starting
        have now := started (by rw [state, starting]; rfl) (by rw [starting]; decide)
        exact Option.some.inj (oldest.symm.trans now.2)
      · intro suspending
        have now := suspended suspending (by rw [state, suspending]; rfl)
        exact Option.some.inj (oldest.symm.trans now.2)
    · intro hear
      constructor
      · intro now before
        obtain ⟨rfl, starting⟩ := afterResult_started.mp ⟨state.symm.trans now, before⟩
        exact ⟨rfl, by rw [pending, (hear rfl inUse r (by rw [pending]; rfl)).1 starting]; rfl⟩
      · intro before now
        obtain rfl := afterResult_suspended.mp (before ▸ state.symm.trans now)
        exact ⟨rfl, by rw [pending, (hear rfl inUse r (by rw [pending]; rfl)).2 before]; rfl⟩

end Starts

section Alone

/-- Requests, the call in progress and a transitional state belong together. -/
structure Orderly (s : System) : Prop where
  early : ∀ c, s.call = some c → c.waits = false → s.requests = []
  awaited : ∀ r ∈ s.requests, ∀ r', s.state = Request.transition r' → r' = r
  call : ∀ c, s.call = some c → ∀ r, s.state = Request.transition r → r = c.request

/-- A `Start` or `Suspend` begins only when no request is left to be answered. -/
def BeginsAlone (value : SessionType → UInt16) (s : System) (e : Event) : Prop :=
  s.call = none → (s.step value e).call ≠ none → s.requests = []

variable {s s' : System} {e : Event}

theorem Effect.call_transition (effect : s.Effect value e s')
    (call : ∀ c, s.call = some c → ∀ r, s.state = Request.transition r → r = c.request) :
    ∀ c, s'.call = some c → ∀ r, s'.state = Request.transition r → r = c.request := by
  intro c busy r now
  cases effect with
  | settled uneventful settles same => exact call c (same ▸ busy) r (settles.transition now)
  | begun uneventful request caller idle source transition here =>
    obtain rfl := Option.some.inj (here.symm.trans busy)
    exact Request.transition_inj (now.symm.trans transition)
  | accepted c' before early same here =>
    obtain rfl := Option.some.inj (here.symm.trans busy)
    exact call c' before r (same ▸ now)
  | ended c' before ends state here => exact absurd (here.symm.trans busy) (by simp)
  | answered r' rest status inUse pending state => exact absurd (state.symm.trans now) (afterResult_ne_transition _ _ _)

theorem Orderly.step (orderly : s.Orderly) (alone : s.BeginsAlone value e) : (s.step value e).Orderly := by
  have effect := effect_step value s e
  have alone : s.call = none → (s.step value e).call ≠ none → s.requests = [] := alone
  generalize s.step value e = s' at effect alone ⊢
  refine ⟨?_, ?_, effect.call_transition orderly.call⟩
  · intro c busy early
    cases effect with
    | settled uneventful settles call requests =>
      have none := orderly.early c (call ▸ busy) early
      rcases requests with same | tail
      · exact same.trans none
      · rw [tail, none]
        rfl
    | begun uneventful request caller idle source transition call requests =>
      exact requests.trans (alone idle (by simp [call]))
    | accepted c' before early' same call requests =>
      obtain rfl := Option.some.inj (call.symm.trans busy)
      cases early
    | ended c' before ends state call => exact absurd (call.symm.trans busy) (by simp)
    | answered r rest status inUse pending state call requests =>
      exact absurd (pending.symm.trans (orderly.early c (call ▸ busy) early)) (by simp)
  · intro r pending r' now
    cases effect with
    | settled uneventful settles call requests =>
      refine orderly.awaited r ?_ r' (settles.transition now)
      rcases requests with same | tail
      · exact same ▸ pending
      · exact List.mem_of_mem_tail (tail ▸ pending)
    | begun uneventful request caller idle source transition call requests =>
      rw [requests, alone idle (by simp [call])] at pending
      cases pending
    | accepted c before early same call requests =>
      rw [requests, orderly.early c before early] at pending
      obtain rfl := List.mem_singleton.mp pending
      exact orderly.call c before r' (same ▸ now)
    | ended c before ends state call requests =>
      refine orderly.awaited r (requests ▸ pending) r' ?_
      cases disables : c.caller.disables with
      | true =>
        rw [disables, if_pos rfl] at state
        exact absurd (state.symm.trans now) (by cases r' <;> decide)
      | false =>
        rw [disables] at state
        exact state.symm.trans now
    | answered r'' rest status inUse before state =>
      exact absurd (state.symm.trans now) (afterResult_ne_transition _ _ _)

theorem Orderly.mayHear (orderly : s.Orderly) : s.MayHear value e := by
  intro _ _ r oldest
  have pending : r ∈ s.requests := List.mem_of_head? oldest
  exact ⟨fun starting => (orderly.awaited r pending .Start starting).symm,
    fun suspending => (orderly.awaited r pending .Suspend suspending).symm⟩

end Alone

/-- A stream that has been opened. -/
def opened (out : BluetoothStreamOut) : System := { out := out, requests := [], call := none }

theorem orderly_opened (out : BluetoothStreamOut) : (opened out).Orderly :=
  ⟨by rintro _ ⟨⟩, by rintro _ ⟨⟩, by rintro _ ⟨⟩⟩

/-- In a run every start and every suspend has its cause exactly when every success meets the state of its request. -/
theorem caused_throughout_iff (value : SessionType → UInt16) (out : BluetoothStreamOut) (events : List Event) :
    EachStep (System.step value) (fun s e => s.Caused e (s.step value e)) (opened out) events ↔
      EachStep (System.step value) (MayHear value) (opened out) events :=
  forall₃_congr fun _ _ _ => caused_iff_mayHear

/-- Every start and every suspend has its cause when none begins before the requests of the others are answered. -/
theorem caused_of_alone (out : BluetoothStreamOut) {events : List Event}
    (alone : EachStep (System.step value) (BeginsAlone value) (opened out) events) :
    EachStep (System.step value) (fun s e => s.Caused e (s.step value e)) (opened out) events := by
  have orderly : Throughout (System.step value) Orderly (opened out) events :=
    throughout_of_eachStep (orderly_opened out) (fun _ _ before alone => before.step alone) alone
  exact fun done e reached => caused_iff_mayHear.mpr
    (orderly done ((List.prefix_append done [e]).trans reached)).mayHear

section Stuck

/-- Nothing waits in vain: without a `Start` or `Suspend` in progress the state is not transitional. -/
def Steady (s : System) : Prop := s.call = none → s.state ≠ .STARTING ∧ s.state ≠ .SUSPENDING

/-- A `Start` or `Suspend` that ends while its transitional state still holds was used by `out_set_parameters`. -/
def MayEnd (s : System) (e : Event) : Prop :=
  ∀ c, s.call = some c → Ends s.state c e → s.state = c.request.transition → c.caller.disables = true

variable {s s' : System} {e : Event}

theorem steady_iff : s.Steady ↔ (s.call = none → ∀ r : Request, s.state ≠ r.transition) := by
  refine imp_congr_right fun _ => ⟨?_, fun stable => ⟨stable .Start, stable .Suspend⟩⟩
  rintro ⟨starting, suspending⟩ (_ | _)
  · exact starting
  · exact suspending

theorem steady_of_busy {c : InProgress} (busy : s.call = some c) : s.Steady :=
  fun idle => absurd (idle.symm.trans busy) (by simp)

theorem Effect.steady_iff (effect : s.Effect value e s') (steady : s.Steady)
    (call : ∀ c, s.call = some c → ∀ r, s.state = Request.transition r → r = c.request) : s'.Steady ↔ s.MayEnd e := by
  have stable := System.steady_iff.mp steady
  cases effect with
  | settled uneventful settles same =>
    refine iff_of_true (System.steady_iff.mpr ?_) fun c busy ends => absurd ends (uneventful.lasts c busy)
    exact fun idle r now => stable (same ▸ idle) r (settles.transition now)
  | begun uneventful request caller idle source transition here =>
    exact iff_of_true (steady_of_busy here) fun c busy => absurd (idle.symm.trans busy) (by simp)
  | accepted c before early same here =>
    exact iff_of_true (steady_of_busy here) (by rintro _ _ ⟨⟩)
  | ended c busy ends state idle =>
    have alone (c' : InProgress) (here : s.call = some c') : c' = c := Option.some.inj (here.symm.trans busy)
    rw [System.steady_iff]
    cases disables : c.caller.disables with
    | true =>
      rw [disables, if_pos rfl] at state
      refine iff_of_true (fun _ r now => ?_) fun c' here _ _ => alone c' here ▸ disables
      exact absurd (state.symm.trans now) (by cases r <;> decide)
    | false =>
      have same : s'.state = s.state := by simpa [disables] using state
      constructor
      · intro after c' here _ now
        obtain rfl := alone c' here
        exact absurd (same.trans now) (after idle _)
      · intro may _ r now
        have kept : s.state = r.transition := same.symm.trans now
        have vain := may c busy ends (call c busy r kept ▸ kept)
        exact absurd (disables.symm.trans vain) (by decide)
  | answered r rest status inUse pending state =>
    refine iff_of_true (System.steady_iff.mpr fun _ r' now => ?_) (by rintro _ _ ⟨⟩)
    exact absurd (state.symm.trans now) (afterResult_ne_transition _ _ _)

/-- A steady stream is never refused as busy. -/
theorem Steady.not_busy (steady : s.Steady) (idle : s.call = none) :
    s.out.out_resume ≠ .returns .EBUSY ∧ s.out.out_standby.1 ≠ .returns .EBUSY ∧
      s.out.out_pause.1 ≠ .returns .EBUSY := by
  obtain ⟨starting, suspending⟩ := steady idle
  rw [System.state] at starting suspending
  rw [BluetoothStreamOut.out_resume, BluetoothStreamOut.out_standby, BluetoothStreamOut.out_pause,
    BluetoothStreamOut.suspending]
  cases here : s.out.GetState with
  | STARTING => exact absurd here starting
  | SUSPENDING => exact absurd here suspending
  | DISABLED | STANDBY | STARTED | UNKNOWN => simp

end Stuck

/-- A stream that was opened in standby is steady throughout a run exactly when no `Start` or `Suspend` outside of
`out_set_parameters` ends while its transitional state still holds. -/
theorem steady_throughout_iff (value : SessionType → UInt16) (out : BluetoothStreamOut) (standby : out.GetState = .STANDBY)
    (events : List Event) :
    Throughout (System.step value) Steady (opened out) events ↔
      EachStep (System.step value) MayEnd (opened out) events := by
  refine throughout_iff_eachStep
    (I := fun s => ∀ c, s.call = some c → ∀ r, s.state = Request.transition r → r = c.request) (orderly_opened out).call
    (fun s e call => (effect_step value s e).call_transition call) ?_ fun s e call steady =>
      (effect_step value s e).steady_iff steady call
  intro _
  rw [state, opened, standby]
  decide

section Runs

def a2dpStream : BluetoothStreamOut :=
  { bluetooth_output_ := ⟨0x0200, .STANDBY, .A2DP_SOFTWARE_ENCODING_DATAPATH, false⟩, frames_rendered_ := 0,
    frames_presented_ := 0, frame_size := 4, frame_pos := Nat.succ_pos 3, mono_frame := fun _ => rfl }

def a2dpValue (session_type : SessionType) : UInt16 := if session_type = .UNKNOWN then 0 else 2

/-- The stream has been started and then stopped while a suspend was not answered, and starts again. -/
def lateSuspend : List Event :=
  [.out_resume, .request true, .answer .SUCCESS, .notified, .out_standby, .request true, .timeout,
    .out_set_parameters ⟨none, true, false⟩, .out_set_parameters ⟨some false, false, false⟩, .out_resume, .request true]

/-- The late success of a suspend starts the port. -/
theorem started_by_suspend :
    ¬ ∀ (value : SessionType → UInt16) (out : BluetoothStreamOut) (events : List Event),
        EachStep (System.step value) (fun s e => s.Caused e (s.step value e)) (opened out) events := by
  intro always
  have caused := always a2dpValue a2dpStream (lateSuspend ++ [.answer .SUCCESS]) lateSuspend (.answer .SUCCESS)
    List.prefix_rfl
  exact absurd (caused.started (by decide) (by decide)) (by decide)

/-- A start whose request the stack does not accept leaves the port starting. -/
theorem stuck_after_refused_start :
    ¬ ∀ (value : SessionType → UInt16) (out : BluetoothStreamOut), out.GetState = .STANDBY → ∀ events : List Event,
        Throughout (System.step value) Steady (opened out) events := by
  intro always
  have steady := always a2dpValue a2dpStream rfl [.out_resume, .request false] _ List.prefix_rfl
  exact absurd (steady (by decide)).1 (by decide)

/-- A start that succeeds leaves a steady port. -/
theorem steady_after_start : Throughout (System.step a2dpValue) Steady (opened a2dpStream)
    [.out_resume, .request true, .answer .SUCCESS, .notified] :=
  (steady_throughout_iff a2dpValue a2dpStream rfl _).mpr (by
    refine eachStep_cons ?_ (eachStep_cons ?_ (eachStep_cons ?_ (eachStep_cons ?_ eachStep_nil)))
    · rintro _ _ ⟨⟩
    · rintro _ _ ⟨⟩
    · rintro _ _ ⟨⟩
    · intro c busy ends now
      cases ends with
      | notified waits changed => exact absurd now changed)

end Runs

end System

end Cypfr.BluetoothAudio
