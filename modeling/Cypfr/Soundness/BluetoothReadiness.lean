import Cypfr.Machine.Run
import Cypfr.Proofs.BluetoothAudioSession

/-! # Observers learn when a session becomes ready

A call that changes whether the session is ready tells every observer of the session, but for two: a start
whose queue cannot be made, on top of a session that is ready; and a new configuration for a session that such a
start has left with its interface only.
-/

namespace Cypfr.BluetoothAudio

open BluetoothAudioSession Machine

variable {Payload : Type} (value : SessionType → UInt16)

/-- The state after a call. -/
def after (s : BluetoothAudioSession Payload) (call : SessionCall Payload) : BluetoothAudioSession Payload :=
  (call.run value).next s

/-- A call that changes whether the session is ready tells every observer. -/
def NotSilent (s : BluetoothAudioSession Payload) (call : SessionCall Payload) : Prop :=
  (after value s call).IsSessionReady ≠ s.IsSessionReady →
    ∀ cookie ∈ s.observers_, .session_changed_cb_ cookie ∈ (call.run value).emitted s

/-- A start that fails only at its queue. -/
def FailsLate (s : BluetoothAudioSession Payload) : SessionCall Payload → Prop
  | .OnSessionStarted (some _) mq_desc audio_config =>
    accepts s.session_type_ audio_config.getTag = true ∧ Unusable mq_desc
  | _ => False

/-- A configuration that a session with its interface only still lacks. -/
def Refills (s : BluetoothAudioSession Payload) : SessionCall Payload → Prop
  | .ReportAudioConfigChanged _ =>
    is_offload_le_audio_session s.session_type_ = true ∧ s.stack_iface_.isSome = true ∧ s.audio_config_ = none
  | _ => False

/-- Nobody observes the session, or the call neither fails late on a session that is ready nor refills one. -/
def MayStep (s : BluetoothAudioSession Payload) (call : SessionCall Payload) : Prop :=
  s.observers_.keys = [] ∨ ¬ (s.IsSessionReady = true ∧ FailsLate s call) ∧ ¬ Refills s call

section Steps

variable {value} {s : BluetoothAudioSession Payload} {call : SessionCall Payload}

theorem notSilent_of_unchanged (same : (after value s call).IsSessionReady = s.IsSessionReady) :
    NotSilent value s call := fun changed => absurd same changed

theorem notSilent_of_report (told : (call.run value).emitted s = s.statusReport) : NotSilent value s call := by
  intro _ cookie observer
  rw [told]
  exact mem_statusReport.mpr observer

/-- A call that changes whether the session is ready and tells nobody is silent exactly when somebody observes. -/
theorem notSilent_iff_of_untold (changed : (after value s call).IsSessionReady ≠ s.IsSessionReady)
    (untold : ∀ cookie, .session_changed_cb_ cookie ∉ (call.run value).emitted s) :
    NotSilent value s call ↔ s.observers_.keys = [] := by
  constructor
  · intro loud
    refine List.eq_nil_iff_forall_not_mem.mpr fun cookie observer => untold cookie ?_
    exact loud changed cookie (AList.mem_keys.mpr observer)
  · intro alone _ cookie observer
    exact absurd (AList.mem_keys.mp observer) (alone ▸ List.not_mem_nil)

theorem not_ready_of_no_config (unset : s.audio_config_ = none) : s.IsSessionReady = false := by
  simp only [IsSessionReady, unset, Option.isSome_none, Bool.and_false]

theorem isOffload_of_is_offload_le_audio_session {session_type : SessionType}
    (offload : is_offload_le_audio_session session_type = true) : isOffload session_type = true := by
  revert offload
  cases session_type <;> decide

section

variable {stack_iface : Option IBluetoothAudioPort} {mq_desc : Option DataMQ} {audio_config : AudioConfiguration Payload}

theorem notSilent_OnSessionStarted_iff :
    NotSilent value s (.OnSessionStarted stack_iface mq_desc audio_config) ↔
      s.observers_.keys = [] ∨
        ¬ (s.IsSessionReady = true ∧ FailsLate s (.OnSessionStarted stack_iface mq_desc audio_config)) := by
  cases stack_iface with
  | none =>
    have kept : NotSilent value s (.OnSessionStarted none mq_desc audio_config) := notSilent_of_unchanged rfl
    exact iff_of_true kept (.inr fun ⟨_, late⟩ => late)
  | some stack_iface =>
    by_cases accepted : accepts s.session_type_ audio_config.getTag = true
    · by_cases unusable : Unusable mq_desc
      · have result := OnSessionStarted_of_unusable (s := s) stack_iface accepted unusable
        have next : after value s (.OnSessionStarted (some stack_iface) mq_desc audio_config) =
            { s with data_mq_ := none, audio_config_ := none } := congrArg (·.2.1) result
        have untold : (SessionCall.run value (.OnSessionStarted (some stack_iface) mq_desc audio_config)).emitted s =
          [] :=
          congrArg (·.2.2) result
        have lost : (after value s (.OnSessionStarted (some stack_iface) mq_desc audio_config)).IsSessionReady =
          false :=
          not_ready_of_no_config (next ▸ rfl)
        cases ready : s.IsSessionReady with
        | false => exact iff_of_true (notSilent_of_unchanged (lost.trans ready.symm)) (.inr (by simp))
        | true =>
          rw [notSilent_iff_of_untold (by rw [lost, ready]; decide) fun _ => untold ▸ List.not_mem_nil]
          simp [FailsLate, accepted, unusable]
      · have result := OnSessionStarted_of_not_unusable (s := s) stack_iface accepted unusable
        exact iff_of_true (notSilent_of_report (congrArg (·.2.2) result)) (.inr fun ⟨_, late⟩ => unusable late.2)
    · have result := OnSessionStarted_of_not_accepts (s := s) stack_iface mq_desc
        (Bool.not_eq_true _ ▸ accepted)
      have next : after value s (.OnSessionStarted (some stack_iface) mq_desc audio_config) = s :=
        congrArg (·.2.1) result
      exact iff_of_true (notSilent_of_unchanged (congrArg IsSessionReady next)) (.inr fun ⟨_, late⟩ => accepted late.1)

theorem notSilent_ReportAudioConfigChanged_iff :
    NotSilent value s (.ReportAudioConfigChanged audio_config) ↔
      s.observers_.keys = [] ∨ ¬ Refills s (.ReportAudioConfigChanged audio_config) := by
  have next : after value s (.ReportAudioConfigChanged audio_config) =
      if is_offload_le_audio_session s.session_type_ then { s with audio_config_ := some audio_config } else s :=
    next_ReportAudioConfigChanged
  by_cases offload : is_offload_le_audio_session s.session_type_ = true
  · rw [if_pos offload] at next
    have mqless := isOffload_of_is_offload_le_audio_session offload
    have now : (after value s (.ReportAudioConfigChanged audio_config)).IsSessionReady = s.stack_iface_.isSome := by
      simp only [next, IsSessionReady, mqless, Bool.true_or, Bool.and_true, Option.isSome_some]
    have before : s.IsSessionReady = (s.stack_iface_.isSome && s.audio_config_.isSome) := by
      simp only [IsSessionReady, mqless, Bool.true_or, Bool.and_true]
    by_cases refills : Refills s (.ReportAudioConfigChanged audio_config)
    · have changed : (after value s (.ReportAudioConfigChanged audio_config)).IsSessionReady ≠ s.IsSessionReady := by
        rw [now, before, refills.2.1, refills.2.2, Option.isSome_none]
        decide
      rw [notSilent_iff_of_untold changed fun _ => notMem_ReportAudioConfigChanged]
      simp [refills]
    · refine iff_of_true (notSilent_of_unchanged ?_) (.inr refills)
      rw [now, before]
      cases started : s.stack_iface_ with
      | none => rfl
      | some stack_iface =>
        cases configured : s.audio_config_ with
        | some audio_config => rfl
        | none => exact absurd ⟨offload, by rw [started]; rfl, configured⟩ refills
  · rw [if_neg offload] at next
    exact iff_of_true (notSilent_of_unchanged (congrArg IsSessionReady next)) (.inr fun refills => offload refills.1)

end

/-- A call is silent exactly when somebody observes and it fails late on a session that is ready or refills one. -/
theorem notSilent_iff_mayStep : NotSilent value s call ↔ MayStep s call := by
  cases call with
  | OnSessionStarted stack_iface mq_desc audio_config =>
    rw [notSilent_OnSessionStarted_iff]
    simp [MayStep, Refills]
  | ReportAudioConfigChanged audio_config =>
    rw [notSilent_ReportAudioConfigChanged_iff]
    simp [MayStep, FailsLate]
  | OnSessionEnded =>
    refine iff_of_true ?_ (.inr ⟨fun ⟨_, late⟩ => late, fun refills => refills⟩)
    cases ready : s.IsSessionReady with
    | true => exact notSilent_of_report (congrArg (·.2.2) (OnSessionEnded_of_ready ready))
    | false =>
      have next : after value s .OnSessionEnded = s.cleared := congrArg (·.2.1) (OnSessionEnded_of_not_ready ready)
      exact notSilent_of_unchanged (ready ▸ next ▸ not_ready_of_no_config rfl)
  | RegisterStatusCback callbacks =>
    refine iff_of_true ?_ (.inr ⟨fun ⟨_, late⟩ => late, fun refills => refills⟩)
    obtain ⟨observers, next⟩ := next_RegisterStatusCback (s := s) value callbacks
    have same := congrArg IsSessionReady next
    exact notSilent_of_unchanged same
  | UnregisterStatusCback cookie =>
    exact iff_of_true (notSilent_of_unchanged rfl) (.inr ⟨fun ⟨_, late⟩ => late, fun refills => refills⟩)
  | ReportLowLatencyModeAllowedChanged allowed =>
    refine iff_of_true ?_ (.inr ⟨fun ⟨_, late⟩ => late, fun refills => refills⟩)
    have same := congrArg IsSessionReady (next_ReportLowLatencyModeAllowedChanged (s := s) allowed)
    exact notSilent_of_unchanged same

end Steps

/-- In a run from the constructed session no change of readiness is silent exactly when every call may be made. -/
theorem never_silent_iff (session_type : SessionType) (calls : List (SessionCall Payload)) :
    EachStep (after value) (NotSilent value) (construct session_type) calls ↔
      EachStep (after value) MayStep (construct session_type) calls :=
  forall₃_congr fun _ _ _ => notSilent_iff_mayStep

/-- A start without a usable queue, on top of a session that is ready and observed, ends it silently. -/
theorem silent_failed_start :
    ¬ ∀ (value : SessionType → UInt16) (session_type : SessionType) (calls : List (SessionCall Unit)),
        EachStep (after value) (NotSilent value) (construct session_type) calls := by
  intro never
  let start (isValid : Bool) : SessionCall Unit := .OnSessionStarted (some 1) (some ⟨7, isValid⟩) ⟨.pcmConfig, ()⟩
  have loud := never (fun _ => 2) .A2DP_SOFTWARE_ENCODING_DATAPATH [.RegisterStatusCback ⟨false, false⟩, start true,
    start false]
    [.RegisterStatusCback ⟨false, false⟩, start true] (start false) List.prefix_rfl
  exact absurd (loud (by decide) 0x0200 (by decide)) (by decide)

end Cypfr.BluetoothAudio
