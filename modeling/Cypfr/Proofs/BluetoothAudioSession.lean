import Cypfr.Model.BluetoothAudioSession

/-! # What the calls of a Bluetooth audio session do

The state that each call leaves and the callbacks it makes. A start fails early, at its interface or its
configuration, and then changes nothing; or late, at its queue, and then clears the data path and the
configuration of the session before.
-/

namespace Cypfr.BluetoothAudio

variable {Payload : Type} {s : BluetoothAudioSession Payload}

namespace BluetoothAudioSession

variable {stack_iface : IBluetoothAudioPort} {mq_desc : Option DataMQ} {audio_config : AudioConfiguration Payload}

/-- Every observer is told of the session. -/
def statusReport (s : BluetoothAudioSession Payload) : List Call := s.observers_.keys.map .session_changed_cb_

@[simp] theorem mem_statusReport {cookie : UInt16} :
    .session_changed_cb_ cookie ∈ s.statusReport ↔ cookie ∈ s.observers_ := by
  simp [statusReport, AList.mem_keys]

@[simp] theorem next_ReportSessionStatus : ReportSessionStatus.next s = s := by
  simp only [ReportSessionStatus, Emit.next_get_bind, Emit.next_forM, Emit.next_emit, List.foldl_fixed]

@[simp] theorem emitted_ReportSessionStatus : ReportSessionStatus.emitted s = s.statusReport := by
  rw [ReportSessionStatus, Emit.emitted_get_bind,
    Emit.emitted_forM _ (fun cookie => [.session_changed_cb_ cookie]) fun _ _ => rfl]
  exact (List.map_eq_flatMap ..).symm

section UpdateAudioConfig

theorem UpdateAudioConfig_of_accepts (accepted : accepts s.session_type_ audio_config.getTag = true) :
    UpdateAudioConfig audio_config s = (true, { s with audio_config_ := some audio_config }, []) := by
  simp only [UpdateAudioConfig, Emit.get_bind_apply, if_pos accepted]
  rfl

theorem UpdateAudioConfig_of_not_accepts (refused : accepts s.session_type_ audio_config.getTag = false) :
    UpdateAudioConfig audio_config s = (false, s, []) := by
  simp only [UpdateAudioConfig, Emit.get_bind_apply, refused]
  rfl

end UpdateAudioConfig

/-- A descriptor of which no queue can be made. -/
def Unusable (mq_desc : Option DataMQ) : Prop := ∃ mq ∈ mq_desc, mq.isValid = false

theorem UpdateDataPath_of_unusable (unusable : Unusable mq_desc) :
    UpdateDataPath mq_desc s = (false, { s with data_mq_ := none }, []) := by
  obtain ⟨mq, rfl, invalid⟩ := unusable
  simp only [UpdateDataPath, invalid]
  rfl

theorem UpdateDataPath_of_not_unusable (usable : ¬ Unusable mq_desc) :
    UpdateDataPath mq_desc s = (true, { s with data_mq_ := mq_desc }, []) := by
  cases mq_desc with
  | none => rfl
  | some mq =>
    have valid : mq.isValid = true := by
      by_contra invalid
      exact usable ⟨mq, rfl, Bool.not_eq_true _ ▸ invalid⟩
    simp only [UpdateDataPath, valid]
    rfl

section OnSessionStarted

variable (stack_iface mq_desc) in
theorem OnSessionStarted_of_not_accepts (refused : accepts s.session_type_ audio_config.getTag = false) :
    OnSessionStarted (some stack_iface) mq_desc audio_config s = ((), s, []) :=
  Emit.bind_eq (UpdateAudioConfig_of_not_accepts refused) rfl

variable (stack_iface) in
theorem OnSessionStarted_of_unusable (accepted : accepts s.session_type_ audio_config.getTag = true)
    (unusable : Unusable mq_desc) :
    OnSessionStarted (some stack_iface) mq_desc audio_config s =
      ((), { s with data_mq_ := none, audio_config_ := none }, []) :=
  Emit.bind_eq (UpdateAudioConfig_of_accepts accepted) (Emit.bind_eq (UpdateDataPath_of_unusable unusable) rfl)

variable (stack_iface) in
theorem OnSessionStarted_of_not_unusable (accepted : accepts s.session_type_ audio_config.getTag = true)
    (usable : ¬ Unusable mq_desc) :
    OnSessionStarted (some stack_iface) mq_desc audio_config s =
      ((), { s with stack_iface_ := some stack_iface, data_mq_ := mq_desc, audio_config_ := some audio_config },
        s.statusReport) := by
  refine Emit.bind_eq (v := []) (UpdateAudioConfig_of_accepts accepted) ?_
  refine Emit.bind_eq (v := []) (UpdateDataPath_of_not_unusable usable) ?_
  refine Emit.bind_eq (v := []) rfl ?_
  exact Prod.ext rfl (Prod.ext (next_ReportSessionStatus (s := _)) (emitted_ReportSessionStatus (s := _)))

end OnSessionStarted

section OnSessionEnded

/-- The session without what the stack has started. -/
def cleared (s : BluetoothAudioSession Payload) : BluetoothAudioSession Payload :=
  { s with stack_iface_ := none, data_mq_ := none, audio_config_ := none }

theorem OnSessionEnded_of_ready (ready : s.IsSessionReady = true) :
    OnSessionEnded s = ((), s.cleared, s.statusReport) := by
  refine Emit.bind_eq (v := []) rfl (Emit.bind_eq (v := []) rfl (Emit.bind_eq (v := []) rfl ?_))
  rw [if_pos ready]
  exact Prod.ext rfl
    (Prod.ext (next_ReportSessionStatus (s := s.cleared)) (emitted_ReportSessionStatus (s := s.cleared)))

theorem OnSessionEnded_of_not_ready (idle : s.IsSessionReady = false) : OnSessionEnded s = ((), s.cleared, []) := by
  refine Emit.bind_eq (v := []) rfl (Emit.bind_eq (v := []) rfl (Emit.bind_eq (v := []) rfl ?_))
  rw [idle]
  rfl

end OnSessionEnded

section ReportAudioConfigChanged

theorem next_ReportAudioConfigChanged :
    (ReportAudioConfigChanged audio_config).next s =
      if is_offload_le_audio_session s.session_type_ then { s with audio_config_ := some audio_config } else s := by
  rw [ReportAudioConfigChanged, Emit.next_get_bind]
  split
  · simp only [Emit.next_bind, Emit.next_modify, Emit.next_forM, Emit.next_ite, Emit.next_emit, Emit.next_pure,
      ite_self, List.foldl_fixed]
  · rfl

theorem notMem_ReportAudioConfigChanged {cookie : UInt16} :
    .session_changed_cb_ cookie ∉ (ReportAudioConfigChanged audio_config).emitted s := by
  rw [ReportAudioConfigChanged, Emit.emitted_get_bind]
  split
  · intro told
    rw [Emit.emitted_bind, Emit.emitted_modify, List.nil_append,
      Emit.emitted_forM _ (fun observer => if observer.2.audio_configuration_changed_cb_
        then [Call.audio_configuration_changed_cb_ observer.1] else []) fun observer t => by
          rw [Emit.emitted_ite, Emit.emitted_emit, Emit.emitted_pure]] at told
    obtain ⟨observer, -, shown⟩ := List.mem_flatMap.mp told
    split at shown <;> simp at shown
  · exact List.not_mem_nil

end ReportAudioConfigChanged

section Observers

variable (value : SessionType → UInt16) (callbacks : PortStatusCallbacks)

/-- A registration changes the observers only. -/
theorem next_RegisterStatusCback :
    ∃ observers, (RegisterStatusCback value callbacks).next s = { s with observers_ := observers } := by
  simp only [RegisterStatusCback, Emit.next_get_bind]
  split
  · exact ⟨_, rfl⟩
  · exact ⟨_, rfl⟩

theorem next_ReportLowLatencyModeAllowedChanged (allowed : Bool) :
    (ReportLowLatencyModeAllowedChanged allowed).next s = { s with low_latency_allowed_ := allowed } := by
  rw [ReportLowLatencyModeAllowedChanged, Emit.next_bind, Emit.next_get_bind]
  simp only [Emit.next_modify, Emit.next_forM, Emit.next_ite, Emit.next_emit, Emit.next_pure, ite_self,
    List.foldl_fixed]

end Observers

end BluetoothAudioSession

section SessionCall

open BluetoothAudioSession

variable (value : SessionType → UInt16)

/-- A session keeps its type. -/
theorem session_type_next (call : SessionCall Payload) :
    ((call.run value).next s).session_type_ = s.session_type_ := by
  cases call with
  | OnSessionStarted stack_iface mq_desc audio_config =>
    cases stack_iface with
    | none => rfl
    | some stack_iface =>
      change ((OnSessionStarted (some stack_iface) mq_desc audio_config) s).2.1.session_type_ = _
      by_cases accepted : accepts s.session_type_ audio_config.getTag = true
      · by_cases unusable : Unusable mq_desc
        · rw [OnSessionStarted_of_unusable _ accepted unusable]
        · rw [OnSessionStarted_of_not_unusable _ accepted unusable]
      · rw [OnSessionStarted_of_not_accepts _ _ (Bool.not_eq_true _ ▸ accepted)]
  | OnSessionEnded =>
    change (OnSessionEnded s).2.1.session_type_ = _
    cases ready : s.IsSessionReady with
    | true => rw [OnSessionEnded_of_ready ready]; rfl
    | false => rw [OnSessionEnded_of_not_ready ready]; rfl
  | ReportAudioConfigChanged audio_config =>
    change ((ReportAudioConfigChanged audio_config).next s).session_type_ = _
    rw [next_ReportAudioConfigChanged]
    split <;> rfl
  | RegisterStatusCback callbacks =>
    obtain ⟨observers, after⟩ := next_RegisterStatusCback (s := s) value callbacks
    change ((RegisterStatusCback value callbacks).next s).session_type_ = _
    rw [after]
  | UnregisterStatusCback cookie => rfl
  | ReportLowLatencyModeAllowedChanged allowed =>
    change ((ReportLowLatencyModeAllowedChanged allowed).next s).session_type_ = _
    rw [next_ReportLowLatencyModeAllowedChanged]

end SessionCall

end Cypfr.BluetoothAudio
