import Cypfr.Proofs.BluetoothPcm

/-! # Transfers of samples move a prefix

Whatever happens to the session and its queue between the passes of a transfer, the transfer ends, uses no
queue that is not there and has moved the first bytes of its buffer, as many as it reports.
-/

namespace Cypfr.BluetoothAudio

open BluetoothAudioSession

variable {Payload : Type} {value : SessionType → UInt16} {d : Direction} {bytes : ℕ}

variable (value) in
theorem transfer_returns (lawful : d.Lawful) {session : BluetoothAudioSession Payload}
    (software : is_software_session session.session_type_ = true) {given : List Int8} (fits : bytes ≤ given.length)
    {timeout_ms fuel : ℕ} (enough : bytes + timeout_ms < fuel) (passes : ℕ → Pass Payload) :
    ∃ t, transfer value d bytes timeout_ms session passes fuel (some given) = .returned t ∧ t.Prefix d bytes given := by
  have start : Transfer.Prefix d bytes given
      { session := session, buffer := given, total := 0, timeout_ms := timeout_ms, moved := [] } :=
    ⟨Nat.zero_le _, rfl, rfl, rfl, fun _ => rfl⟩
  rw [transfer]
  split
  · exact ⟨_, rfl, start⟩
  · exact start.loop lawful fits (Transfer.isOffload_of_is_software_session software) enough passes

variable (value) in
/-- `OutWritePcmData` returns; what it has put into the queues is the part of the buffer that it reports. -/
theorem OutWritePcmData_moves {session : BluetoothAudioSession Payload}
    (buffer : Option (List Int8)) (software : is_software_session session.session_type_ = true)
    (fits : ∀ given ∈ buffer, bytes ≤ given.length) {fuel : ℕ} (enough : bytes + kFmqSendTimeoutMs < fuel)
    (passes : ℕ → Pass Payload) :
    ∃ t, OutWritePcmData value bytes session passes fuel buffer = .returned t ∧ t.total ≤ bytes ∧
      t.stream = (buffer.getD []).take t.total := by
  cases buffer with
  | none => exact ⟨_, rfl, Nat.zero_le _, rfl⟩
  | some given =>
    obtain ⟨t, returned, law⟩ := transfer_returns value writing_lawful software (fits given rfl) enough passes
    exact ⟨t, returned, law.within, law.kept (fun _ _ _ => rfl) ▸ law.moved⟩

/-- `InReadPcmData` returns; the part of the buffer that it reports is what it has taken from the queues, and the rest
is as it was. -/
theorem InReadPcmData_moves {session : BluetoothAudioSession Payload}
    (software : is_software_session session.session_type_ = true) {buffer : Option (List Int8)}
    (fits : ∀ given ∈ buffer, bytes ≤ given.length) {fuel : ℕ} (enough : bytes + kFmqReceiveTimeoutMs < fuel)
    (passes : ℕ → Pass Payload) :
    ∃ t, InReadPcmData value bytes session passes fuel buffer = .returned t ∧ t.total ≤ bytes ∧
      t.stream = t.buffer.take t.total ∧ t.stream.length = t.total ∧
      t.buffer.drop t.total = (buffer.getD []).drop t.total := by
  cases buffer with
  | none => exact ⟨_, rfl, Nat.zero_le _, rfl, rfl, rfl⟩
  | some given =>
    obtain ⟨t, returned, law⟩ := transfer_returns value reading_lawful software (fits given rfl) enough passes
    refine ⟨t, returned, law.within, law.moved, ?_, law.rest⟩
    have := law.within
    have := law.size
    have := fits given rfl
    rw [law.moved, List.length_take]
    omega

/-- Both transfers of a session with samples return and move a prefix, whatever happens between their passes. -/
theorem transfers_move_the_start (value : SessionType → UInt16) (bytes : ℕ) (session : BluetoothAudioSession Payload)
    (software : is_software_session session.session_type_ = true) (buffer : Option (List Int8))
    (fits : ∀ given ∈ buffer, bytes ≤ given.length) (passes : ℕ → Pass Payload) (fuel : ℕ)
    (enough : bytes + kFmqSendTimeoutMs < fuel) :
    (∃ t, OutWritePcmData value bytes session passes fuel buffer = .returned t ∧ t.total ≤ bytes ∧
      t.stream = (buffer.getD []).take t.total) ∧
    (∃ t, InReadPcmData value bytes session passes fuel buffer = .returned t ∧ t.total ≤ bytes ∧
      t.stream = t.buffer.take t.total ∧ t.stream.length = t.total ∧
      t.buffer.drop t.total = (buffer.getD []).drop t.total) :=
  ⟨OutWritePcmData_moves value _ software fits enough passes, InReadPcmData_moves software fits enough passes⟩

/-- Three of four bytes, over two queues: the session is started anew after the first pass and ends after the
second. -/
theorem transfer_over_two_queues :
    ∃ passes : ℕ → Pass Unit, ∃ session : BluetoothAudioSession Unit,
      (∃ t, OutWritePcmData (fun _ => 2) 4 session passes 1005 (some [1, 2, 3, 4]) = .returned t ∧ t.total = 3 ∧
        t.moved = [⟨7, [1, 2]⟩, ⟨8, [3]⟩]) ∧
      (∃ t, OutWritePcmData (fun _ => 2) 4 session passes 1005 (some [1, 2, 3, 4]) = .returned t ∧ t.total ≤ 4 ∧
        t.stream = [1, 2, 3, 4].take t.total) := by
  let started (memory : ℕ) : SessionCall Unit := .OnSessionStarted (some 1) (some ⟨memory, true⟩) ⟨.pcmConfig, ()⟩
  let passes : ℕ → Pass Unit
    | 0 => ⟨[started 7], 2, fun _ => 0, true⟩
    | 1 => ⟨[started 8], 1, fun _ => 0, true⟩
    | _ => ⟨[.OnSessionEnded], 1, fun _ => 0, true⟩
  let session : BluetoothAudioSession Unit := construct .A2DP_SOFTWARE_ENCODING_DATAPATH
  refine ⟨passes, session, ⟨_, rfl, rfl, rfl⟩, ?_⟩
  exact (transfers_move_the_start (fun _ => 2) 4 session rfl (some [1, 2, 3, 4])
    (by rintro _ ⟨⟩; exact Nat.le_refl 4) passes 1005 (by decide)).1

end Cypfr.BluetoothAudio
