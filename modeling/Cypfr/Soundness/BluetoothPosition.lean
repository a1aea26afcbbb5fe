import Cypfr.Machine.Run
import Cypfr.Model.BluetoothPosition
import Cypfr.Soundness.BluetoothFrames
import Mathlib.Data.List.Chain

/-! # Positions that go back

A position never exceeds the frames written. It is that of the counter of the stack, or, where this is further behind
than the latency, that of the frames written, as if the stack had been reset; a counter that was merely late may then
come back into use before it has reached what was reported.
-/

namespace Cypfr.BluetoothAudio

open Machine

/-- The position by both counters. -/
def positionOf (latency presented absorbed : ℕ) : ℕ :=
  (if presented < absorbed ∨ latency < presented - absorbed then presented else absorbed) - latency

theorem positionOf_le (latency presented absorbed : ℕ) : positionOf latency presented absorbed ≤ presented := by
  rw [positionOf]
  split_ifs <;> omega

/-- Two calls with counters that have not gone back: the position goes back exactly when the stack was late in the
first call, is not in the second, and has still not reached what was written before the first. -/
theorem positionOf_mono_iff {latency presented presented' absorbed absorbed' : ℕ} (written : presented ≤ presented')
    (transmitted : absorbed ≤ absorbed') :
    positionOf latency presented absorbed ≤ positionOf latency presented' absorbed' ↔
      (latency < presented - absorbed → latency < presented' - absorbed' ∨ presented ≤ absorbed') := by
  rw [positionOf, positionOf]
  split_ifs <;> omega

section Delay

variable {Time : Type} (out : TimedStreamOut)

/-- A delay that the stream accepts. -/
def ValidDelay (delayNanos : UInt64) : Prop :=
  kMinimumDelayMs < delayNanos / 1000000 ∧ delayNanos / 1000000 < kMaximumDelayMs

/-- The frames that are played during the delay. -/
def TimedStreamOut.latency (delayNanos : UInt64) : ℕ := (out.latency_frames (delayNanos / 1000000)).toNat

variable {out} {value : SessionType → UInt16} {delayNanos : UInt64}

theorem toNat_behind (ahead behind : UInt64) :
    (if behind < ahead then ahead - behind else 0).toNat = ahead.toNat - behind.toNat := by
  split_ifs with less
  · exact UInt64.toNat_sub_of_le _ _ (UInt64.le_of_lt less)
  · have more := UInt64.le_iff_toNat_le.mp (UInt64.not_lt.mp less)
    rw [UInt64.toNat_zero]
    omega

/-- The choice between the counters, without wrapping around. -/
theorem toNat_chosen (latency presented absorbed : UInt64) :
    (if presented < absorbed then presented else if latency < presented - absorbed then presented else absorbed).toNat =
      if presented.toNat < absorbed.toNat ∨ latency.toNat < presented.toNat - absorbed.toNat then presented.toNat
      else absorbed.toNat := by
  by_cases ahead : presented < absorbed
  · rw [if_pos ahead, if_pos (.inl (UInt64.lt_iff_toNat_lt.mp ahead))]
  · have late : latency < presented - absorbed ↔ latency.toNat < presented.toNat - absorbed.toNat := by
      rw [UInt64.lt_iff_toNat_lt, UInt64.toNat_sub_of_le _ _ (UInt64.not_lt.mp ahead)]
    have behind : ¬ presented.toNat < absorbed.toNat := fun less => ahead (UInt64.lt_iff_toNat_lt.mpr less)
    simp only [ahead, behind, late, if_false, false_or]
    split_ifs <;> rfl

theorem delay_report_ms_valid (valid : ValidDelay delayNanos) (octets : UInt64) (timestamp : Time) :
    out.delay_report_ms (true, some ⟨delayNanos, octets, timestamp⟩) = (delayNanos / 1000000, true) :=
  if_pos ⟨rfl, valid⟩

/-- With a valid delay the position is that of both counters. -/
theorem toNat_position (valid : ValidDelay delayNanos) (inUse : out.bluetooth_output_.in_use value = true)
    (octets : UInt64) (timestamp clock : Time) :
    (out.out_get_presentation_position value (fun _ => (true, ⟨delayNanos, octets, timestamp⟩)) clock).1.toNat =
      positionOf (out.latency delayNanos) out.frames_presented_.toNat (out.absorbed_frames octets).toNat := by
  rw [TimedStreamOut.out_get_presentation_position, BluetoothAudioPortAidl.GetPresentationPosition, if_pos inUse]
  simp only [TimedStreamOut.out_calculate_feeding_delay_ms, delay_report_ms_valid valid, Option.elim_some]
  rw [toNat_behind, toNat_chosen, positionOf, TimedStreamOut.latency]

end Delay

namespace Presentation

variable {Time : Type} (value : SessionType → UInt16) (mix : Int8 × Int8 × Int8 × Int8 → Int8 × Int8)
  (resume : BluetoothStreamOut → Retval × BluetoothStreamOut) (delayNanos : UInt64) (p : Presentation)
  (e : Event Time)

/-- Both counters go forward: a write does not take the frames written past their 64 bits, and the counter of the stack
is not set back. -/
def Forward : Prop :=
  match e with
  | .out_write buffer _ => p.out.frames_presented_.toNat + buffer.length / p.out.frame_size < 2 ^ 64
  | .transmit octets => p.transmittedOctets ≤ octets
  | .out_get_presentation_position _ _ => True

/-- Every position is at most the frames written when it was returned, and the positions never go back. -/
structure Steady (p : Presentation) : Prop where
  bounded : ∀ a ∈ p.answers, a.position ≤ a.presented
  ordered : p.answers.IsChain fun a b => a.position ≤ b.position

/-- A call may follow the last one: where that found the stack late, it still is, or it has by now transmitted all
that was written before that call. -/
def MayAsk : Prop :=
  match e with
  | .out_get_presentation_position _ _ =>
    ∀ last, p.answers.getLast? = some last →
      p.out.latency delayNanos < last.presented.toNat - last.absorbed.toNat →
        p.out.latency delayNanos <
            p.out.frames_presented_.toNat - (p.out.absorbed_frames p.transmittedOctets).toNat ∨
          last.presented.toNat ≤ (p.out.absorbed_frames p.transmittedOctets).toNat
  | _ => True

/-- A started stream that knows its last answer. -/
structure Running (p : Presentation) : Prop where
  started : p.out.GetState = .STARTED
  inUse : p.out.bluetooth_output_.in_use value = true
  last : ∀ last, p.answers.getLast? = some last →
    last.position.toNat = positionOf (p.out.latency delayNanos) last.presented.toNat last.absorbed.toNat ∧
      last.presented ≤ p.out.frames_presented_ ∧ last.absorbed ≤ p.out.absorbed_frames p.transmittedOctets

section Step

variable {value mix resume delayNanos p e}

theorem absorbed_frames_mono (out : TimedStreamOut) {octets octets' : UInt64} (more : octets ≤ octets') :
    out.absorbed_frames octets ≤ out.absorbed_frames octets' := by
  have bound (octets : UInt64) : octets.toNat / out.frame_size < 2 ^ 64 :=
    lt_of_le_of_lt (Nat.div_le_self _ _) octets.toNat_lt
  rw [UInt64.le_iff_toNat_le, TimedStreamOut.absorbed_frames, TimedStreamOut.absorbed_frames, UInt64.toNat_ofNat',
    UInt64.toNat_ofNat', Nat.mod_eq_of_lt (bound octets), Nat.mod_eq_of_lt (bound octets')]
  exact Nat.div_le_div_right (UInt64.le_iff_toNat_le.mp more)

variable (value mix resume) in
/-- A write on a started stream counts the frames of its buffer or none, and leaves the port and the frame size. -/
theorem out_write_started (out : BluetoothStreamOut) (started : out.GetState = .STARTED) (buffer : List Int8)
    (queue : List Int8 → ℕ) (fits : out.frames_presented_.toNat + buffer.length / out.frame_size < 2 ^ 64) :
    (out.out_write value mix queue buffer resume).2.bluetooth_output_ = out.bluetooth_output_ ∧
      (out.out_write value mix queue buffer resume).2.frame_size = out.frame_size ∧
      out.frames_presented_ ≤ (out.out_write value mix queue buffer resume).2.frames_presented_ := by
  rw [BluetoothStreamOut.out_write, if_neg (not_not.mpr started), BluetoothStreamOut.writeStarted]
  simp only
  split_ifs
  · refine ⟨rfl, rfl, ?_⟩
    rw [UInt64.le_iff_toNat_le, UInt64.toNat_add, UInt64.toNat_ofNat']
    rw [Nat.mod_eq_of_lt (a := buffer.length / out.frame_size) (by omega), Nat.mod_eq_of_lt fits]
    exact Nat.le_add_right _ _
  · exact ⟨rfl, rfl, UInt64.le_refl _⟩

theorem Running.step (running : Running value delayNanos p) (valid : ValidDelay delayNanos) (forward : p.Forward e) :
    Running value delayNanos (p.step value mix resume delayNanos e) := by
  obtain ⟨started, inUse, known⟩ := running
  cases e with
  | out_write buffer queue =>
    obtain ⟨port, size, more⟩ :=
      out_write_started value mix resume p.out.toBluetoothStreamOut started buffer queue forward
    refine ⟨?_, ?_, fun last found => ?_⟩
    · simp only [Presentation.step, BluetoothStreamOut.GetState, port]
      exact started
    · simp only [Presentation.step, port]
      exact inUse
    · obtain ⟨position, presented, absorbed⟩ := known last found
      refine ⟨position, UInt64.le_trans presented more, ?_⟩
      simp only [Presentation.step, TimedStreamOut.absorbed_frames, size]
      exact absorbed
  | transmit octets =>
    refine ⟨started, inUse, fun last found => ?_⟩
    obtain ⟨position, presented, absorbed⟩ := known last found
    exact ⟨position, presented, UInt64.le_trans absorbed (absorbed_frames_mono p.out forward)⟩
  | out_get_presentation_position timestamp clock =>
    refine ⟨started, inUse, fun last found => ?_⟩
    simp only [Presentation.step, List.getLast?_concat] at found
    obtain rfl := Option.some.inj found
    exact ⟨toNat_position valid inUse _ timestamp clock, UInt64.le_refl _, UInt64.le_refl _⟩

/-- A step keeps the positions in order exactly when its call may follow the last one. -/
theorem Running.steady_iff (running : Running value delayNanos p) (valid : ValidDelay delayNanos) :
    (p.step value mix resume delayNanos e).Steady ↔ p.Steady ∧ p.MayAsk delayNanos e := by
  cases e with
  | out_write buffer queue => exact ⟨fun steady => ⟨⟨steady.bounded, steady.ordered⟩, trivial⟩,
      fun both => ⟨both.1.bounded, both.1.ordered⟩⟩
  | transmit octets => exact ⟨fun steady => ⟨⟨steady.bounded, steady.ordered⟩, trivial⟩,
      fun both => ⟨both.1.bounded, both.1.ordered⟩⟩
  | out_get_presentation_position timestamp clock =>
    have position := toNat_position valid running.inUse p.transmittedOctets timestamp clock
    have bounded := position.le.trans (positionOf_le _ _ _)
    have follows : p.MayAsk delayNanos (.out_get_presentation_position timestamp clock) ↔
        ∀ last, p.answers.getLast? = some last → last.position ≤ (p.out.out_get_presentation_position value
          (fun _ => (true, ⟨delayNanos, p.transmittedOctets, timestamp⟩)) clock).1 := by
      apply forall_congr'
      intro last
      apply imp_congr_right
      intro found
      obtain ⟨before, presented, absorbed⟩ := running.last last found
      rw [UInt64.le_iff_toNat_le, before, position,
        positionOf_mono_iff (UInt64.le_iff_toNat_le.mp presented) (UInt64.le_iff_toNat_le.mp absorbed)]
    rw [follows]
    constructor
    · rintro ⟨bounds, ordered⟩
      rw [Presentation.step, List.isChain_append] at ordered
      refine ⟨⟨fun a member => bounds a (List.mem_append_left _ member), ordered.1⟩, fun last found => ?_⟩
      exact ordered.2.2 last found _ rfl
    · rintro ⟨⟨bounds, ordered⟩, follows⟩
      constructor
      · intro a member
        rcases List.mem_append.mp member with earlier | now
        · exact bounds a earlier
        · obtain rfl := List.mem_singleton.mp now
          exact UInt64.le_iff_toNat_le.mpr bounded
      · rw [Presentation.step, List.isChain_append]
        refine ⟨ordered, List.isChain_singleton _, fun last found a head => ?_⟩
        obtain rfl := Option.some.inj head
        exact follows last found

end Step

section Late

end Late

end Presentation

end Cypfr.BluetoothAudio
