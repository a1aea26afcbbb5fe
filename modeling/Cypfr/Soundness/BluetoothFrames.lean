import Cypfr.Machine.Run
import Cypfr.Model.BluetoothStream
import Cypfr.Soundness.BluetoothPcm

/-! # Frame counters of a Bluetooth output stream

A call that writes anything counts all the frames of its buffer. The counters therefore grow by the frames that
were accepted exactly when no call is accepted in part.
-/

namespace Cypfr.BluetoothAudio

open BluetoothAudioSession Machine

variable {Payload : Type} {value : SessionType → UInt16} {mix : Int8 × Int8 × Int8 × Int8 → Int8 × Int8}

section Queue

theorem length_downmix {count : ℕ} {buffer : List Int8} (fits : 4 * count ≤ buffer.length) :
    (downmix_to_mono_i16_from_stereo_i16 mix buffer count).length = 2 * count := by
  induction count generalizing buffer with
  | zero => simp [downmix_to_mono_i16_from_stereo_i16]
  | succ count ih =>
    match buffer, fits with
    | a :: b :: c :: d :: src, fits =>
      simp only [List.length_cons] at fits
      simp only [downmix_to_mono_i16_from_stereo_i16, List.length_cons]
      rw [ih (by omega)]
      omega
    | [], fits | [_], fits | [_, _], fits | [_, _, _], fits =>
      simp only [List.length_cons, List.length_nil] at fits
      omega

variable (value) in
theorem taken_le {session : BluetoothAudioSession Payload} (software : is_software_session session.session_type_ = true)
    (passes : ℕ → Pass Payload) (buffer : List Int8) : taken value session passes buffer ≤ buffer.length := by
  obtain ⟨t, returned, within, -⟩ := OutWritePcmData_moves value (some buffer) software
    (by rintro _ ⟨⟩; exact Nat.le_refl _) (Nat.lt_succ_self _) passes
  rw [taken, returned]
  exact within

end Queue

namespace Playback

variable (value mix) (data : ℕ → Int8) (p : Playback) (w : Write Payload)

/-- What the port hands to the queue. -/
def toQueue : List Int8 :=
  if p.out.bluetooth_output_.is_stereo_to_mono_ then
    downmix_to_mono_i16_from_stereo_i16 mix (p.handedIn data w) ((p.handedIn data w).length >>> 2)
  else
    p.handedIn data w

/-- The bytes of a frame on the queue. -/
def queueFrame : ℕ := if p.out.bluetooth_output_.is_stereo_to_mono_ then 2 else p.out.frame_size

/-- A buffer that can exist, on a session with samples whose queue takes whole frames. -/
structure WholeFrames : Prop where
  software : is_software_session w.session.session_type_ = true
  size : w.frames * p.out.frame_size < 2 ^ 64
  whole : p.queueFrame ∣ taken value w.session w.passes (p.toQueue mix data w)

/-- The queue takes nothing, or all that it is handed. -/
def Unsplit : Prop :=
  taken value w.session w.passes (p.toQueue mix data w) = 0 ∨
    taken value w.session w.passes (p.toQueue mix data w) = (p.toQueue mix data w).length

section Step

variable {value mix data p w}

variable (data) in
theorem length_handedIn : (p.handedIn data w).length = w.frames * p.out.frame_size := by simp [handedIn]

variable (mix data) in
/-- What the port reports and hands on, by the number of bytes it takes for one byte of the queue. -/
theorem exists_scale (inUse : p.out.bluetooth_output_.in_use value = true)
    (software : is_software_session w.session.session_type_ = true) :
    ∃ scale, 0 < scale ∧
      p.out.bluetooth_output_.WriteData value mix (taken value w.session w.passes) (p.handedIn data w) =
        taken value w.session w.passes (p.toQueue mix data w) * scale ∧
      (p.toQueue mix data w).length * scale = w.frames * p.out.frame_size ∧ p.queueFrame * scale =
      p.out.frame_size := by
  have size := length_handedIn data (p := p) (w := w)
  rw [BluetoothAudioPortAidl.WriteData, if_pos inUse, toQueue, queueFrame]
  by_cases mono : p.out.bluetooth_output_.is_stereo_to_mono_ = true
  · have four := p.out.mono_frame mono
    rw [four] at size
    have count : (p.handedIn data w).length >>> 2 = w.frames := by
      rw [size, Nat.shiftRight_eq_div_pow]
      omega
    rw [if_pos mono, if_pos mono, if_pos mono, count, four]
    refine ⟨2, by decide, ?_, by rw [length_downmix (by omega)]; omega, rfl⟩
    by_cases none : w.frames = 0
    · have empty := taken_le value software w.passes
        (downmix_to_mono_i16_from_stereo_i16 mix (p.handedIn data w) w.frames)
      rw [length_downmix (by omega)] at empty
      rw [if_pos none]
      omega
    · rw [if_neg none]
  · rw [if_neg mono, if_neg mono, if_neg mono]
    exact ⟨1, Nat.one_pos, (Nat.mul_one _).symm, by rw [size, Nat.mul_one], Nat.mul_one _⟩

/-- A started stream whose caller stands at a frame, with counters that have missed no frame. -/
structure Fed (value : SessionType → UInt16) (p : Playback) : Prop where
  started : p.out.GetState = .STARTED
  inUse : p.out.bluetooth_output_.in_use value = true
  frame : p.out.frame_size ∣ p.accepted
  counted : p.accepted / p.out.frame_size ≤ p.presented
  same : p.rendered = p.presented

/-- The counters have grown by the frames that were accepted. -/
def Exact (p : Playback) : Prop :=
  p.presented = p.accepted / p.out.frame_size ∧ p.rendered = p.accepted / p.out.frame_size

theorem Fed.exact_iff (fed : Fed value p) : p.Exact ↔ p.presented = p.accepted / p.out.frame_size := by
  rw [Exact, fed.same, and_self]

section Counting

variable {resume : BluetoothStreamOut → Retval × BluetoothStreamOut}

theorem Fed.write_eq (fed : Fed value p) :
    p.write value mix resume data w =
      p.out.writeStarted value mix (taken value w.session w.passes) (p.handedIn data w) :=
  if_neg (not_not.mpr fed.started)

variable (data) in
/-- A buffer of whole frames is counted by its frames. -/
theorem toNat_frames (small : w.frames * p.out.frame_size < 2 ^ 64) :
    (UInt64.ofNat ((p.handedIn data w).length / p.out.frame_size)).toNat = w.frames := by
  rw [length_handedIn data, Nat.mul_div_cancel _ p.out.frame_pos, UInt64.toNat_ofNat']
  exact Nat.mod_eq_of_lt (lt_of_le_of_lt (Nat.le_mul_of_pos_right _ p.out.frame_pos) small)

variable (resume) in
/-- What a call reports, in frames, and what it counts. -/
theorem Fed.write (fed : Fed value p) (whole : p.WholeFrames value mix data w) :
    ∃ frames ≤ w.frames, (p.next value mix resume data w).accepted = p.accepted + frames * p.out.frame_size ∧
      (p.next value mix resume data w).presented = p.presented + (if frames = 0 then 0 else w.frames) ∧
      (p.next value mix resume data w).rendered = p.rendered + (if frames = 0 then 0 else w.frames) ∧
      (p.next value mix resume data w).out.frame_size = p.out.frame_size ∧
      (p.next value mix resume data w).out.bluetooth_output_ = p.out.bluetooth_output_ ∧
      (p.Unsplit value mix data w ↔ frames = 0 ∨ frames = w.frames) := by
  obtain ⟨scale, positive, reported, size, unit⟩ :=
    exists_scale mix data fed.inUse whole.software
  obtain ⟨frames, took⟩ := whole.whole
  have within := taken_le value whole.software w.passes (p.toQueue mix data w)
  have inFrames : taken value w.session w.passes (p.toQueue mix data w) * scale = frames * p.out.frame_size := by
    rw [took, ← unit, Nat.mul_right_comm, Nat.mul_comm]
  have fewer : frames ≤ w.frames := by
    refine Nat.le_of_mul_le_mul_right (c := p.out.frame_size) ?_ p.out.frame_pos
    rw [← inFrames, ← size]
    exact Nat.mul_le_mul_right scale within
  have nothing : taken value w.session w.passes (p.toQueue mix data w) = 0 ↔ frames = 0 := by
    rw [← Nat.mul_left_inj (Nat.ne_of_gt positive), inFrames, Nat.zero_mul, Nat.mul_eq_zero]
    exact or_iff_left (Nat.ne_of_gt p.out.frame_pos)
  have everything : taken value w.session w.passes (p.toQueue mix data w) = (p.toQueue mix data w).length ↔
      frames = w.frames := by
    rw [← Nat.mul_left_inj (Nat.ne_of_gt positive), inFrames, size, Nat.mul_left_inj (Nat.ne_of_gt p.out.frame_pos)]
  have grown := toNat_frames data (p := p) whole.size
  rw [inFrames] at reported
  refine ⟨frames, fewer, ?_⟩
  rw [Unsplit, nothing, everything, Playback.next, fed.write_eq, BluetoothStreamOut.writeStarted, reported]
  by_cases none : frames = 0
  · simp [none]
  · have some : frames * p.out.frame_size ≠ 0 := Nat.mul_ne_zero none (Nat.ne_of_gt p.out.frame_pos)
    simp only [if_pos some, if_neg none, UInt64.add_comm _ (UInt64.ofNat _), UInt64.add_sub_cancel, grown, and_self]

theorem Fed.next (fed : Fed value p) (whole : p.WholeFrames value mix data w) :
    Fed value (p.next value mix resume data w) ∧
      ((p.next value mix resume data w).Exact ↔ p.Exact ∧ p.Unsplit value mix data w) := by
  obtain ⟨frames, fewer, accepted, presented, rendered, size, port, unsplit⟩ := fed.write resume whole
  have quotient : (p.next value mix resume data w).accepted / p.out.frame_size =
    p.accepted / p.out.frame_size + frames := by
    rw [accepted, Nat.add_mul_div_right _ _ p.out.frame_pos]
  have counted := fed.counted
  have after : Fed value (p.next value mix resume data w) := by
    constructor
    · rw [BluetoothStreamOut.GetState, port]
      exact fed.started
    · rw [port]
      exact fed.inUse
    · rw [size, accepted]
      exact Nat.dvd_add fed.frame (Nat.dvd_mul_left _ _)
    · rw [size, quotient, presented]
      split <;> omega
    · rw [rendered, presented, fed.same]
  refine ⟨after, ?_⟩
  rw [after.exact_iff, fed.exact_iff, unsplit, size, quotient, presented]
  split <;> omega

end Counting

end Step

/-- A caller at the beginning of its data. -/
def start (out : BluetoothStreamOut) : Playback := { out := out, accepted := 0, rendered := 0, presented := 0 }

end Playback

open Playback

/-- The counters of a started stream have grown by the frames that were accepted exactly when no call was accepted in
part. -/
theorem frames_exact_iff (value : SessionType → UInt16) (mix : Int8 × Int8 × Int8 × Int8 → Int8 × Int8)
    (resume : BluetoothStreamOut → Retval × BluetoothStreamOut) (data : ℕ → Int8) (out : BluetoothStreamOut)
    (started : out.GetState = .STARTED) (inUse : out.bluetooth_output_.in_use value = true)
    (calls : List (Write Payload))
    (whole : EachStep (Playback.next value mix resume data) (WholeFrames value mix data) (start out) calls) :
    (calls.foldl (Playback.next value mix resume data) (start out)).Exact ↔
      EachStep (Playback.next value mix resume data) (Unsplit value mix data) (start out) calls := by
  have fed : Fed value (start out) := ⟨started, inUse, Nat.dvd_zero _, by simp [start], rfl⟩
  refine final_iff_eachStep_of whole fed (fun p w fed whole => (fed.next whole).1) ?_ fun p w fed whole =>
    (fed.next whole).2
  rw [fed.exact_iff]
  simp [start]

section Stereo

/-- A call for two stereo frames, of which the queue takes what it is offered room for and then fails. -/
def twoFrames (room : ℕ) : Write Unit :=
  { frames := 2
    session :=
      { session_type_ := .A2DP_SOFTWARE_ENCODING_DATAPATH, stack_iface_ := some 1, data_mq_ := some ⟨7, true⟩,
        audio_config_ := some ⟨.pcmConfig, ()⟩, low_latency_allowed_ := true, observers_ := ∅ }
    passes := fun n => ⟨[], room, fun _ => 0, n = 0⟩ }

def stereoStream : BluetoothStreamOut :=
  { bluetooth_output_ := ⟨0x0200, .STARTED, .A2DP_SOFTWARE_ENCODING_DATAPATH, false⟩, frames_rendered_ := 0,
    frames_presented_ := 0, frame_size := 4, frame_pos := by decide, mono_frame := by rintro ⟨⟩ }

def typeValue (session_type : SessionType) : UInt16 := if session_type = .UNKNOWN then 0 else 2

theorem twoFrames_whole {room : ℕ} (whole : 4 ∣ taken typeValue (twoFrames room).session (twoFrames room).passes
    (List.replicate 8 0)) :
    EachStep (Playback.next typeValue (fun _ => (0, 0)) (fun out => (.ok, out)) fun _ => 0)
      (WholeFrames typeValue (fun _ => (0, 0)) fun _ => 0) (start stereoStream) [twoFrames room] :=
  eachStep_cons ⟨rfl, (by decide : 2 * 4 < 2 ^ 64), whole⟩ eachStep_nil

/-- All frames are taken, and counted. -/
theorem full_write_exact :
    ([twoFrames 8].foldl (Playback.next typeValue (fun _ => (0, 0)) (fun out => (.ok, out)) fun _ => 0)
      (start stereoStream)).Exact :=
  (frames_exact_iff typeValue (fun _ => (0, 0)) (fun out => (.ok, out)) (fun _ => 0) stereoStream rfl (by decide)
    [twoFrames 8] (twoFrames_whole (by decide))).mpr (eachStep_cons (.inr (by decide)) eachStep_nil)

/-- One of two frames is taken, and two are counted. -/
theorem partial_write_not_exact :
    ¬ ∀ (value : SessionType → UInt16) (mix : Int8 × Int8 × Int8 × Int8 → Int8 × Int8)
        (resume : BluetoothStreamOut → Retval × BluetoothStreamOut) (data : ℕ → Int8) (out : BluetoothStreamOut)
        (calls : List (Write Unit)), out.GetState = .STARTED → out.bluetooth_output_.in_use value = true →
        EachStep (Playback.next value mix resume data) (WholeFrames value mix data) (start out) calls →
        (calls.foldl (Playback.next value mix resume data) (start out)).Exact := by
  intro always
  have exact := always typeValue (fun _ => (0, 0)) (fun out => (.ok, out)) (fun _ => 0) stereoStream [twoFrames 4] rfl
    (by decide) (twoFrames_whole (by decide))
  exact absurd exact.1 (by decide)

end Stereo

end Cypfr.BluetoothAudio
