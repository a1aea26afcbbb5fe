import Cypfr.Model.BluetoothStream

/-! # The presentation position of a Bluetooth output stream

`out_calculate_feeding_delay_ms` and `out_get_presentation_position` of `bluetooth/audio/hw/stream_apis.cc`: the
position is that of the counter of the stack, unless this is more than the latency behind the frames written, less the
latency. Then a stream that is written to and asked while the stack transmits.
-/

namespace Cypfr.BluetoothAudio

variable {Time : Type} (value : SessionType → UInt16)

/-- What the stack reports. -/
structure PresentationPosition (Time : Type) where
  remoteDeviceAudioDelayNanos : UInt64
  transmittedOctets : UInt64
  transmittedOctetsTimestamp : Time

/-- `GetPresentationPosition`, with what the sessions answer; a port that is not in use leaves the outputs alone. -/
def BluetoothAudioPortAidl.GetPresentationPosition (port : BluetoothAudioPortAidl)
    (session : SessionType → Bool × PresentationPosition Time) : Bool × Option (PresentationPosition Time) :=
  if port.in_use value then
    ((session port.session_type_).1, some (session port.session_type_).2)
  else
    (false, none)

def kMinimumDelayMs : UInt64 := 50

def kMaximumDelayMs : UInt64 := 1000

def kExtraAudioSyncMs : UInt64 := 200

/-- An output stream with what its latency is computed from. -/
structure TimedStreamOut extends BluetoothStreamOut where
  sample_rate_ : UInt32
  frames_count_ : UInt64

structure FeedingDelay (Time : Type) where
  latency_ms : UInt32
  frames : UInt64
  timestamp : Time

namespace TimedStreamOut

variable (out : TimedStreamOut)

/-- The delay that is used for a report, and whether it is the reported one. -/
def delay_report_ms (report : Bool × Option (PresentationPosition Time)) : UInt64 × Bool :=
  let delay_report_ms := report.2.elim 0 (fun position => position.remoteDeviceAudioDelayNanos) / 1000000
  if report.1 ∧ kMinimumDelayMs < delay_report_ms ∧ delay_report_ms < kMaximumDelayMs then
    (delay_report_ms, true)
  else
    (out.frames_count_ * 1000 / out.sample_rate_.toUInt64 + kExtraAudioSyncMs, false)

def latency_frames (delay_report_ms : UInt64) : UInt64 := delay_report_ms * out.sample_rate_.toUInt64 / 1000

/-- The frames that the stack has transmitted. -/
def absorbed_frames (absorbed_bytes : UInt64) : UInt64 := UInt64.ofNat (absorbed_bytes.toNat / out.frame_size)

/-- `out_calculate_feeding_delay_ms`, with the time of the clock. -/
def out_calculate_feeding_delay_ms (report : Bool × Option (PresentationPosition Time)) (clock : Time) :
    FeedingDelay Time :=
  let (delay_report_ms, timestamp_fetched) := out.delay_report_ms report
  let latency_frames := out.latency_frames delay_report_ms
  let absorbed := out.absorbed_frames (report.2.elim 0 fun position => position.transmittedOctets)
  let frames :=
    if out.frames_presented_ < absorbed then out.frames_presented_
    else if latency_frames < out.frames_presented_ - absorbed then out.frames_presented_
    else absorbed
  { latency_ms := delay_report_ms.toUInt32
    frames := if latency_frames < frames then frames - latency_frames else 0
    timestamp :=
      if timestamp_fetched then report.2.elim clock (fun position => position.transmittedOctetsTimestamp) else clock }

/-- `out_get_presentation_position` with both pointers: the frames and the timestamp. -/
def out_get_presentation_position (session : SessionType → Bool × PresentationPosition Time) (clock : Time) :
    UInt64 × Time :=
  let delay := out.out_calculate_feeding_delay_ms (out.bluetooth_output_.GetPresentationPosition value session) clock
  (delay.frames, delay.timestamp)

end TimedStreamOut

/-- A call for the position: what it returned, and both counters as it found them. -/
structure Answer where
  position : UInt64
  presented : UInt64
  absorbed : UInt64

/-- A stream with the counter of the stack, the bytes that have been written, and the calls for the position so far. -/
structure Presentation where
  out : TimedStreamOut
  transmittedOctets : UInt64
  written : ℕ
  answers : List Answer

namespace Presentation

inductive Event (Time : Type) where
  /-- A write, with what the queue takes of a buffer. -/
  | out_write (buffer : List Int8) (queue : List Int8 → ℕ)
  /-- The counter of the stack reaches a value. -/
  | transmit (octets : UInt64)
  /-- A call for the position, with the time the stack reports and that of the clock. -/
  | out_get_presentation_position (timestamp clock : Time)

variable (mix : Int8 × Int8 × Int8 × Int8 → Int8 × Int8) (resume : BluetoothStreamOut → Retval × BluetoothStreamOut)
  (delayNanos : UInt64) (p : Presentation)

def step : Event Time → Presentation
  | .out_write buffer queue =>
    let written := p.out.out_write value mix queue buffer resume
    { p with
      out := { p.out with toBluetoothStreamOut := written.2 }
      written := p.written + written.1 }
  | .transmit octets => { p with transmittedOctets := octets }
  | .out_get_presentation_position timestamp clock =>
    let report := fun _ => (true, ⟨delayNanos, p.transmittedOctets, timestamp⟩)
    { p with
      answers := p.answers ++ [
        { position := (p.out.out_get_presentation_position value report clock).1
          presented := p.out.frames_presented_
          absorbed := p.out.absorbed_frames p.transmittedOctets }] }

end Presentation

end Cypfr.BluetoothAudio
