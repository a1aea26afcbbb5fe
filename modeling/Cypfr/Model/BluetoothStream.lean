import Cypfr.Model.BluetoothPort

/-! # Writing to a Bluetooth output stream, and the stack behind it

`out_write` and what a caller makes of it that hands in again what a call did not accept. Then a stream whose
functions are used by one caller at a time, as they hold the mutex of the stream, with the stack that answers the
requests of its port in order, each at most once and after any delay.
-/

namespace Cypfr.BluetoothAudio

section Write

/-- `downmix_to_mono_i16_from_stereo_i16`, with what it makes of one frame. -/
def downmix_to_mono_i16_from_stereo_i16 (mix : Int8 × Int8 × Int8 × Int8 → Int8 × Int8) : List Int8 → ℕ → List Int8
  | a :: b :: c :: d :: src, count + 1 =>
    (mix (a, b, c, d)).1 :: (mix (a, b, c, d)).2 :: downmix_to_mono_i16_from_stereo_i16 mix src count
  | _, _ => []

variable {Payload : Type} (value : SessionType → UInt16)

/-- The count that a transfer reports. -/
def Outcome.count : Outcome Payload → ℕ
  | .again t => t.total
  | .returned t => t.total
  | .nullDereference => 0

/-- What the queue of a session takes of a buffer, with passes enough for the transfer to end. -/
def taken (session : BluetoothAudioSession Payload) (passes : ℕ → Pass Payload) (buffer : List Int8) : ℕ :=
  (OutWritePcmData value buffer.length session passes (buffer.length + kFmqSendTimeoutMs + 1) (some buffer)).count

variable (mix : Int8 × Int8 × Int8 × Int8 → Int8 × Int8) (queue : List Int8 → ℕ)

def BluetoothAudioPortAidl.WriteData (port : BluetoothAudioPortAidl) (buffer : List Int8) : ℕ :=
  if port.in_use value then
    if port.is_stereo_to_mono_ then
      let write_frames := buffer.length >>> 2
      if write_frames = 0 then 0 else queue (downmix_to_mono_i16_from_stereo_i16 mix buffer write_frames) * 2
    else
      queue buffer
  else
    0

namespace BluetoothStreamOut

variable (out : BluetoothStreamOut) (buffer : List Int8)

/-- `out_write` on a stream that is started. -/
def writeStarted : ℕ × BluetoothStreamOut :=
  let totalWritten := out.bluetooth_output_.WriteData value mix queue buffer
  if totalWritten ≠ 0 then
    let frames := UInt64.ofNat (buffer.length / out.frame_size)
    (totalWritten, { out with
      frames_rendered_ := out.frames_rendered_ + frames
      frames_presented_ := out.frames_presented_ + frames })
  else
    (totalWritten, out)

/-- `out_write`, with what `out_resume` comes to. -/
def out_write (resume : BluetoothStreamOut → Retval × BluetoothStreamOut) : ℕ × BluetoothStreamOut :=
  if out.GetState ≠ .STARTED then
    let resumed := resume out
    if resumed.1 ≠ .ok then
      ((if resumed.2.GetState = .DISABLED then buffer.length else 0), resumed.2)
    else
      resumed.2.writeStarted value mix queue buffer
  else
    out.writeStarted value mix queue buffer

end BluetoothStreamOut

/-- A stream with the caller that feeds it: how many bytes of its data the calls have accepted, and by how many frames
the counters have grown. -/
structure Playback where
  out : BluetoothStreamOut
  accepted : ℕ
  rendered : ℕ
  presented : ℕ

/-- A call of `out_write` for the next frames of the data, with what happens in the session meanwhile. -/
structure Write (Payload : Type) where
  frames : ℕ
  session : BluetoothAudioSession Payload
  passes : ℕ → Pass Payload

variable (resume : BluetoothStreamOut → Retval × BluetoothStreamOut) (data : ℕ → Int8)

namespace Playback

variable (p : Playback) (w : Write Payload)

/-- The frames that the caller hands in: those behind what has been accepted. -/
def handedIn : List Int8 := (List.range (w.frames * p.out.frame_size)).map fun i => data (p.accepted + i)

def write : ℕ × BluetoothStreamOut :=
  p.out.out_write value mix (taken value w.session w.passes) (p.handedIn data w) resume

def next : Playback :=
  let written := p.write value mix resume data w
  { out := written.2
    accepted := p.accepted + written.1
    rendered := p.rendered + (written.2.frames_rendered_ - p.out.frames_rendered_).toNat
    presented := p.presented + (written.2.frames_presented_ - p.out.frames_presented_).toNat }

end Playback

end Write

section Stack

/-- The functions of a stream that may wait for the stack, with what is left to do behind the wait. -/
inductive Caller where
  | out_resume
  | out_standby
  | out_pause
  | out_write
  | out_set_parameters (params : Params)
deriving DecidableEq

/-- A use of `Start` or `Suspend`: the request has still to be made, or its answer is awaited. -/
structure InProgress where
  request : Request
  caller : Caller
  waits : Bool
deriving DecidableEq

/-- A stream, the requests that the stack has accepted and not answered, and what holds the mutex. -/
structure System where
  out : BluetoothStreamOut
  requests : List Request
  call : Option InProgress

inductive Event where
  | out_resume
  | out_standby
  | out_pause
  | out_write
  | out_set_parameters (params : Params)
  /-- The session hands the request of the call to the stack, which accepts it or does not. -/
  | request (accepted : Bool)
  /-- The stack answers the oldest request. -/
  | answer (status : BluetoothAudioStatus)
  /-- The oldest request will not be answered. -/
  | forget
  /-- The waiting call finds that the state has changed. -/
  | notified
  /-- The waiting call gives up. -/
  | timeout
  /-- The session tells its observers that it has changed. -/
  | sessionChanged
deriving DecidableEq

namespace System

variable (value : SessionType → UInt16) (s : System)

/-- A function has decided what it does at once. `Start` and `Suspend` do nothing for a port that is not in use or not
in the state that they require. -/
def begin (caller : Caller) (decided : Decision × BluetoothStreamOut) : System :=
  match decided.1 with
  | .returns _ => { s with out := decided.2 }
  | .calls request =>
    if decided.2.bluetooth_output_.in_use value ∧ decided.2.GetState = request.source then
      { s with
        out := decided.2.setState request.transition
        call := some { request := request, caller := caller, waits := false } }
    else
      { s with out := decided.2 }

/-- What a function of the stream does when its `Start` or `Suspend` has returned. -/
def finish (caller : Caller) : System :=
  match caller with
  | .out_set_parameters params => { s with out := s.out.out_set_parameters_suspended value params, call := none }
  | _ => { s with call := none }

/-- A function of the stream waits for the mutex while another one holds it. -/
def use (caller : Caller) (decided : Decision × BluetoothStreamOut) : System :=
  if s.call = none then s.begin value caller decided else s

/-- A callback of the port changes its state only. -/
def onPort (callback : BluetoothAudioPortAidl → BluetoothAudioPortAidl) : System :=
  { s with out := s.out.setState (callback s.out.bluetooth_output_).state_ }

def step : Event → System
  | .out_resume => s.use value .out_resume (s.out.out_resume, s.out)
  | .out_standby => s.use value .out_standby s.out.out_standby
  | .out_pause => s.use value .out_pause s.out.out_pause
  | .out_write =>
    s.use value .out_write (if s.out.GetState ≠ .STARTED then s.out.out_resume else .returns .ok, s.out)
  | .out_set_parameters params => s.use value (.out_set_parameters params) (s.out.out_set_parameters value params)
  | .request accepted =>
    match s.call with
    | none => s
    | some c =>
      if c.waits then
        s
      else if accepted then
        { s with requests := s.requests ++ [c.request], call := some { c with waits := true } }
      else
        s.finish value c.caller
  | .answer status =>
    match s.requests with
    | [] => s
    | r :: rest =>
      { s.onPort fun port => port.control_result_cb value port.cookie_ r.start_resp status with requests := rest }
  | .forget => { s with requests := s.requests.tail }
  | .notified =>
    match s.call with
    | none => s
    | some c => if c.waits ∧ s.out.GetState ≠ c.request.transition then s.finish value c.caller else s
  | .timeout =>
    match s.call with
    | none => s
    | some c => if c.waits then s.finish value c.caller else s
  | .sessionChanged => s.onPort fun port => port.session_changed_cb value port.cookie_

end System

end Stack

end Cypfr.BluetoothAudio
