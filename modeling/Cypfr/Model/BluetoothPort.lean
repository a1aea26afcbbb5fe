import Cypfr.Model.BluetoothPcm

/-! # Bluetooth ports and their output streams

`bluetooth/audio/hw/device_port_proxy.cc` and `stream_apis.cc`: a port is the audio module's end of a session, and an
output stream starts, suspends and feeds it. `Start` and `Suspend` set a transitional state, request the stack
and wait until an answer of the stack or a change of the session has set another one.

A test of the state and what the function does at once under it are one step. The times of writes are left out.
-/

namespace Cypfr.BluetoothAudio

inductive BluetoothStreamState where
  | DISABLED
  | STANDBY
  | STARTING
  | STARTED
  | SUSPENDING
  | UNKNOWN
deriving DecidableEq

structure BluetoothAudioPortAidl where
  cookie_ : UInt16
  state_ : BluetoothStreamState
  session_type_ : SessionType
  is_stereo_to_mono_ : Bool
deriving DecidableEq

namespace BluetoothAudioPortAidl

variable (value : SessionType → UInt16) (port : BluetoothAudioPortAidl)

def in_use : Bool := port.cookie_ != kObserversCookieUndefined value

def IsA2dp : Bool :=
  port.session_type_ = .A2DP_SOFTWARE_ENCODING_DATAPATH || port.session_type_ = .A2DP_HARDWARE_OFFLOAD_ENCODING_DATAPATH

def SetState (state : BluetoothStreamState) : BluetoothAudioPortAidl := { port with state_ := state }

def ControlResultHandler (status : BluetoothAudioStatus) : BluetoothAudioPortAidl :=
  if port.in_use value then
    match port.state_ with
    | .STARTED => if status = .RECONFIGURATION ∨ status = .SUCCESS then port.SetState .STANDBY else port
    | .STARTING => if status = .SUCCESS then port.SetState .STARTED else port.SetState .STANDBY
    | .SUSPENDING => if status = .SUCCESS then port.SetState .STANDBY else port.SetState .DISABLED
    | _ => port
  else
    port

/-- The callback for results: whether a start or a suspend is answered is not handed on. -/
def control_result_cb (cookie : UInt16) (_start_resp : Bool) (status : BluetoothAudioStatus) : BluetoothAudioPortAidl :=
  if port.in_use value then
    if port.cookie_ ≠ cookie then port else port.ControlResultHandler value status
  else
    port

def SessionChangedHandler : BluetoothAudioPortAidl := if port.in_use value then port.SetState .DISABLED else port

def session_changed_cb (cookie : UInt16) : BluetoothAudioPortAidl :=
  if port.in_use value then
    if port.cookie_ ≠ cookie then port else port.SessionChangedHandler value
  else
    port

/-- `Stop`, which also has the session stop the stream and waits for nothing. -/
def Stop : BluetoothAudioPortAidl := if port.in_use value then port.SetState .DISABLED else port

end BluetoothAudioPortAidl

/-- The two functions that wait for the stack. -/
inductive Request where
  | Start
  | Suspend
deriving DecidableEq

namespace Request

/-- The state in which the function may be used. -/
def source : Request → BluetoothStreamState
  | .Start => .STANDBY
  | .Suspend => .STARTED

/-- The state that the function sets and waits in. -/
def transition : Request → BluetoothStreamState
  | .Start => .STARTING
  | .Suspend => .SUSPENDING

/-- The flag with which the stack answers. -/
def start_resp : Request → Bool
  | .Start => true
  | .Suspend => false

end Request

inductive Retval where
  | ok
  | EIO
  | EBUSY
  | EINVAL
deriving DecidableEq

/-- An output stream. In the mode that mixes stereo down to mono the frames are those of 16 bit stereo. -/
structure BluetoothStreamOut where
  bluetooth_output_ : BluetoothAudioPortAidl
  frames_rendered_ : UInt64
  frames_presented_ : UInt64
  frame_size : ℕ
  frame_pos : 0 < frame_size
  mono_frame : bluetooth_output_.is_stereo_to_mono_ = true → frame_size = 4

/-- The parameters of `out_set_parameters` that change the state: `A2dpSuspended`, with whether its value is "true",
and whether `closing` is "true" and `exiting` is "1". -/
structure Params where
  A2dpSuspended : Option Bool
  closing : Bool
  exiting : Bool
deriving DecidableEq

/-- What a function of the stream does at once: it returns, or uses one of the two functions that wait. -/
inductive Decision where
  | returns (retval : Retval)
  | calls (request : Request)
deriving DecidableEq

namespace BluetoothStreamOut

variable (value : SessionType → UInt16) (out : BluetoothStreamOut)

def GetState : BluetoothStreamState := out.bluetooth_output_.state_

def setState (state : BluetoothStreamState) : BluetoothStreamOut :=
  { out with bluetooth_output_ := out.bluetooth_output_.SetState state, mono_frame := out.mono_frame }

def out_resume : Decision :=
  match out.GetState with
  | .STANDBY => .calls .Start
  | .STARTING | .SUSPENDING => .returns .EBUSY
  | .DISABLED => .returns .EINVAL
  | _ => .returns .ok

/-- The body that `out_standby` and `out_pause` share. -/
def suspending : Decision × BluetoothStreamOut :=
  match out.GetState with
  | .STARTED => (.calls .Suspend, { out with frames_rendered_ := 0 })
  | .STARTING | .SUSPENDING => (.returns .EBUSY, out)
  | _ => (.returns .ok, out)

def out_standby : Decision × BluetoothStreamOut := out.suspending

def out_pause : Decision × BluetoothStreamOut := out.suspending

def Stop : BluetoothStreamOut :=
  if out.bluetooth_output_.in_use value then out.setState .DISABLED else out

/-- The branches of `closing` and `exiting`. -/
def shut (asked : Bool) : BluetoothStreamOut :=
  if asked = true ∧ out.GetState ≠ .DISABLED then
    ({ out with frames_rendered_ := 0, frames_presented_ := 0 } : BluetoothStreamOut).Stop value
  else
    out

/-- The part of `out_set_parameters` behind `A2dpSuspended`. -/
def closeAndExit (params : Params) : BluetoothStreamOut := (out.shut value params.closing).shut value params.exiting

/-- `out_set_parameters` up to a `Suspend` that it waits for, or to its end. -/
def out_set_parameters (params : Params) : Decision × BluetoothStreamOut :=
  match params.A2dpSuspended, out.bluetooth_output_.IsA2dp with
  | some true, true =>
    let out := { out with frames_rendered_ := 0 }
    if out.GetState = .STARTED then
      (.calls .Suspend, out)
    else
      (.returns .ok, (if out.GetState ≠ .DISABLED then out.Stop value else out).closeAndExit value params)
  | some false, true =>
    (.returns .ok, (if out.GetState = .DISABLED then out.setState .STANDBY else out).closeAndExit value params)
  | _, _ => (.returns .ok, out.closeAndExit value params)

/-- `out_set_parameters` behind its `Suspend`. -/
def out_set_parameters_suspended (params : Params) : BluetoothStreamOut :=
  (out.setState .DISABLED).closeAndExit value params

end BluetoothStreamOut

end Cypfr.BluetoothAudio
