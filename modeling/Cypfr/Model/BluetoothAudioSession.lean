import Cypfr.Machine.Emit
import Cypfr.ToMathlib.ByteList
import Mathlib.Data.List.AList

/-! # Bluetooth audio sessions

`bluetooth/audio/utils/aidl_session/BluetoothAudioSession.cpp`: what the Bluetooth stack has started for one type
of session. The ports of the audio module observe it, request the stream from the stack through it and
exchange samples with the stack over its queue. Its calls hold one mutex, so each is processed as a whole;
a transfer of samples releases the mutex between its passes.

The numbers of the session types come from the generated interface and are a parameter; whether the transport
delivers a call to the stack is one of each such call.
-/

namespace Cypfr.BluetoothAudio

inductive SessionType where
  | UNKNOWN
  | HEARING_AID_SOFTWARE_ENCODING_DATAPATH
  | A2DP_SOFTWARE_ENCODING_DATAPATH
  | A2DP_HARDWARE_OFFLOAD_ENCODING_DATAPATH
  | LE_AUDIO_SOFTWARE_ENCODING_DATAPATH
  | LE_AUDIO_SOFTWARE_DECODING_DATAPATH
  | LE_AUDIO_HARDWARE_OFFLOAD_ENCODING_DATAPATH
  | LE_AUDIO_HARDWARE_OFFLOAD_DECODING_DATAPATH
  | LE_AUDIO_BROADCAST_SOFTWARE_ENCODING_DATAPATH
  | LE_AUDIO_BROADCAST_HARDWARE_OFFLOAD_ENCODING_DATAPATH
  | A2DP_SOFTWARE_DECODING_DATAPATH
  | A2DP_HARDWARE_OFFLOAD_DECODING_DATAPATH
deriving DecidableEq

/-- The alternatives of the union `AudioConfiguration`. -/
inductive AudioConfiguration.Tag where
  | pcmConfig
  | leAudioConfig
  | a2dpConfig
  | leAudioBroadcastConfig
deriving DecidableEq

structure AudioConfiguration (Payload : Type) where
  getTag : AudioConfiguration.Tag
  payload : Payload
deriving DecidableEq

/-- A queue as the descriptor of the stack makes it: the memory it names, and whether it could be mapped. -/
structure DataMQ where
  memory : ℕ
  isValid : Bool
deriving DecidableEq

/-- The port object of the stack, by number. -/
abbrev IBluetoothAudioPort := ℕ

/-- Which of its optional callbacks an observer has set; it always has those for results and sessions. -/
structure PortStatusCallbacks where
  audio_configuration_changed_cb_ : Bool
  low_latency_mode_allowed_cb_ : Bool
deriving DecidableEq

inductive BluetoothAudioStatus where
  | UNKNOWN
  | SUCCESS
  | UNSUPPORTED_CODEC_CONFIGURATION
  | FAILURE
  | RECONFIGURATION
deriving DecidableEq

/-- What the session calls: the observers by their cookies, and the port object of the stack. -/
inductive Call where
  | session_changed_cb_ (cookie : UInt16)
  | control_result_cb_ (cookie : UInt16) (start_resp : Bool) (status : BluetoothAudioStatus)
  | audio_configuration_changed_cb_ (cookie : UInt16)
  | low_latency_mode_allowed_cb_ (cookie : UInt16) (allowed : Bool)
  | startStream (stack_iface : Option IBluetoothAudioPort) (is_low_latency : Bool)
  | suspendStream (stack_iface : Option IBluetoothAudioPort)
  | stopStream (stack_iface : Option IBluetoothAudioPort)
deriving DecidableEq

structure BluetoothAudioSession (Payload : Type) where
  session_type_ : SessionType
  stack_iface_ : Option IBluetoothAudioPort
  data_mq_ : Option DataMQ
  audio_config_ : Option (AudioConfiguration Payload)
  low_latency_allowed_ : Bool
  observers_ : AList fun _ : UInt16 => PortStatusCallbacks

abbrev SessionM (Payload : Type) := Emit (BluetoothAudioSession Payload) Call

def kObserversCookieSize : ℕ := 16

section Cookies

variable (value : SessionType → UInt16)

def kObserversCookieUndefined : UInt16 := (value .UNKNOWN <<< 8) &&& 0xff00

def ObserversCookieGetInitValue (session_type : SessionType) : UInt16 := (value session_type <<< 8) &&& 0xff00

end Cookies

namespace BluetoothAudioSession

variable {Payload : Type}

/-- The session as it is constructed. -/
def construct (session_type : SessionType) : BluetoothAudioSession Payload :=
  { session_type_ := session_type, stack_iface_ := none, data_mq_ := none, audio_config_ := none,
    low_latency_allowed_ := true, observers_ := ∅ }

section Util

variable (s : BluetoothAudioSession Payload)

/-- Sessions without samples on a queue. -/
def isOffload : SessionType → Bool
  | .A2DP_HARDWARE_OFFLOAD_ENCODING_DATAPATH
  | .LE_AUDIO_HARDWARE_OFFLOAD_ENCODING_DATAPATH
  | .LE_AUDIO_HARDWARE_OFFLOAD_DECODING_DATAPATH
  | .LE_AUDIO_BROADCAST_HARDWARE_OFFLOAD_ENCODING_DATAPATH
  | .A2DP_HARDWARE_OFFLOAD_DECODING_DATAPATH => true
  | _ => false

def IsSessionReady : Bool :=
  s.stack_iface_.isSome && (isOffload s.session_type_ || s.data_mq_.any (·.isValid)) && s.audio_config_.isSome

def is_software_session : SessionType → Bool
  | .A2DP_SOFTWARE_ENCODING_DATAPATH
  | .HEARING_AID_SOFTWARE_ENCODING_DATAPATH
  | .LE_AUDIO_SOFTWARE_DECODING_DATAPATH
  | .LE_AUDIO_SOFTWARE_ENCODING_DATAPATH
  | .LE_AUDIO_BROADCAST_SOFTWARE_ENCODING_DATAPATH
  | .A2DP_SOFTWARE_DECODING_DATAPATH => true
  | _ => false

def is_offload_a2dp_session : SessionType → Bool
  | .A2DP_HARDWARE_OFFLOAD_ENCODING_DATAPATH
  | .A2DP_HARDWARE_OFFLOAD_DECODING_DATAPATH => true
  | _ => false

def is_offload_le_audio_session : SessionType → Bool
  | .LE_AUDIO_HARDWARE_OFFLOAD_ENCODING_DATAPATH
  | .LE_AUDIO_HARDWARE_OFFLOAD_DECODING_DATAPATH => true
  | _ => false

/-- The condition of `UpdateAudioConfig`. -/
def accepts (session_type : SessionType) (tag : AudioConfiguration.Tag) : Bool :=
  (is_software_session session_type && tag == .pcmConfig) ||
  (is_offload_a2dp_session session_type && tag == .a2dpConfig) ||
  (is_offload_le_audio_session session_type && tag == .leAudioConfig)

end Util

def UpdateDataPath (mq_desc : Option DataMQ) : SessionM Payload Bool :=
  match mq_desc with
  | none => do
    Emit.modify fun s => { s with data_mq_ := none }
    return true
  | some temp_mq =>
    if temp_mq.isValid then do
      Emit.modify fun s => { s with data_mq_ := some temp_mq }
      return true
    else do
      Emit.modify fun s => { s with data_mq_ := none }
      return false

def UpdateAudioConfig (audio_config : AudioConfiguration Payload) : SessionM Payload Bool := do
  let s ← Emit.get
  if accepts s.session_type_ audio_config.getTag then do
    Emit.modify fun s => { s with audio_config_ := some audio_config }
    return true
  else
    return false

/-- Every observer is told that the session has changed. -/
def ReportSessionStatus : SessionM Payload Unit := do
  let s ← Emit.get
  s.observers_.keys.forM fun cookie => Emit.emit (.session_changed_cb_ cookie)

def OnSessionStarted (stack_iface : Option IBluetoothAudioPort) (mq_desc : Option DataMQ)
    (audio_config : AudioConfiguration Payload) : SessionM Payload Unit :=
  match stack_iface with
  | none => pure ()
  | some stack_iface => do
    let configured ← UpdateAudioConfig audio_config
    if configured then do
      let connected ← UpdateDataPath mq_desc
      if connected then do
        Emit.modify fun s => { s with stack_iface_ := some stack_iface }
        ReportSessionStatus
      else
        Emit.modify fun s => { s with audio_config_ := none }
    else
      pure ()

def OnSessionEnded : SessionM Payload Unit := do
  let s ← Emit.get
  let toggled := s.IsSessionReady
  Emit.modify fun s => { s with audio_config_ := none, stack_iface_ := none }
  let _ ← UpdateDataPath none
  if toggled then ReportSessionStatus else pure ()

def ReportAudioConfigChanged (audio_config : AudioConfiguration Payload) : SessionM Payload Unit := do
  let s ← Emit.get
  if is_offload_le_audio_session s.session_type_ then do
    Emit.modify fun s => { s with audio_config_ := some audio_config }
    s.observers_.entries.forM fun observer =>
      if observer.2.audio_configuration_changed_cb_ then Emit.emit (.audio_configuration_changed_cb_ observer.1)
      else pure ()
  else
    pure ()

/-- The first cookie of the type's range that no observer has. -/
def freeCookie (value : SessionType → UInt16) (s : BluetoothAudioSession Payload) : Option UInt16 :=
  ((List.range kObserversCookieSize).map fun k => ObserversCookieGetInitValue value s.session_type_ + UInt16.ofNat k).find?
    fun cookie => (s.observers_.lookup cookie).isNone

def RegisterStatusCback (value : SessionType → UInt16) (callbacks : PortStatusCallbacks) : SessionM Payload UInt16 := do
  let s ← Emit.get
  match s.freeCookie value with
  | some cookie => do
    Emit.modify fun s => { s with observers_ := s.observers_.insert cookie callbacks }
    return cookie
  | none => return kObserversCookieUndefined value

def UnregisterStatusCback (cookie : UInt16) : SessionM Payload Unit :=
  Emit.modify fun s => { s with observers_ := s.observers_.erase cookie }

def ReportControlStatus (start_resp : Bool) (status : BluetoothAudioStatus) : SessionM Payload Unit := do
  let s ← Emit.get
  s.observers_.keys.forM fun cookie => Emit.emit (.control_result_cb_ cookie start_resp status)

def ReportLowLatencyModeAllowedChanged (allowed : Bool) : SessionM Payload Unit := do
  Emit.modify fun s => { s with low_latency_allowed_ := allowed }
  let s ← Emit.get
  s.observers_.entries.forM fun observer =>
    if observer.2.low_latency_mode_allowed_cb_ then Emit.emit (.low_latency_mode_allowed_cb_ observer.1 allowed)
    else pure ()

section Streams

variable (isOk : Bool)

def StartStream (is_low_latency : Bool) : SessionM Payload Bool := do
  let s ← Emit.get
  if s.IsSessionReady then do
    Emit.emit (.startStream s.stack_iface_ is_low_latency)
    return isOk
  else
    return false

def SuspendStream : SessionM Payload Bool := do
  let s ← Emit.get
  if s.IsSessionReady then do
    Emit.emit (.suspendStream s.stack_iface_)
    return isOk
  else
    return false

def StopStream : SessionM Payload Unit := do
  let s ← Emit.get
  if s.IsSessionReady then Emit.emit (.stopStream s.stack_iface_) else pure ()

end Streams

end BluetoothAudioSession

/-- The calls that change a session. -/
inductive SessionCall (Payload : Type) where
  | OnSessionStarted (stack_iface : Option IBluetoothAudioPort) (mq_desc : Option DataMQ)
      (audio_config : AudioConfiguration Payload)
  | OnSessionEnded
  | ReportAudioConfigChanged (audio_config : AudioConfiguration Payload)
  | RegisterStatusCback (callbacks : PortStatusCallbacks)
  | UnregisterStatusCback (cookie : UInt16)
  | ReportLowLatencyModeAllowedChanged (allowed : Bool)

open BluetoothAudioSession in
def SessionCall.run {Payload : Type} (value : SessionType → UInt16) : SessionCall Payload → SessionM Payload Unit
  | .OnSessionStarted stack_iface mq_desc audio_config =>
    BluetoothAudioSession.OnSessionStarted stack_iface mq_desc audio_config
  | .OnSessionEnded => BluetoothAudioSession.OnSessionEnded
  | .ReportAudioConfigChanged audio_config => BluetoothAudioSession.ReportAudioConfigChanged audio_config
  | .RegisterStatusCback callbacks => do
    let _ ← BluetoothAudioSession.RegisterStatusCback value callbacks
  | .UnregisterStatusCback cookie => BluetoothAudioSession.UnregisterStatusCback cookie
  | .ReportLowLatencyModeAllowedChanged allowed => BluetoothAudioSession.ReportLowLatencyModeAllowedChanged allowed

end Cypfr.BluetoothAudio
