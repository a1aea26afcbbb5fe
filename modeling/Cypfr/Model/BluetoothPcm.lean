import Cypfr.Model.BluetoothAudioSession

/-! # Samples on the queue of a Bluetooth audio session

`BluetoothAudioSession::OutWritePcmData` and `InReadPcmData`: a transfer takes the mutex of the session for each
of its passes and releases it in between, so that the session may have changed when the next pass begins. The
two differ in what a pass moves.
-/

namespace Cypfr.BluetoothAudio

open BluetoothAudioSession

def kFmqSendTimeoutMs : ℕ := 1000
def kFmqReceiveTimeoutMs : ℕ := 1000
def kWritePollMs : ℕ := 1
def kReadPollMs : ℕ := 1

/-- What a pass meets: the calls of the session since the mutex was last held, the bytes that the queue reports
to have room for or to hold, those at its front, and whether the queue carries out a transfer. -/
structure Pass (Payload : Type) where
  calls : List (SessionCall Payload)
  available : ℕ
  front : ℕ → Int8
  succeeds : Bool

/-- Bytes that went into a queue or came out of it. -/
structure Chunk where
  memory : ℕ
  bytes : List Int8
deriving DecidableEq

/-- The variables of a transfer between two passes, with the chunks it has moved. -/
structure Transfer (Payload : Type) where
  session : BluetoothAudioSession Payload
  buffer : List Int8
  total : ℕ
  timeout_ms : ℕ
  moved : List Chunk

/-- The bytes that a transfer has moved, in order and over all queues. -/
def Transfer.stream {Payload : Type} (t : Transfer Payload) : List Int8 := t.moved.flatMap (·.bytes)

/-- The bytes a pass moves, and the buffer after it. -/
structure Direction where
  bytes : (buffer : List Int8) → (total num : ℕ) → (front : ℕ → Int8) → List Int8
  store : (buffer : List Int8) → (total : ℕ) → List Int8 → List Int8
  pollMs : ℕ

def writing : Direction :=
  { bytes := fun buffer total num _ => ByteList.read buffer total num, store := fun buffer _ _ => buffer,
    pollMs := kWritePollMs }

def reading : Direction :=
  { bytes := fun _ _ num front => (List.range num).map front, store := ByteList.write, pollMs := kReadPollMs }

/-- What a pass comes to; the last is the use of a queue that is not there. -/
inductive Outcome (Payload : Type) where
  | again (t : Transfer Payload)
  | returned (t : Transfer Payload)
  | nullDereference

variable {Payload : Type} (value : SessionType → UInt16) (d : Direction) (bytes : ℕ)

/-- The session after the calls that were processed while the mutex was free. -/
def Pass.session (p : Pass Payload) (s : BluetoothAudioSession Payload) : BluetoothAudioSession Payload :=
  p.calls.foldl (fun s call => (call.run value).next s) s

/-- The condition of the loops is tested at their end. -/
def Transfer.proceed (t : Transfer Payload) : Outcome Payload := if t.total < bytes then .again t else .returned t

/-- The body of the loops. -/
def Transfer.pass (t : Transfer Payload) (p : Pass Payload) : Outcome Payload :=
  let t := { t with session := p.session value t.session }
  if t.session.IsSessionReady then
    match t.session.data_mq_ with
    | none => .nullDereference
    | some data_mq_ =>
      if p.available ≠ 0 then
        let num := if p.available > bytes - t.total then bytes - t.total else p.available
        if p.succeeds then
          let chunk := d.bytes t.buffer t.total num p.front
          Transfer.proceed bytes
            { t with
              buffer := d.store t.buffer t.total chunk
              total := t.total + num
              moved := t.moved ++ [⟨data_mq_.memory, chunk⟩] }
        else
          .returned t
      else if d.pollMs ≤ t.timeout_ms then
        Transfer.proceed bytes { t with timeout_ms := t.timeout_ms - d.pollMs }
      else
        .returned t
  else
    .returned t

/-- The loops, for a number of passes; `again` is a loop that has not ended by then. -/
def Transfer.loop (passes : ℕ → Pass Payload) : ℕ → Transfer Payload → Outcome Payload
  | 0, t => .again t
  | fuel + 1, t =>
    match t.pass value d bytes (passes 0) with
    | .again t => Transfer.loop (fun n => passes (n + 1)) fuel t
    | ended => ended

/-- A transfer of the first bytes of a buffer. -/
def transfer (timeout_ms : ℕ) (session : BluetoothAudioSession Payload) (passes : ℕ → Pass Payload) (fuel : ℕ)
    (buffer : Option (List Int8)) : Outcome Payload :=
  match buffer with
  | none => .returned { session, buffer := [], total := 0, timeout_ms, moved := [] }
  | some buffer =>
    let start : Transfer Payload := { session, buffer, total := 0, timeout_ms, moved := [] }
    if bytes = 0 then .returned start else start.loop value d bytes passes fuel

def OutWritePcmData : BluetoothAudioSession Payload → (ℕ → Pass Payload) → ℕ → Option (List Int8) → Outcome Payload :=
  transfer value writing bytes kFmqSendTimeoutMs

def InReadPcmData : BluetoothAudioSession Payload → (ℕ → Pass Payload) → ℕ → Option (List Int8) → Outcome Payload :=
  transfer value reading bytes kFmqReceiveTimeoutMs

end Cypfr.BluetoothAudio
