import Cypfr.Model.CString

/-! # Message framing of `Sock`

A payload of at most `mMaxTxSize` bytes is sent as it is; a longer one is announced by a header
`$MSGLEN$<length>` and sent in pieces. The receiver reads once, decides from what it got whether a
header came, and if so reads on until the announced length is there. The kernel is a function that
answers one `::recvfrom` with a capacity: it hands out a datagram cut to the capacity, or the next
bytes of a stream; `none` stands for a call that never returns. The translation follows
`gps/utils/LocIpc.cpp`; all sends succeed.
-/

namespace Cypfr.LocIpc

/-- `Sock::MSG_ABORT` without its terminating NUL. -/
def abortText : Bytes := ascii "LocIpc::Sock::ABORT"

def msgAbort : Bytes := abortText ++ [0]

/-- `Sock::LOC_IPC_HEAD` without its terminating NUL. -/
def locIpcHead : Bytes := ascii "$MSGLEN$"

/-- The default of `Sock::mMaxTxSize`, which no caller overrides. -/
def maxTxSize : ℕ := 8192

/-- The header `sendto` sends before a long payload. -/
def header (len : ℕ) : Bytes := locIpcHead ++ Decimal.numeral len

/-- The loop of `Sock::sendto` over the offsets of a long payload. -/
def sendPieces (mMaxTxSize : ℕ) : ℕ → Bytes → List Bytes
  | 0, _ => []
  | fuel + 1, rest =>
    if rest = [] then [] else rest.take mMaxTxSize :: sendPieces mMaxTxSize fuel (rest.drop mMaxTxSize)

/-- `Sock::sendto`: the buffers handed to `::sendto`, in order. -/
def sendto (mMaxTxSize : ℕ) (payload : Bytes) : List Bytes :=
  if payload.length ≤ mMaxTxSize then [payload]
  else header payload.length :: sendPieces mMaxTxSize payload.length payload

/-- `Sock::send`, which refuses empty payloads. -/
def send (mMaxTxSize : ℕ) (payload : Bytes) : List Bytes := if payload = [] then [] else sendto mMaxTxSize payload

/-- One `::recvfrom` on a datagram socket: what does not fit is lost. -/
def datagramRead (cap : ℕ) : List Bytes → Option (Bytes × List Bytes)
  | [] => none
  | datagram :: rest => some (datagram.take cap, rest)

/-- One `::recvfrom` on a stream socket, which returns at most one segment of the stream. -/
def streamRead (cap : ℕ) : List Bytes → Option (Bytes × List Bytes)
  | [] => none
  | segment :: rest =>
    some (segment.take cap, if segment.drop cap = [] then rest else segment.drop cap :: rest)

section Receiver

variable {κ : Type*} (read : ℕ → κ → Option (Bytes × κ))

/-- The loop of `Sock::recvfrom` that collects a long message. It makes at most `msgLen` reads, since
each but the last returns at least a byte. An empty read gives the message up. -/
def reassemble (msgLen : ℕ) : ℕ → Bytes → κ → Option (Option Bytes × κ)
  | 0, msg, sid => some (some msg, sid)
  | fuel + 1, msg, sid =>
    if msg.length < msgLen then
      match read (msgLen - msg.length) sid with
      | none => none
      | some (piece, sid) => if piece = [] then some (none, sid) else reassemble msgLen fuel (msg ++ piece) sid
    else some (some msg, sid)

/-- What one `Sock::recvfrom` did: its return value, the message given to `onReceive` if any, and the
socket it leaves behind. -/
structure Received (κ : Type*) where
  nBytes : ℕ
  message : Option Bytes
  sid : κ

/-- `Sock::recvfrom`. Resizing the buffer to 2^63 bytes or more throws, which ends the listening thread
like a call that never returns; `onReceive` takes its length as a `uint32_t`. -/
def recvfrom (mMaxTxSize : ℕ) (sid : κ) : Option (Received κ) :=
  match read mMaxTxSize sid with
  | none => none
  | some (msg, sid) =>
    if msg = [] then some ⟨0, none, sid⟩
    else if strncmpEq msgAbort.length msg msgAbort then some ⟨0, none, sid⟩
    else if strncmpEq locIpcHead.length msg locIpcHead = false then some ⟨msg.length, some msg, sid⟩
    else
      let msgLen := scanZu (msg.drop locIpcHead.length)
      if 2 ^ 63 ≤ msgLen then none
      else
        match reassemble read msgLen msgLen [] sid with
        | none => none
        | some (none, sid) => some ⟨0, none, sid⟩
        | some (some msg, sid) => some ⟨msgLen, some (msg.take (msgLen % 2 ^ 32)), sid⟩

/-- The bytes that one `::recvfrom` stores at an offset of `msg`, a string of the given size. -/
structure Write where
  size : ℕ
  offset : ℕ
  data : Bytes

/-- What the string holds after the write. -/
def Write.store (msg : Bytes) (write : Write) : Bytes :=
  msg.take write.offset ++ write.data ++ msg.drop (write.offset + write.data.length)

/-- The writes of the loop of `Sock::recvfrom`, from `msgLenReceived` on. -/
def reassembleWrites (msgLen : ℕ) : ℕ → ℕ → κ → List Write
  | 0, _, _ => []
  | fuel + 1, msgLenReceived, sid =>
    if msgLenReceived < msgLen then
      match read (msgLen - msgLenReceived) sid with
      | none => []
      | some (piece, sid) =>
        ⟨msgLen, msgLenReceived, piece⟩ ::
          if piece = [] then [] else reassembleWrites msgLen fuel (msgLenReceived + piece.length) sid
    else []

/-- The writes of one `Sock::recvfrom`: the first read, and those of the loop if it was a header. -/
def recvfromWrites (mMaxTxSize : ℕ) (sid : κ) : List Write :=
  match read mMaxTxSize sid with
  | none => []
  | some (msg, sid) =>
    ⟨mMaxTxSize, 0, msg⟩ ::
      if msg = [] then []
      else if strncmpEq msgAbort.length msg msgAbort then []
      else if strncmpEq locIpcHead.length msg locIpcHead = false then []
      else
        let msgLen := scanZu (msg.drop locIpcHead.length)
        if 2 ^ 63 ≤ msgLen then [] else reassembleWrites read msgLen msgLen 0 sid

/-- Up to `calls` calls of `Sock::recvfrom` one after the other, and what each did. -/
def receive (mMaxTxSize : ℕ) : ℕ → κ → List (Received κ)
  | 0, _ => []
  | calls + 1, sid =>
    match recvfrom read mMaxTxSize sid with
    | none => []
    | some received => received :: receive mMaxTxSize calls received.sid

/-- `while (ipcRecver.recvData());`: the messages given to `onReceive`. -/
def listen (mMaxTxSize : ℕ) : ℕ → κ → List Bytes
  | 0, _ => []
  | fuel + 1, sid =>
    match recvfrom read mMaxTxSize sid with
    | none => []
    | some received =>
      received.message.toList ++ if 0 < received.nBytes then listen mMaxTxSize fuel received.sid else []

end Receiver

/-- A local receiver listening on a queue of datagrams; each call takes at least one. -/
def listenLocal (queue : List Bytes) : List Bytes := listen datagramRead maxTxSize queue.length queue

/-- A TCP receiver listening on one connection, whose bytes the kernel delivers in the given segments;
each call takes at least one byte. -/
def listenTcp (segments : List Bytes) : List Bytes :=
  listen streamRead maxTxSize segments.flatten.length segments

end Cypfr.LocIpc
