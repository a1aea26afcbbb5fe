import Mathlib.Data.List.FinRange
import Mathlib.Logic.Function.Basic

/-! # Synchronous requests

`location/loc_api/loc_api_v02/loc_api_sync_req.cpp`: a thread selects the indication that will answer its request,
sends the request and waits. What selects, waits and processes indications shares a table of slots.

A thread is stepped from one critical section to the next. `loc_sync_process_ind` holds the mutex that allocates
and frees slots from its start to its end, and locks one slot after the other: it is one step, since what a thread
does meanwhile to a slot that is already behind or still ahead commutes with it.
-/

namespace Cypfr.SyncReq

/-- A handle of a client of the location engine. -/
abbrev ClientHandle := UInt64

/-- `LOC_CLIENT_INVALID_HANDLE_VALUE`. -/
def invalidHandle : ClientHandle := 0

def locSyncReqBufferSize : ℕ := 8

/-- `locClientStatusEnumType`. -/
inductive ClientStatus where
  | success
  | failureGeneral
  | failureUnsupported
  | failureInvalidParameter
  | failureEngineBusy
  | failurePhoneOffline
  | failureTimeout
  | failureServiceNotPresent
  | failureServiceVersionUnsupported
  | failureClientVersionUnsupported
  | failureInvalidHandle
  | failureInternal
  | failureNotInitialized
  | failureNotEnoughMemory
  | failureInvalidMessageId
deriving DecidableEq

/-- The number of a slot. -/
abbrev SlotId := Fin locSyncReqBufferSize

/-- `loc_sync_req_data_s_type`; the payload pointer, if not null, leads to the buffer of a thread. -/
structure Slot (Thread : Type) where
  clientHandle : ClientHandle
  indIsSelected : Bool
  indIsWaiting : Bool
  indHasArrived : Bool
  reqId : UInt32
  recvIndPayloadPtr : Option Thread
  recvIndId : UInt32

/-- A slot as `loc_sync_req_init` and `loc_free_slot` leave it. -/
def Slot.unused {Thread : Type} : Slot Thread := ⟨invalidHandle, false, false, false, 0, none, 0⟩

/-- `loc_sync_req_array_s_type`. -/
structure SyncArray (Thread : Type) where
  inUse : Bool
  slotInUse : SlotId → Bool
  slots : SlotId → Slot Thread

namespace SyncArray

variable {Thread : Type}

/-- `loc_sync_req_init`. -/
def locSyncReqInit : SyncArray Thread := ⟨false, fun _ => false, fun _ => .unused⟩

/-- `loc_alloc_slot`. -/
def locAllocSlot (a : SyncArray Thread) : Option SlotId × SyncArray Thread :=
  match (List.finRange locSyncReqBufferSize).find? fun i => !a.slotInUse i with
  | some i => (some i, { a with slotInUse := Function.update a.slotInUse i true, inUse := true })
  | none => (none, a)

/-- `loc_free_slot`. -/
def locFreeSlot (a : SyncArray Thread) (selectId : SlotId) : SyncArray Thread :=
  let slotInUse := Function.update a.slotInUse selectId false
  { inUse := if (List.finRange locSyncReqBufferSize).any slotInUse then a.inUse else false
    slotInUse := slotInUse
    slots := Function.update a.slots selectId .unused }

/-- Change a slot. -/
def setSlot (a : SyncArray Thread) (i : SlotId) (slot : Slot Thread) : SyncArray Thread :=
  { a with slots := Function.update a.slots i slot }

end SyncArray

section ProcessInd

variable {Thread : Type} [DecidableEq Thread]

/-- What the loop of `loc_sync_process_ind` has done so far: the slots, the buffers, the slots whose condition it
signalled, and its two flags. -/
structure Scan (Thread : Type) where
  slots : SlotId → Slot Thread
  memory : Thread → List UInt8
  signals : List SlotId
  inUse : Bool
  consumed : Bool

/-- Whether a slot waits for an indication. -/
def Slot.matches (slot : Slot Thread) (clientHandle : ClientHandle) (indId : UInt32) : Bool :=
  slot.clientHandle = clientHandle ∧ indId = slot.recvIndId ∧ slot.indHasArrived = false

/-- The payload, when there is one, is copied to where a slot points. -/
def Scan.copy (scan : Scan Thread) (slot : Slot Thread) (payload : List UInt8) : Scan Thread :=
  match slot.recvIndPayloadPtr with
  | some ptr =>
    if payload ≠ [] then { scan with memory := Function.update scan.memory ptr payload, consumed := true } else scan
  | none => scan

/-- The owner of a slot is woken if it waits, otherwise the slot remembers the indication. -/
def Scan.notify (scan : Scan Thread) (i : SlotId) (slot : Slot Thread) (indId : UInt32) : Scan Thread :=
  if slot.indIsWaiting then
    { scan with slots := Function.update scan.slots i { slot with recvIndId := indId }, signals := scan.signals ++ [i] }
  else { scan with slots := Function.update scan.slots i { slot with indHasArrived := true } }

/-- A round of the loop of `loc_sync_process_ind`. -/
def Scan.round (slotInUse : SlotId → Bool) (clientHandle : ClientHandle) (indId : UInt32) (payload : List UInt8)
    (scan : Scan Thread) (i : SlotId) : Scan Thread :=
  if scan.consumed then scan
  else
    let slot := scan.slots i
    let scan := { scan with inUse := scan.inUse || slotInUse i }
    if slotInUse i && slot.matches clientHandle indId then (scan.copy slot payload).notify i slot indId else scan

/-- The loop of `loc_sync_process_ind` over some slots. -/
def SyncArray.scan (a : SyncArray Thread) (memory : Thread → List UInt8) (clientHandle : ClientHandle)
    (indId : UInt32) (payload : List UInt8) (slots : List SlotId) : Scan Thread :=
  slots.foldl (Scan.round a.slotInUse clientHandle indId payload) ⟨a.slots, memory, [], false, false⟩

/-- `loc_sync_process_ind`, with the buffers of the threads and the slots it signals; a payload that is null or of
size zero is empty. -/
def SyncArray.locSyncProcessInd (a : SyncArray Thread) (memory : Thread → List UInt8) (clientHandle : ClientHandle)
    (indId : UInt32) (payload : List UInt8) : SyncArray Thread × (Thread → List UInt8) × List SlotId :=
  if !a.inUse then (a, memory, [])
  else
    let scan := a.scan memory clientHandle indId payload (List.finRange locSyncReqBufferSize)
    ({ a with slots := scan.slots, inUse := if scan.inUse then a.inUse else false }, scan.memory, scan.signals)

end ProcessInd

/-- The arguments of `loc_sync_send_req`; whether its payload pointer is not null. -/
structure Call where
  clientHandle : ClientHandle
  reqId : UInt32
  indId : UInt32
  hasBuffer : Bool
deriving DecidableEq

/-- What `loc_sync_wait_for_ind` returns. -/
inductive WaitResult where
  | ok
  | timedOut
  | busy
deriving DecidableEq

/-- Where in `loc_sync_send_req` a thread is: it has allocated its slot, selected the indication, got the status of
`locClientSendReq`, blocks on the condition of the slot, was signalled, or its time expired, or its wait is over. -/
inductive Stage where
  | allocated
  | selected
  | sent (status : ClientStatus)
  | blocked
  | signalled
  | expired
  | waited (rc : WaitResult)
deriving DecidableEq

/-- A call that is under way, and whether since it selected its slot a request was sent with success and an
indication for it was processed. -/
structure Running where
  call : Call
  slot : SlotId
  stage : Stage
  sent : Bool
  indicated : Bool
deriving DecidableEq

/-- A call has selected its slot and is not back. -/
def Running.hasSelected (r : Running) : Bool := r.stage ≠ .allocated

/-- What an indication does to a call under way: it wakes a thread that blocks on a condition that is signalled. -/
def Running.onIndication (r : Running) (clientHandle : ClientHandle) (indId : UInt32) (signals : List SlotId) : Running :=
  { r with
    stage := if r.stage = .blocked ∧ r.slot ∈ signals then .signalled else r.stage
    indicated := r.indicated ||
      (r.hasSelected && r.call.clientHandle = clientHandle && r.call.indId = indId) }

/-- A call that returned, with what its buffer held. -/
structure Returned (Thread : Type) where
  thread : Thread
  call : Call
  status : ClientStatus
  sent : Bool
  indicated : Bool
  payload : List UInt8
deriving DecidableEq

/-- The table, the buffer of each thread, the call each thread is in, and the calls that returned. -/
structure SyncState (Thread : Type) where
  array : SyncArray Thread
  memory : Thread → List UInt8
  running : Thread → Option Running
  returned : List (Returned Thread)

/-- The steps of the threads and the indications. -/
inductive SyncEvent (Thread : Type) where
  | call (t : Thread) (call : Call)
  | select (t : Thread)
  | send (t : Thread) (status : ClientStatus)
  | wait (t : Thread)
  | expire (t : Thread)
  | wake (t : Thread)
  | free (t : Thread)
  | indication (clientHandle : ClientHandle) (indId : UInt32) (payload : List UInt8)

namespace SyncState

variable {Thread : Type} [DecidableEq Thread]

/-- After `loc_sync_req_init`, with no call under way. -/
def start (memory : Thread → List UInt8) : SyncState Thread := ⟨.locSyncReqInit, memory, fun _ => none, []⟩

/-- A thread goes on with its call. -/
def setRunning (s : SyncState Thread) (t : Thread) (r : Running) : SyncState Thread :=
  { s with running := Function.update s.running t (some r) }

/-- A thread returns from `loc_sync_send_req`. -/
def leave (s : SyncState Thread) (t : Thread) (call : Call) (status : ClientStatus) (sent indicated : Bool) :
    SyncState Thread :=
  { s with
    running := Function.update s.running t none
    returned := s.returned ++ [⟨t, call, status, sent, indicated, s.memory t⟩] }

/-- `loc_sync_send_req` up to the allocation of its slot; without a slot it returns the status it began with. -/
def locSyncSendReq (s : SyncState Thread) (t : Thread) (call : Call) : SyncState Thread :=
  match s.array.locAllocSlot with
  | (some i, array) => { s with array := array }.setRunning t ⟨call, i, .allocated, false, false⟩
  | (none, _) => s.leave t call .success false false

/-- `loc_sync_select_ind` once the slot is allocated. -/
def locSyncSelectInd (s : SyncState Thread) (t : Thread) (r : Running) : SyncState Thread :=
  let slot : Slot Thread :=
    { clientHandle := r.call.clientHandle, indIsSelected := true, indIsWaiting := false, indHasArrived := false,
      reqId := r.call.reqId, recvIndPayloadPtr := if r.call.hasBuffer then some t else none, recvIndId := r.call.indId }
  { s with array := s.array.setSlot r.slot slot }.setRunning t { r with stage := .selected }

/-- `loc_sync_wait_for_ind` up to where it blocks. -/
def locSyncWaitForInd (s : SyncState Thread) (t : Thread) (r : Running) : SyncState Thread :=
  if s.array.slotInUse r.slot = false then s.leave t r.call .failureInternal r.sent r.indicated
  else if (s.array.slots r.slot).indHasArrived then s.setRunning t { r with stage := .waited .ok }
  else if (s.array.slots r.slot).indIsWaiting then s.setRunning t { r with stage := .waited .busy }
  else
    { s with array := s.array.setSlot r.slot { s.array.slots r.slot with indIsWaiting := true } }.setRunning t
      { r with stage := .blocked }

/-- The wait on the condition returns. -/
def wakeUp (s : SyncState Thread) (t : Thread) (r : Running) (rc : WaitResult) : SyncState Thread :=
  { s with array := s.array.setSlot r.slot { s.array.slots r.slot with indIsWaiting := false } }.setRunning t
    { r with stage := .waited rc }

/-- The status for what `loc_sync_wait_for_ind` returned. -/
def statusOf : WaitResult → ClientStatus
  | .ok => .success
  | .timedOut => .failureTimeout
  | .busy => .failureInternal

/-- `loc_free_slot` and the return. -/
def freeSlot (s : SyncState Thread) (t : Thread) (r : Running) (status : ClientStatus) : SyncState Thread :=
  { s with array := s.array.locFreeSlot r.slot }.leave t r.call status r.sent r.indicated

/-- `loc_sync_process_ind`. -/
def processInd (s : SyncState Thread) (clientHandle : ClientHandle) (indId : UInt32) (payload : List UInt8) :
    SyncState Thread :=
  let processed := s.array.locSyncProcessInd s.memory clientHandle indId payload
  { s with
    array := processed.1
    memory := processed.2.1
    running := fun t => (s.running t).map fun r => r.onIndication clientHandle indId processed.2.2 }

/-- One event; a thread that is elsewhere is not concerned. -/
def step (s : SyncState Thread) : SyncEvent Thread → SyncState Thread
  | .call t call =>
    match s.running t with
    | none => s.locSyncSendReq t call
    | some _ => s
  | .select t =>
    match s.running t with
    | some r => if r.stage = .allocated then s.locSyncSelectInd t r else s
    | none => s
  | .send t status =>
    match s.running t with
    | some r =>
      if r.stage = .selected then s.setRunning t { r with stage := .sent status, sent := status = .success } else s
    | none => s
  | .wait t =>
    match s.running t with
    | some r => if r.stage = .sent .success then s.locSyncWaitForInd t r else s
    | none => s
  | .expire t =>
    match s.running t with
    | some r => if r.stage = .blocked then s.setRunning t { r with stage := .expired } else s
    | none => s
  | .wake t =>
    match s.running t with
    | some r =>
      if r.stage = .signalled then s.wakeUp t r .ok
      else if r.stage = .expired then s.wakeUp t r .timedOut
      else s
    | none => s
  | .free t =>
    match s.running t with
    | some r =>
      match r.stage with
      | .sent status => if status = .success then s else s.freeSlot t r status
      | .waited rc => s.freeSlot t r (statusOf rc)
      | _ => s
    | none => s
  | .indication clientHandle indId payload => s.processInd clientHandle indId payload

end SyncState

end Cypfr.SyncReq
