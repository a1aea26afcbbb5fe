import Cypfr.Model.LinkedList

/-! # The message queue

`gps/utils/msg_q.c`: a list that senders add to and receivers remove from, each call in one critical section of the
queue's mutex. A receive waits in `pthread_cond_wait`, and checks again whenever it wakes up, until there is a message
or the queue is unblocked. The handle of a queue is that of `msg_q_init`.
-/

namespace Cypfr.MessageQueue

open LinkedList

/-- `msq_q_err_type`, and the error of a list that `msg_q_rmv` returns for one. -/
inductive MsqQErrType
  | success
  | failureGeneral
  | invalidParameter
  | invalidHandle
  | unavailableResource
  | insufficientBuffer
  | linkedListEmpty
deriving DecidableEq

/-- `convert_linked_list_err_type`. -/
def convertLinkedListErrType : LinkedListErrType → MsqQErrType
  | .success => .success
  | .invalidParameter => .invalidParameter
  | .invalidHandle => .invalidHandle
  | .unavailableResource => .unavailableResource
  | .insufficientBuffer => .insufficientBuffer
  | .failureGeneral => .failureGeneral
  | .empty => .failureGeneral

/-- `msg_q`. -/
structure MsgQ (Obj Dealloc : Type) where
  msgList : ListState Obj Dealloc
  unblocked : Bool

variable {Obj Dealloc : Type}

/-- `msg_q_init`. -/
def msgQInit : MsgQ Obj Dealloc := ⟨linkedListInit, false⟩

/-- `msg_q_snd`; `elem` is what `malloc` returns. -/
def msgQSnd (q : MsgQ Obj Dealloc) (elem : Option ℕ) (msgObj : Option Obj) (dealloc : Option Dealloc) :
    Option (MsqQErrType × MsgQ Obj Dealloc) :=
  match msgObj with
  | none => some (.invalidParameter, q)
  | some msgObj =>
    if q.unblocked then some (.unavailableResource, q)
    else (linkedListAdd q.msgList elem (some msgObj) dealloc).map fun added =>
      (convertLinkedListErrType added.1, { q with msgList := added.2 })

/-- How a critical section of a receive ends: it returns, with what it wrote to `msg_obj`, or waits. -/
inductive RcvEnd (Obj : Type)
  | returned (rv : MsqQErrType) (written : Option Obj)
  | waits

/-- `msg_q_rcv` from the check of its loop on. -/
def rcvLoop (q : MsgQ Obj Dealloc) : Option (RcvEnd Obj × MsgQ Obj Dealloc) :=
  if linkedListEmpty q.msgList && !q.unblocked then some (.waits, q)
  else (linkedListRemove q.msgList).map fun removed =>
    (.returned (convertLinkedListErrType removed.1) removed.2.1, { q with msgList := removed.2.2 })

/-- `msg_q_rcv`; `msgObj` is whether its `msg_obj` is not NULL. -/
def msgQRcv (q : MsgQ Obj Dealloc) (msgObj : Bool) : Option (RcvEnd Obj × MsgQ Obj Dealloc) :=
  if msgObj = false then some (.returned .invalidParameter none, q)
  else if q.unblocked then some (.returned .unavailableResource none, q)
  else rcvLoop q

/-- `msg_q_rmv`, with what it writes to `msg_obj`. -/
def msgQRmv (q : MsgQ Obj Dealloc) (msgObj : Bool) : Option (MsqQErrType × Option Obj × MsgQ Obj Dealloc) :=
  if msgObj = false then some (.invalidParameter, none, q)
  else if q.unblocked then some (.unavailableResource, none, q)
  else if linkedListEmpty q.msgList then some (.linkedListEmpty, none, q)
  else (linkedListRemove q.msgList).map fun removed =>
    (convertLinkedListErrType removed.1, removed.2.1, { q with msgList := removed.2.2 })

/-- `msg_q_flush`, with its calls of the messages' `dealloc`. -/
def msgQFlush (q : MsgQ Obj Dealloc) : Option (MsqQErrType × MsgQ Obj Dealloc × List (Dealloc × Obj)) :=
  (linkedListFlush q.msgList).map fun flushed =>
    (convertLinkedListErrType flushed.1, { q with msgList := flushed.2.1 }, flushed.2.2)

/-- `msg_q_unblock`. -/
def msgQUnblock (q : MsgQ Obj Dealloc) : MsqQErrType × MsgQ Obj Dealloc :=
  if q.unblocked then (.unavailableResource, q) else (.success, { q with unblocked := true })

end Cypfr.MessageQueue
