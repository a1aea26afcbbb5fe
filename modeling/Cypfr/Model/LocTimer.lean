import Cypfr.Model.LocHeap
import Mathlib.Logic.Function.Basic

/-! # The timer service of `LocTimer`

Clients start and stop timers; each start creates a delegate with an absolute future time. All heap
work is done by one message task, which takes `MsgTimerPush`, `MsgTimerRemove` and `MsgTimerExpire`
from a FIFO queue. There are two containers (timers and alarms), each with a heap and a timerfd. A
poll thread waits on the timerfds that are in its epoll set and runs `LocTimerContainer::expire`
for each one that fired: disarm, remove from epoll, send `MsgTimerExpire`. One action of the model
is a client call, one of those three poll-thread steps, the handling of one message, or the passing
of time. The clock is in nanoseconds since boot. The translation follows `gps/utils/LocTimer.cpp`.
-/

namespace Cypfr.LocTimer

open LocHeap

/-- `struct timespec`. -/
structure Timespec where
  sec : ℕ
  nsec : ℕ
deriving DecidableEq, Repr

namespace Timespec

def toNs (t : Timespec) : ℕ := t.sec * 1000000000 + t.nsec

/-- `LocTimerDelegate::ranks`, an `int` computed from `time_t` differences: the earlier time ranks
higher, and the difference of the seconds is truncated to 32 bits. -/
def ranks (self other : Timespec) : ℤ :=
  let seconds := Int.bmod ((other.sec : ℤ) - self.sec) 4294967296
  if seconds = 0 then Int.bmod ((other.nsec : ℤ) - self.nsec) 4294967296 else seconds

end Timespec

/-- `clock_gettime(CLOCK_BOOTTIME)`. -/
def clockGettime (now : ℕ) : Timespec := ⟨now / 1000000000, now % 1000000000⟩

/-- The absolute time computed by `LocTimer::start`. -/
def futureTime (now : ℕ) (timeOutInMs : UInt32) : Timespec :=
  let sec := (clockGettime now).sec + timeOutInMs.toNat / 1000
  let nsec := (clockGettime now).nsec + timeOutInMs.toNat % 1000 * 1000000
  if 1000000000 ≤ nsec then ⟨sec + nsec / 1000000000, nsec % 1000000000⟩ else ⟨sec, nsec⟩

/-- A `LocTimerDelegate`. The serial number stands for its address; `wakeOnExpire` selects the
container it belongs to. -/
structure Delegate where
  serial : ℕ
  mFutureTime : Timespec
  wakeOnExpire : Bool
deriving DecidableEq, Repr

/-- Delegates are ranked by their future times. -/
def rankDelegates (a b : Delegate) : ℤ := a.mFutureTime.ranks b.mFutureTime

/-- A `LocTimerContainer` with its timerfd: the time the descriptor is armed for, and whether it is
in the epoll set. -/
structure Container where
  heap : LocHeap.Tree Delegate
  armed : Option Timespec
  polled : Bool
deriving DecidableEq

inductive Msg where
  | timerPush (container : Bool) (timer : Delegate)
  | timerRemove (container : Bool) (timer : Delegate)
  | timerExpire (container : Bool)
deriving DecidableEq

/-- The step of `LocTimerContainer::expire` the poll thread takes next. -/
inductive PollPhase where
  | disarm
  | removePoll
  | sendMsg
deriving DecidableEq

/-- A call of `timeOutCallback`, with the future time of the start that armed the timer. -/
structure Callback where
  client : ℕ
  future : Timespec
  time : ℕ
deriving DecidableEq

structure State where
  now : ℕ
  nextSerial : ℕ
  mTimer : ℕ → Option Delegate
  mClient : Delegate → Option ℕ
  containers : Bool → Container
  queue : List Msg
  polling : List Bool
  phase : PollPhase
  callbacks : List Callback

/-- A call by a client thread or by a client's callback. -/
inductive ClientCall where
  | start (client : ℕ) (timeOutInMs : UInt32) (wakeOnExpire : Bool)
  | stop (client : ℕ)
deriving DecidableEq

/-- `timerfd_settime` with an absolute time, where zero disarms. -/
def settime (t : Timespec) : Option Timespec := if t = ⟨0, 0⟩ then none else some t

namespace State

def send (s : State) (m : Msg) : State := { s with queue := s.queue ++ [m] }

def setContainer (s : State) (c : Bool) (k : Container) : State :=
  { s with containers := Function.update s.containers c k }

/-- `LocTimer::start`, up to the message sent by the delegate's constructor. -/
def start (s : State) (client : ℕ) (timeOutInMs : UInt32) (wakeOnExpire : Bool) : State :=
  match s.mTimer client with
  | some _ => s
  | none =>
    let timer : Delegate := ⟨s.nextSerial, futureTime s.now timeOutInMs, wakeOnExpire⟩
    { s with
      nextSerial := s.nextSerial + 1
      mTimer := Function.update s.mTimer client (some timer)
      mClient := Function.update s.mClient timer (some client) }.send (.timerPush wakeOnExpire timer)

/-- `LocTimerDelegate::destroyLocked`. The client and container pointers are set together by the
constructor and nulled together here, so one field stands for both. -/
def destroyLocked (s : State) (timer : Delegate) : State :=
  match s.mClient timer with
  | none => s
  | some _ =>
    { s with mClient := Function.update s.mClient timer none }.send
      (.timerRemove timer.wakeOnExpire timer)

/-- `LocTimer::stop` and its return value. -/
def stop (s : State) (client : ℕ) : Bool × State :=
  match s.mTimer client with
  | none => (false, s)
  | some timer =>
    (true, { s with mTimer := Function.update s.mTimer client none }.destroyLocked timer)

def clientCall (s : State) : ClientCall → State
  | .start client timeOutInMs wakeOnExpire => s.start client timeOutInMs wakeOnExpire
  | .stop client => (s.stop client).2

/-- `LocTimerDelegate::expire`: force a stop, and call back if there was something to stop. -/
def delegateExpire (s : State) (timer : Delegate) : State :=
  match s.mClient timer with
  | none => s
  | some client =>
    match s.mTimer client with
    | none => (s.stop client).2
    | some armed =>
      let stopped := (s.stop client).2
      { stopped with callbacks := stopped.callbacks ++ [⟨client, armed.mFutureTime, s.now⟩] }

end State

/-- `LocTimerContainer::updateSoonestTime`: re-arm only when the top is believed to have changed. -/
def Container.updateSoonestTime (k : Container) (priorTop : Option Delegate) : Container :=
  if k.heap.peek ≠ priorTop then
    match k.heap.peek with
    | none => { k with polled := false, armed := settime ⟨0, 0⟩ }
    | some curTop =>
      if priorTop.all (fun prior => outRanks rankDelegates curTop prior) then
        { k with polled := true, armed := settime curTop.mFutureTime }
      else k
  else k

/-- `LocTimerContainer::popIfOutRanks`: pop unless `now` outranks the top. -/
def Container.popIfOutRanks (k : Container) (now : Timespec) : Option Delegate × Container :=
  match k.heap.peek with
  | none => (none, k)
  | some top =>
    if 0 < now.ranks top.mFutureTime then (none, k)
    else ((pop rankDelegates k.heap).1, { k with heap := (pop rankDelegates k.heap).2 })

namespace State

/-- The loop of `MsgTimerExpire::proc` after a pop. Each `during` entry holds the client calls made
between one callback and the next pop; the fuel is the number of nodes left in the heap. -/
def expireLoop (c : Bool) (now : Timespec) : ℕ → List (List ClientCall) → Option Delegate → State → State
  | _, _, none, s => s
  | fuel, during, some timer, s =>
    let called := (during.headD []).foldl clientCall (s.delegateExpire timer)
    let popped := (called.containers c).popIfOutRanks now
    match fuel with
    | 0 => called
    | fuel + 1 => expireLoop c now fuel during.tail popped.1 (called.setContainer c popped.2)

/-- `MsgTimerExpire::proc`: the first pop is unconditional. -/
def procExpire (s : State) (c : Bool) (during : List (List ClientCall)) : State :=
  let k := s.containers c
  let popped := s.setContainer c { k with heap := (pop rankDelegates k.heap).2 }
  let expired := expireLoop c (clockGettime s.now) k.heap.nodes during (pop rankDelegates k.heap).1 popped
  expired.setContainer c ((expired.containers c).updateSoonestTime none)

/-- `MsgTimerPush::proc`. -/
def procPush (s : State) (c : Bool) (timer : Delegate) : State :=
  let k := s.containers c
  s.setContainer c (Container.updateSoonestTime { k with heap := push rankDelegates k.heap timer } k.heap.peek)

/-- `MsgTimerRemove::proc`. -/
def procRemove (s : State) (c : Bool) (timer : Delegate) : State :=
  let k := s.containers c
  let removed := remove rankDelegates timer k.heap
  let next := { k with heap := removed.2 }
  s.setContainer c (if k.heap.peek = removed.1 then next.updateSoonestTime none else next)

/-- The message task takes the oldest message. -/
def proc (s : State) (during : List (List ClientCall)) : State :=
  match s.queue with
  | [] => s
  | .timerPush c timer :: rest => { s with queue := rest }.procPush c timer
  | .timerRemove c timer :: rest => { s with queue := rest }.procRemove c timer
  | .timerExpire c :: rest => { s with queue := rest }.procExpire c during

/-- The descriptor is in the epoll set and its time has come. -/
def ready (s : State) (c : Bool) : Bool :=
  (s.containers c).polled && (s.containers c).armed.any (fun t => decide (t.toNs ≤ s.now))

/-- `epoll_wait` returns some of the ready descriptors. -/
def wake (s : State) (fired : List Bool) : State :=
  if s.polling = [] ∧ fired.Nodup ∧ fired.all s.ready then { s with polling := fired, phase := .disarm } else s

/-- The next step of `LocTimerContainer::expire` in the poll thread. -/
def pollStep (s : State) : State :=
  match s.polling with
  | [] => s
  | c :: rest =>
    match s.phase with
    | .disarm => { s.setContainer c { s.containers c with armed := settime ⟨0, 0⟩ } with phase := .removePoll }
    | .removePoll => { s.setContainer c { s.containers c with polled := false } with phase := .sendMsg }
    | .sendMsg => { s.send (.timerExpire c) with polling := rest, phase := .disarm }

end State

inductive Action where
  | tick (elapsed : ℕ)
  | client (call : ClientCall)
  | wake (fired : List Bool)
  | pollStep
  | proc (during : List (List ClientCall))
deriving DecidableEq

def step (s : State) : Action → State
  | .tick elapsed => { s with now := s.now + elapsed }
  | .client call => s.clientCall call
  | .wake fired => s.wake fired
  | .pollStep => s.pollStep
  | .proc during => s.proc during

/-- No timer yet, in a process that runs at least a nanosecond after boot. -/
def initial (uptime : ℕ) : State where
  now := uptime + 1
  nextSerial := 0
  mTimer _ := none
  mClient _ := none
  containers _ := ⟨.null, none, false⟩
  queue := []
  polling := []
  phase := .disarm
  callbacks := []

end Cypfr.LocTimer
