import Cypfr.Machine.Run
import Cypfr.Proofs.LocationClientApi

/-! # The last call decides the session

What a client comes to once its task has taken what waits is what its user called last, a start or a stop, exactly as
long as no capabilities are taken in a session while a call that asks for something else waits: the session is then
started again behind that call.
-/

namespace Cypfr.ClientApi

open Tracking HalDaemon Machine

/-- What a start asks for: two that agree in this are the same start. -/
abbrev Ask := ℕ × ℕ × UInt32

def askOf (options : LocationOptions) : Ask := (options.minInterval, options.minDistance, options.locReqEngTypeMask)

theorem askOf_eq_iff {kept option : LocationOptions} : askOf kept = askOf option ↔ ¬ IsOptionUpdated kept option := by
  simp only [askOf, Prod.mk.injEq, IsOptionUpdated, not_or, not_not, ne_eq]

/-- A start or a stop, with what it asks for. -/
def Task.wish : Task → Option (Option Ask)
  | .startTracking option => some (some (askOf option.toLocationOptions))
  | .stopTracking => some none
  | _ => none

/-- The last start or stop that waits. -/
def lastWish (tasks : List Task) : Option (Option Ask) := (tasks.filterMap Task.wish).getLast?

/-- The session that the client keeps. -/
def LocationClientApiImpl.session (impl : LocationClientApiImpl) : Option Ask :=
  if impl.mSessionId ≠ 0 then some (askOf impl.mLocationOptions) else none

/-- The session that the client will keep once its task has taken what waits. -/
def outcome (impl : LocationClientApiImpl) (tasks : List Task) : Option Ask := (lastWish tasks).getD impl.session

section Outcomes

variable {impl impl' : LocationClientApiImpl} {task : Task} {tasks rest more : List Task} {sent : List ClientMsg}
  {posted : List Task}

theorem lastWish_append : lastWish (tasks ++ more) = (lastWish more).or (lastWish tasks) := by
  rw [lastWish, List.filterMap_append, List.getLast?_append]
  rfl

theorem lastWish_singleton : lastWish [task] = task.wish := by
  rw [lastWish, List.filterMap_cons]
  cases task.wish <;> rfl

theorem lastWish_cons : lastWish (task :: rest) = (lastWish rest).or task.wish := by
  rw [← List.singleton_append, lastWish_append, lastWish_singleton]

theorem outcome_append (mute : lastWish more = none) : outcome impl (tasks ++ more) = outcome impl tasks := by
  rw [outcome, outcome, lastWish_append, mute, Option.none_or]

theorem session_congr (id : impl'.mSessionId = impl.mSessionId)
    (options : impl'.mLocationOptions = impl.mLocationOptions) : impl'.session = impl.session := by
  rw [LocationClientApiImpl.session, LocationClientApiImpl.session, id, options]

/-- A start leaves the session that it asks for. -/
theorem Started.session {option : LocationOptions} (started : Started impl option impl' sent) :
    impl'.session = some (askOf option) := by
  cases started with
  | kept _ after | new _ _ after => rw [after, LocationClientApiImpl.session, if_pos impl.valid]
  | updated _ runs _ after => rw [after, LocationClientApiImpl.session, if_pos runs]
  | same _ runs unchanged after =>
    rw [after, LocationClientApiImpl.session, if_pos runs]
    exact congrArg some (askOf_eq_iff.mpr unchanged)

/-- A message that the task takes leaves the outcome, but for the capabilities. -/
theorem Effect.outcome (effect : Effect impl task impl' sent posted) (other : task ≠ .capabilities) :
    outcome impl' (rest ++ posted) = outcome impl (task :: rest) := by
  have plain (session : impl'.session = impl.session) (mute : task.wish = none) :
      ClientApi.outcome impl' rest = ClientApi.outcome impl (task :: rest) := by
    rw [ClientApi.outcome, ClientApi.outcome, lastWish_cons, mute, Option.or_none, session]
  cases effect with
  | start started =>
    rw [List.append_nil, ClientApi.outcome, ClientApi.outcome, lastWish_cons, started.session]
    cases lastWish rest <;> rfl
  | stop =>
    have none : (stopped impl).session = none := by
      rw [stopped]
      split <;> exact if_neg (not_not.mpr rfl)
    rw [List.append_nil, ClientApi.outcome, ClientApi.outcome, lastWish_cons, none]
    cases lastWish rest <;> rfl
  | functions _ _ subscribes | callbacks _ subscribes | listener _ subscribes | response _ _ subscribes =>
    rw [List.append_nil]
    exact plain (session_congr subscribes.session subscribes.options) rfl
  | register =>
    rw [List.append_nil]
    exact plain rfl rfl
  | capabilities => exact absurd rfl other
  | halReady =>
    rw [outcome_append rfl]
    exact plain rfl rfl

end Outcomes

namespace System

variable {Client : Type} [DecidableEq Client] {mode : GnssSuplMode} {clientId : Client → ValidId} {s : System Client}
  {events : List (Event Client)} {client : Client}

end System

end Cypfr.ClientApi
