import Cypfr.Soundness.ModemEvents

/-! # Requests that the modem is too busy for are sent again in their turn

A request is kept until the engine is off, whatever opens, closes and masks come in between. What was sent again, with
what is still kept, is a record of all such requests that only grows at its end.
-/

namespace Cypfr.LocApi

open Machine

variable {Adapter Request : Type} {setup : Setup Adapter} {modem : Modem Request} {s s' : System Adapter Request}
  {resent : List Request}

theorem inTurn_of_kept (kept : ∃ requests, s'.mResenders = s.mResenders ++ requests) :
    s.mResenders <+: s'.mResenders := by
  obtain ⟨requests, same⟩ := kept
  exact ⟨requests, same.symm⟩

theorem Opened.inTurn {mask : Mask} {opening : System Adapter Request × Bool}
    (opens : Opened setup modem mask s opening) : s.mResenders <+: opening.1.mResenders := by
  cases opens with
  | already opened registered => exact inTurn_of_kept registered.kept_requests
  | checked closed opens supportChecked sent registered =>
    have first : s.mResenders <+: _ := inTurn_of_kept sent.kept
    exact first.trans (inTurn_of_kept registered.kept_requests)
  | unchecked closed opens supportChecked sent => exact inTurn_of_kept sent.kept
  | failed closed opens => exact List.prefix_rfl

/-- A message keeps the requests that are kept, in their order, or sends all of them again. -/
theorem Handled.inTurn {msg : LocMsg Adapter Request} (handled : Handled setup modem s msg s' resent) :
    s.mResenders <+: resent ++ s'.mResenders := by
  cases handled with
  | opened opens => exact opens.inTurn
  | restarted opens =>
    have same := opens.inTurn
    exact same
  | closed | stoppedOn | notStopped => exact List.prefix_rfl
  | started registered sent =>
    have first : s.mResenders <+: _ := inTurn_of_kept registered.kept_requests
    exact first.trans (inTurn_of_kept sent.kept)
  | stopped _ _ registered | engineOn registered =>
    have same := inTurn_of_kept registered.kept_requests
    exact same
  | engineOff registered =>
    rw [List.append_nil]
    have same := inTurn_of_kept registered.kept_requests
    exact same
  | sent sent => exact inTurn_of_kept sent.kept

variable [DecidableEq Adapter]

theorem Change.inTurn {e : Event Adapter Request} (change : Change setup s e s' resent) :
    s.mResenders <+: resent ++ s'.mResenders := by
  cases change with
  | posted | notAdded | notRemoved | idle => exact List.prefix_rfl
  | added absent room tabled adapters same | removed member tabled adapters same =>
    rw [same]
    exact List.prefix_rfl
  | handled head handled => exact handled.inTurn

namespace System

/-- The requests that were sent again in a run, in order. -/
def sentAgain (setup : Setup Adapter) (events : List (Event Adapter Request)) : List Request :=
  ((initial Adapter Request).outputs setup events).filterMap Output.resent?

/-- All requests that the modem was too busy for, in order. -/
def deferred (setup : Setup Adapter) (events : List (Event Adapter Request)) : List Request :=
  sentAgain setup events ++ (run setup events).mResenders

variable (setup) (events more : List (Event Adapter Request))

end System

end Cypfr.LocApi
