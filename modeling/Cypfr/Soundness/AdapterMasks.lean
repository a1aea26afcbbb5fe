import Cypfr.Machine.Run
import Cypfr.Proofs.LocApi
import Mathlib.Data.Finset.Basic

/-! # The modem is asked for what the adapters ask for

The adapters that are called are those that were added and not removed. Whenever no message is on its way that opens or
closes the client, it is open if there are adapters, and has been asked for the events of all of them.
-/

namespace Cypfr.LocApi

open Machine

variable {Adapter Request : Type} [DecidableEq Adapter] {setup : Setup Adapter}

/-- The adapters that were added and not removed. -/
def living (done : List (Event Adapter Request)) : Finset Adapter :=
  done.foldl (fun living e =>
    match e with
    | .addAdapter adapter => insert adapter living
    | .removeAdapter adapter => living.erase adapter
    | _ => living) ∅

theorem living_append_of_ne {done : List (Event Adapter Request)} {e : Event Adapter Request}
    (noAdd : ∀ adapter, e ≠ .addAdapter adapter) (noRemove : ∀ adapter, e ≠ .removeAdapter adapter) :
    living (done ++ [e]) = living done := by
  rw [living, List.foldl_append]
  cases e with
  | addAdapter adapter => exact absurd rfl (noAdd adapter)
  | removeAdapter adapter => exact absurd rfl (noRemove adapter)
  | _ => rfl

theorem living_add {done : List (Event Adapter Request)} (adapter : Adapter) :
    living (done ++ [.addAdapter adapter]) = insert adapter (living done) := by
  rw [living, List.foldl_append]
  rfl

theorem living_remove {done : List (Event Adapter Request)} (adapter : Adapter) :
    living (done ++ [.removeAdapter adapter]) = (living done).erase adapter := by
  rw [living, List.foldl_append]
  rfl

namespace System

variable {s s' : System Adapter Request} {e : Event Adapter Request} {resent : List Request}

/-- The state after a run. -/
abbrev run (setup : Setup Adapter) (events : List (Event Adapter Request)) : System Adapter Request :=
  events.foldl (step setup) (initial Adapter Request)

theorem run_append_singleton {done : List (Event Adapter Request)} :
    run setup (done ++ [e]) = (run setup done).step setup e := by
  rw [run, List.foldl_append]
  rfl

/-- An adapter is added only where it is already there or a slot is free. -/
def HasRoom (s : System Adapter Request) (e : Event Adapter Request) : Prop :=
  ∀ adapter, e = .addAdapter adapter → adapter ∈ s.adapters ∨ s.adapters.length < MAX_ADAPTERS

end System

/-- The adapters that are called are those that were added and not removed, none of them twice, at every point of a run
exactly when none is added while the table is full. -/
theorem System.adapters_eq_living_iff (setup : Setup Adapter) (events : List (Event Adapter Request)) :
    (∀ done, done <+: events →
      (run setup done).adapters.Nodup ∧ (run setup done).adapters.toFinset = living done) ↔
      EachStep (step setup) HasRoom (initial Adapter Request) events := by
  apply forall_prefix_iff_eachStep (I := Tabled) tabled_initial
    (fun s e tabled => (step_change tabled e).tabled tabled) ⟨List.nodup_nil, rfl⟩
  rintro done e tabled ⟨-, called⟩
  have change : Change setup _ e _ _ := step_change tabled e
  have nodup := (change.tabled tabled).nodup
  rw [run_append_singleton, and_iff_right nodup]
  generalize (run setup done).step setup e = s', ((e.happen setup).emitted (run setup done)).filterMap Output.resent? =
    resent at change nodup
  cases change with
  | posted asks noClose sends =>
    have same : living (done ++ [e]) = living done :=
      living_append_of_ne (by rintro adapter rfl; exact sends) (by rintro adapter rfl; exact sends)
    rw [same]
    exact iff_of_true called (by rintro adapter rfl; exact sends.elim)
  | @notAdded adapter kept =>
    rw [living_add, ← called]
    constructor
    · rintro same _ ⟨⟩
      refine .inl (List.mem_toFinset.mp ?_)
      rw [same]
      exact Finset.mem_insert_self _ _
    · intro room
      have member : adapter ∈ (run setup done).adapters := by
        rcases kept with member | full
        · exact member
        · exact (room adapter rfl).resolve_right (Nat.not_lt.mpr full.ge)
      exact (Finset.insert_eq_of_mem (List.mem_toFinset.mpr member)).symm
  | @added adapter s' absent room tabled' adapters same =>
    refine iff_of_true ?_ ?_
    · rw [living_add, ← called, adapters]
      ext other
      rw [List.mem_toFinset, List.mem_append, List.mem_singleton, Finset.mem_insert, List.mem_toFinset]
      exact or_comm
    · rintro _ ⟨⟩
      exact .inr room
  | @notRemoved adapter absent =>
    rw [living_remove, ← called, Finset.erase_eq_of_notMem fun member => absent (List.mem_toFinset.mp member)]
    exact iff_of_true rfl (by rintro _ ⟨⟩)
  | @removed adapter s' member tabled' adapters same =>
    refine iff_of_true ?_ (by rintro _ ⟨⟩)
    rw [living_remove, ← called]
    ext other
    rw [List.mem_toFinset, adapters.mem_iff, tabled.nodup.mem_erase_iff, Finset.mem_erase, List.mem_toFinset]
  | idle empty =>
    rw [living_append_of_ne (by simp) (by simp)]
    exact iff_of_true called (by rintro _ ⟨⟩)
  | handled head handled =>
    rw [living_append_of_ne (by simp) (by simp), handled.untouched.adapters]
    exact iff_of_true called (by rintro _ ⟨⟩)

/-- The messages that open or close the client. -/
def LocMsg.decides : LocMsg Adapter Request → Bool
  | .open _ | .ssr | .close => true
  | _ => false

omit [DecidableEq Adapter] in
theorem LocMsg.Opens.decides {msg : LocMsg Adapter Request} (opens : msg.Opens) : msg.decides = true := by
  rcases opens with rfl | ⟨mAdapter, rfl⟩ <;> rfl

namespace System

variable {s s' : System Adapter Request} {e : Event Adapter Request} {resent : List Request} {modem : Modem Request}
  {msg : LocMsg Adapter Request} {rest : List (LocMsg Adapter Request)}

/-- The messages on their way that open or close the client. -/
def decisive (s : System Adapter Request) : List (LocMsg Adapter Request) := s.msgs.filter LocMsg.decides

/-- The client is open if there are adapters, and an open client has been asked for the events of all of them. -/
structure Settled (setup : Setup Adapter) (s : System Adapter Request) : Prop where
  opened : s.adapters ≠ [] → s.clientHandle.isSome = true
  asked : s.clientHandle.isSome = true → s.mMask = s.getEvtMask setup

/-- The last message on its way that opens a client that is not open succeeds in that, and the modem says then what
messages it supports, unless nobody asks for anything. -/
def Answered (setup : Setup Adapter) (s : System Adapter Request) (e : Event Adapter Request) : Prop :=
  ∀ modem msg rest, e = .proc modem → s.msgs = msg :: rest → rest.filter LocMsg.decides = [] →
    (msg = .ssr ∨ msg.Opens ∧ s.clientHandle = none) →
      if modem.opens then modem.supportChecked = true ∨ s.getEvtMask setup = 0 else s.adapters = []

/-- When the last message that decides closes the client, there are no adapters. -/
def ClosesLast (s : System Adapter Request) : Prop := s.decisive.getLast? = some .close → s.adapters = []

omit [DecidableEq Adapter] in
theorem getEvtMask_and_not : s.getEvtMask setup &&& ~~~ setup.mExcludedMask = s.getEvtMask setup := by
  rw [getEvtMask, BitVec.and_assoc, BitVec.and_self]

omit [DecidableEq Adapter] in
/-- What opening a closed client comes to. -/
theorem settled_opened_iff {mask : Mask} {opening : System Adapter Request × Bool}
    (opens : Opened setup modem mask s opening) (closed : s.clientHandle = none) (idle : s.mMask = 0)
    (own : mask = s.getEvtMask setup) :
    opening.1.Settled setup ↔
      if modem.opens then modem.supportChecked = true ∨ s.getEvtMask setup = 0 else s.adapters = [] := by
  have same := opens.untouched
  subst own
  cases opens with
  | already opened => 
    rw [closed] at opened
    cases opened
  | checked _ opens supportChecked sent registered =>
    rw [if_pos opens]
    refine iff_of_true ⟨fun _ => registered.frame.opened.trans sent.frame.opened, fun _ => ?_⟩ (.inl supportChecked)
    rw [registered.mMask, getEvtMask_and_not, same.getEvtMask]
  | @unchecked s' _ opens supportChecked sent =>
    rw [if_pos opens, or_iff_right (Bool.eq_false_iff.mp supportChecked)]
    have unasked : s'.mMask = 0 := sent.mask.trans idle
    constructor
    · intro settled
      exact (same.getEvtMask setup).symm.trans ((settled.asked sent.frame.opened).symm.trans unasked)
    · intro nothing
      refine ⟨fun _ => sent.frame.opened, fun _ => ?_⟩
      rw [unasked, same.getEvtMask, nothing]
  | failed _ opens =>
    rw [if_neg (Bool.eq_false_iff.mp opens)]
    constructor
    · intro settled
      by_contra some
      cases settled.opened some
    · intro nobody
      exact ⟨fun some => absurd nobody some, fun opened => by cases opened⟩

omit [DecidableEq Adapter] in
/-- A message that neither opens nor closes the client leaves it as open as it is, and asked for the same. -/
theorem Settled.handled (settled : s.Settled setup) (handled : Handled setup modem s msg s' resent)
    (other : msg.decides = false) : s'.Settled setup := by
  have same := handled.untouched
  have rest : s'.clientHandle.isSome = s.clientHandle.isSome ∧ s'.mMask = s.mMask := by
    cases handled with
    | opened | restarted | closed => cases other
    | started registered sent =>
      exact ⟨sent.frame.opened.trans registered.frame.opened, sent.mask.trans registered.mMask⟩
    | stopped _ _ registered | engineOn registered | engineOff registered =>
      exact ⟨registered.frame.opened, registered.mMask⟩
    | stoppedOn | notStopped => exact ⟨rfl, rfl⟩
    | sent sent => exact ⟨sent.frame.opened, sent.mask⟩
  refine ⟨fun some => ?_, fun opened => ?_⟩
  · rw [rest.1]
    exact settled.opened (same.adapters ▸ some)
  · rw [rest.2, same.getEvtMask]
    exact settled.asked (rest.1 ▸ opened)

omit [DecidableEq Adapter] in
/-- The last message that decides. -/
theorem Settled.decided_iff (head : s.msgs = msg :: rest) (last : rest.filter LocMsg.decides = [])
    (decides : msg.decides = true) (shut : s.Shut) (closesLast : s.ClosesLast)
    (handled : Handled setup modem { s with msgs := rest } msg s' resent) :
    s'.Settled setup ↔ s.Answered setup (.proc modem) := by
  have answered : s.Answered setup (.proc modem) ↔ ((msg = .ssr ∨ msg.Opens ∧ s.clientHandle = none) →
      if modem.opens then modem.supportChecked = true ∨ s.getEvtMask setup = 0 else s.adapters = []) := by
    constructor
    · exact fun all fresh => all modem msg rest rfl head last fresh
    · rintro own modem' msg' rest' same head' - fresh
      cases same
      cases head.symm.trans head'
      exact own fresh
  rw [answered]
  cases handled with
  | @opened mAdapter opening opens =>
    cases closed : s.clientHandle with
    | none =>
      rw [forall_prop_of_true (.inr ⟨.inr ⟨mAdapter, rfl⟩, rfl⟩)]
      have settled := settled_opened_iff opens closed (shut closed).1 rfl
      exact settled
    | some handle =>
      refine iff_of_true ?_ (by simp)
      cases opens with
      | already opened registered =>
        refine ⟨fun _ => registered.frame.opened.trans opened, fun _ => ?_⟩
        rw [registered.mMask, getEvtMask_and_not, registered.frame.getEvtMask]
      | checked none | unchecked none | failed none => cases closed.symm.trans none
  | restarted opens =>
    rw [forall_prop_of_true (.inl rfl)]
    have settled := settled_opened_iff opens rfl rfl rfl
    exact settled
  | closed =>
    have nobody : s.adapters = [] := by
      refine closesLast ?_
      rw [decisive, head, List.filter_cons_of_pos rfl, last]
      rfl
    refine iff_of_true ⟨fun some => absurd nobody some, fun opened => by cases opened⟩ ?_
    rintro (other | ⟨other | ⟨mAdapter, other⟩, -⟩) <;> cases other
  | started | engineOn | engineOff | sent | notStopped => cases decides
  | stopped stops | stoppedOn stops => rcases stops with rfl | rfl <;> cases decides

theorem ClosesLast.step (change : Change setup s e s' resent) (closesLast : s.ClosesLast) : s'.ClosesLast := by
  intro last
  cases change with
  | @posted e mEvtMask added asks noClose sends =>
    rw [decisive, List.filter_append, List.getLast?_append] at last
    cases added' : (added.filter LocMsg.decides).getLast? with
    | none =>
      rw [added', Option.none_or] at last
      exact closesLast last
    | some msg =>
      rw [added', Option.some_or] at last
      have member := (List.mem_filter.mp (List.mem_of_getLast? (added'.trans last))).1
      exact absurd member noClose
  | notAdded | notRemoved | idle => exact closesLast last
  | added absent room tabled adapters same =>
    rw [same, decisive, sendMsg, List.filter_append, List.getLast?_append] at last
    cases last
  | removed member tabled adapters same =>
    by_contra some
    rw [if_neg some] at same
    rw [same, decisive, sendMsg, List.filter_append, List.getLast?_append] at last
    cases last
  | @handled modem msg rest s' resent head handled =>
    rw [decisive, handled.untouched.msgs] at last
    rw [handled.untouched.adapters]
    refine closesLast ?_
    rw [decisive, head, List.filter_cons]
    split_ifs
    · exact List.mem_getLast?_cons last
    · exact last

/-- Throughout a run, the client is open for the adapters and asked for their events whenever no message that opens or
closes it is on its way, exactly when the last such message always succeeds. -/
theorem settled_iff (setup : Setup Adapter) (events : List (Event Adapter Request)) :
    Throughout (step setup) (fun s => s.decisive = [] → s.Settled setup) (initial Adapter Request) events ↔
      EachStep (step setup) (Answered setup) (initial Adapter Request) events := by
  apply throughout_iff_eachStep (I := fun s => s.Tabled ∧ s.Shut ∧ s.ClosesLast)
  · exact ⟨tabled_initial, fun _ => ⟨rfl, rfl⟩, fun _ => rfl⟩
  · rintro s e ⟨tabled, shut, closesLast⟩
    have change : Change setup _ e _ _ := step_change tabled e
    exact ⟨change.tabled tabled, change.shut shut, closesLast.step change⟩
  · exact fun _ => ⟨fun some => absurd rfl some, fun opened => by cases opened⟩
  rintro s e ⟨tabled, shut, closesLast⟩ settled
  have change : Change setup _ e _ _ := step_change tabled e
  generalize s.step setup e = s', ((e.happen setup).emitted s).filterMap Output.resent? = resent at change
  have vacuous (noProc : ∀ modem, e ≠ .proc modem) : s.Answered setup e :=
    fun modem msg rest same => absurd same (noProc modem)
  cases change with
  | @posted e mEvtMask added asks noClose sends =>
    refine iff_of_true (fun quiet => ?_) (vacuous (by rintro modem rfl; exact sends))
    rw [decisive, List.filter_append, List.append_eq_nil_iff] at quiet
    have before := settled quiet.1
    refine ⟨before.opened, fun opened => (before.asked opened).trans ?_⟩
    rcases asks with same | ⟨msg, member, opens⟩
    · exact same.symm
    · have decides := List.mem_filter.mpr ⟨member, opens.decides⟩
      rw [quiet.2] at decides
      cases decides
  | notAdded => exact iff_of_true settled (vacuous (by simp))
  | notRemoved => exact iff_of_true settled (vacuous (by simp))
  | @added adapter s' absent room tabled' adapters same =>
    refine iff_of_true (fun quiet => ?_) (vacuous (by simp))
    rw [same, decisive, sendMsg, List.filter_append, List.append_eq_nil_iff] at quiet
    cases quiet.2
  | @removed adapter s' member tabled' adapters same =>
    refine iff_of_true (fun quiet => ?_) (vacuous (by simp))
    rw [same, decisive, sendMsg, List.filter_append, List.append_eq_nil_iff] at quiet
    split_ifs at quiet
    · cases quiet.2
    · cases quiet.2
  | @idle modem empty =>
    refine iff_of_true settled ?_
    rintro modem' msg rest - head
    cases empty.symm.trans head
  | @handled modem msg rest s' resent head handled =>
    have after : s'.decisive = rest.filter LocMsg.decides := by rw [decisive, handled.untouched.msgs]
    by_cases last : rest.filter LocMsg.decides = []
    · rw [after, forall_prop_of_true last]
      cases decides : msg.decides with
      | true => exact Settled.decided_iff head last decides shut closesLast handled
      | false =>
        have quiet : s.decisive = [] := by
          rw [decisive, head, List.filter_cons_of_neg (Bool.eq_false_iff.mp decides), last]
        have before : Settled setup { s with msgs := rest } :=
          ⟨(settled quiet).opened, (settled quiet).asked⟩
        refine iff_of_true (before.handled handled decides) ?_
        rintro modem' msg' rest' - head' - (rfl | ⟨opens, -⟩)
        · cases head.symm.trans head'
          cases decides
        · cases head.symm.trans head'
          cases decides.symm.trans opens.decides
    · refine iff_of_true (fun quiet => absurd (after.symm.trans quiet) last) ?_
      rintro modem' msg' rest' - head' last'
      cases head.symm.trans head'
      exact absurd last' last

section Examples

/-- A modem that does everything but say what messages it supports. -/
def unchecked : Modem Unit :=
  { opens := true, checks := [], supportChecked := false, registers := true, wifiStatus := ⟨(), false, true, true⟩,
    constellation := ⟨(), false, true, true⟩, stops := true }

/-- The client is open then, and has not been asked for anything. -/
example : (run ⟨fun _ => false, 0, false⟩
    [.construct (0 : ℕ) (AdapterBit.mask .reportPosition), .addAdapter 0, .proc unchecked]).clientHandle = some 0 := by
  decide

end Examples

end System

end Cypfr.LocApi
