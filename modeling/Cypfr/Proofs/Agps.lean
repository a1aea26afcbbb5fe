import Cypfr.Model.Agps
import Mathlib.Data.List.Nodup

/-! # What an event does to a machine

The machine's list and state after each event and the callbacks it makes, and what these are for a single
handle: what it has heard while it is listed, and that its request has ended when it is not.
-/

namespace Cypfr.Agps

open AgpsStateMachine

/-- What a subscriber is told. -/
inductive Callback where
  | openSuccess
  | openFailure
  | close
deriving DecidableEq

/-- What a call tells the subscriber with a handle. -/
def AgpsCall.callback (connHandle : Int32) : AgpsCall → Option Callback
  | .atlOpenStatus handle isSuccess _ _ _ _ _ =>
    if handle = connHandle then some (if isSuccess then .openSuccess else .openFailure) else none
  | .atlCloseStatus handle _ => if handle = connHandle then some .close else none
  | .frameworkStatus _ _ _ => none

/-- The callbacks for a handle among some calls. -/
def callbacks (connHandle : Int32) (calls : List AgpsCall) : List Callback := calls.filterMap (AgpsCall.callback connHandle)

/-- What an event tells the subscribers it is notified to. -/
def AgpsEvent.callback : AgpsEvent → List Callback
  | .subscribe => []
  | .unsubscribe => [.close]
  | .granted => [.openSuccess]
  | .released => [.close]
  | .denied => [.openFailure]

def AgpsStateMachine.handles (sm : AgpsStateMachine) : List Int32 := sm.subscriberList.map AgpsSubscriber.connHandle

section Notify

variable (sm : AgpsStateMachine) (event : AgpsEvent) (subscriber : AgpsSubscriber) (connHandle : Int32)

@[simp] theorem callbacks_nil : callbacks connHandle [] = [] := rfl

@[simp] theorem callbacks_append (calls calls' : List AgpsCall) :
    callbacks connHandle (calls ++ calls') = callbacks connHandle calls ++ callbacks connHandle calls' :=
  List.filterMap_append

@[simp] theorem callbacks_requestOrReleaseDataConn (request : Bool) :
    callbacks connHandle ((requestOrReleaseDataConn request).emitted sm) = [] := rfl

@[simp] theorem next_requestOrReleaseDataConn (request : Bool) : (requestOrReleaseDataConn request).next sm = sm := rfl

@[simp] theorem next_transitionState (newState : AgpsState) :
    (transitionState newState).next sm = { sm with state := newState } := rfl

@[simp] theorem emitted_transitionState (newState : AgpsState) : (transitionState newState).emitted sm = [] := rfl

theorem next_notifyEventToSubscriber (delete : Bool) : (notifyEventToSubscriber event subscriber delete).next sm =
    if delete then sm.deleteSubscriber subscriber else sm := by
  cases event <;> cases delete <;> rfl

theorem callbacks_notifyEventToSubscriber (delete : Bool) :
    callbacks connHandle ((notifyEventToSubscriber event subscriber delete).emitted sm) =
      if subscriber.connHandle = connHandle then event.callback else [] := by
  cases event <;> cases delete <;>
    simp [notifyEventToSubscriber, callbacks, AgpsCall.callback, AgpsEvent.callback, List.filterMap_cons] <;>
    split_ifs <;> rfl

variable (delete : Bool) (notificationType : AgpsNotificationType)

/-- What a notification leaves of a list. -/
def leftOf (l : List AgpsSubscriber) : List AgpsSubscriber :=
  if delete then l.filter fun subscriber => !notificationType.covers subscriber else l

theorem next_notifyFrom (l : List AgpsSubscriber) : (notifyFrom event delete notificationType l).next sm = sm := by
  induction l with
  | nil => rfl
  | cons subscriber rest ih =>
    simp only [notifyFrom, Emit.next_ite, Emit.next_bind, Emit.next_pure, next_notifyEventToSubscriber,
      Bool.false_eq_true, if_false, ih, ite_self]

theorem result_notifyFrom (l : List AgpsSubscriber) :
    (notifyFrom event delete notificationType l).result sm = leftOf delete notificationType l := by
  induction l with
  | nil => cases delete <;> rfl
  | cons subscriber rest ih =>
    simp only [notifyFrom, Emit.result_ite, Emit.result_bind, Emit.result_pure, next_notifyEventToSubscriber,
      Bool.false_eq_true, if_false, ih]
    cases delete <;> simp [leftOf, List.filter_cons]
    split_ifs <;> simp_all

theorem callbacks_notifyFrom_cons (rest : List AgpsSubscriber) :
    callbacks connHandle ((notifyFrom event delete notificationType (subscriber :: rest)).emitted sm) =
      (if notificationType.covers subscriber then (if subscriber.connHandle = connHandle then event.callback else [])
        else []) ++ callbacks connHandle ((notifyFrom event delete notificationType rest).emitted sm) := by
  simp only [notifyFrom, Emit.emitted_ite, Emit.emitted_bind, Emit.emitted_pure, List.append_nil,
    next_notifyEventToSubscriber, Bool.false_eq_true, if_false]
  split_ifs with covered same
  · rw [callbacks_append, callbacks_notifyEventToSubscriber, if_pos same]
  · rw [callbacks_append, callbacks_notifyEventToSubscriber, if_neg same]
  · rfl

/-- A handle that is not in the list hears nothing. -/
theorem callbacks_notifyFrom_of_notMem {l : List AgpsSubscriber}
    (unlisted : connHandle ∉ l.map AgpsSubscriber.connHandle) :
    callbacks connHandle ((notifyFrom event delete notificationType l).emitted sm) = [] := by
  induction l with
  | nil => rfl
  | cons subscriber rest ih =>
    rw [List.map_cons, List.mem_cons, not_or] at unlisted
    rw [callbacks_notifyFrom_cons, if_neg (Ne.symm unlisted.1), ite_self, ih unlisted.2, List.nil_append]

/-- A subscriber that the notification is meant for hears of the event once. -/
theorem callbacks_notifyFrom {l : List AgpsSubscriber} (nodup : (l.map AgpsSubscriber.connHandle).Nodup)
    (member : subscriber ∈ l) :
    callbacks subscriber.connHandle ((notifyFrom event delete notificationType l).emitted sm) =
      if notificationType.covers subscriber then event.callback else [] := by
  induction l with
  | nil => cases member
  | cons first rest ih =>
    obtain ⟨new, nodup⟩ := List.nodup_cons.mp nodup
    rw [callbacks_notifyFrom_cons]
    rcases List.mem_cons.mp member with rfl | later
    · rw [if_pos rfl, callbacks_notifyFrom_of_notMem sm event subscriber.connHandle delete notificationType new,
        List.append_nil]
    · have other : first.connHandle ≠ subscriber.connHandle :=
        fun same => new (same ▸ List.mem_map_of_mem later)
      rw [if_neg other, ite_self, List.nil_append, ih nodup later]

theorem next_notifyAllSubscribers : (notifyAllSubscribers event delete notificationType).next sm =
    { sm with subscriberList := leftOf delete notificationType sm.subscriberList } := by
  rw [notifyAllSubscribers, Emit.next_get_bind, Emit.next_bind, Emit.next_modify, result_notifyFrom, next_notifyFrom]

theorem emitted_notifyAllSubscribers : (notifyAllSubscribers event delete notificationType).emitted sm =
    (notifyFrom event delete notificationType sm.subscriberList).emitted sm := by
  rw [notifyAllSubscribers, Emit.emitted_get_bind, Emit.emitted_bind, Emit.emitted_modify, List.append_nil]

end Notify

section Events

variable {sm : AgpsStateMachine} (currentSubscriber : AgpsSubscriber)

theorem subscribe_of_released (state : sm.state = .released) :
    (processAgpsEventSubscribe currentSubscriber).next sm = { sm.addSubscriber currentSubscriber with state :=
    .pending } ∧
    (processAgpsEventSubscribe currentSubscriber).emitted sm =
      (requestOrReleaseDataConn true).emitted (sm.addSubscriber currentSubscriber) := by
  simp [processAgpsEventSubscribe, state]

theorem subscribe_of_waiting (state : sm.state = .pending ∨ sm.state = .releasing) :
    (processAgpsEventSubscribe currentSubscriber).next sm = sm.addSubscriber currentSubscriber ∧
    (processAgpsEventSubscribe currentSubscriber).emitted sm = [] := by
  rcases state with state | state
  · simp [processAgpsEventSubscribe, state]
  · simp [processAgpsEventSubscribe, state]

theorem subscribe_of_acquired (state : sm.state = .acquired) :
    (processAgpsEventSubscribe currentSubscriber).next sm = sm.addSubscriber currentSubscriber ∧
    (processAgpsEventSubscribe currentSubscriber).emitted sm =
      (notifyEventToSubscriber .granted currentSubscriber false).emitted sm := by
  simp [processAgpsEventSubscribe, state, next_notifyEventToSubscriber]

/-- The last subscriber or the last active one has left a connection. -/
theorem unsubscribe_of_held (held : sm.state = .pending ∨ sm.state = .acquired) {left : AgpsStateMachine}
    (leaves : (leave currentSubscriber).next sm = left) :
    (processAgpsEventUnsubscribe currentSubscriber).next sm =
      (if left.subscriberList.isEmpty then { left with state := .released }
      else if left.anyActiveSubscribers = false then { left with state := .releasing }
      else left) ∧
    (processAgpsEventUnsubscribe currentSubscriber).emitted sm = (leave currentSubscriber).emitted sm ++
      if left.anyActiveSubscribers then [] else (requestOrReleaseDataConn false).emitted left := by
  subst leaves
  have empty (none : ((leave currentSubscriber).next sm).subscriberList = []) :
      ((leave currentSubscriber).next sm).anyActiveSubscribers = false := by
    rw [anyActiveSubscribers, none]
    rfl
  rcases held with state | state
  · constructor
    · simp [processAgpsEventUnsubscribe, state]
    · simp [processAgpsEventUnsubscribe, state]
      split_ifs <;> simp_all [requestOrReleaseDataConn]
  · constructor
    · simp [processAgpsEventUnsubscribe, state]
    · simp [processAgpsEventUnsubscribe, state]
      split_ifs <;> simp_all [requestOrReleaseDataConn]

theorem unsubscribe_of_releasing (state : sm.state = .releasing) {left : AgpsStateMachine}
    (leaves : (leave currentSubscriber).next sm = left) :
    (processAgpsEventUnsubscribe currentSubscriber).next sm =
      (if left.subscriberList.isEmpty then { left with state := .released } else left) ∧
    (processAgpsEventUnsubscribe currentSubscriber).emitted sm = (leave currentSubscriber).emitted sm := by
  subst leaves
  simp [processAgpsEventUnsubscribe, state]

theorem granted_of_pending (state : sm.state = .pending) :
    processAgpsEventGranted.next sm = { sm with state := .acquired } ∧
    processAgpsEventGranted.emitted sm = (notifyAllSubscribers .granted false .forActiveSubscribers).emitted
      { sm with state := .acquired } := by
  simp [processAgpsEventGranted, state, next_notifyAllSubscribers, leftOf]

theorem closeReleasing_eq {left : AgpsStateMachine}
    (leaves : (notifyAllSubscribers .released true .forInactiveSubscribers).next sm = left) :
    closeReleasing.next sm =
      { left with state := if left.anyActiveSubscribers then .pending else .released } ∧
    closeReleasing.emitted sm = (notifyAllSubscribers .released true .forInactiveSubscribers).emitted sm ++
      if left.anyActiveSubscribers then (requestOrReleaseDataConn true).emitted left else [] := by
  subst leaves
  constructor
  · simp [closeReleasing]
    split_ifs <;> rfl
  · simp [closeReleasing]
    rfl

theorem released_of_acquired (state : sm.state = .acquired) :
    processAgpsEventReleased.next sm = { sm with state := .released, subscriberList := [] } ∧
    processAgpsEventReleased.emitted sm =
      (notifyFrom .released true .forAllSubscribers sm.subscriberList).emitted { sm with state := .released } := by
  simp [processAgpsEventReleased, state, next_notifyAllSubscribers, emitted_notifyAllSubscribers, leftOf,
    AgpsNotificationType.covers]

theorem released_of_releasing (state : sm.state = .releasing) :
    processAgpsEventReleased.next sm = closeReleasing.next sm ∧
    processAgpsEventReleased.emitted sm = closeReleasing.emitted sm := by
  simp [processAgpsEventReleased, state]

theorem denied_of_pending (state : sm.state = .pending) :
    processAgpsEventDenied.next sm = { sm with state := .released, subscriberList := [] } ∧
    processAgpsEventDenied.emitted sm =
      (notifyFrom .denied true .forAllSubscribers sm.subscriberList).emitted { sm with state := .released } := by
  simp [processAgpsEventDenied, state, next_notifyAllSubscribers, emitted_notifyAllSubscribers, leftOf,
    AgpsNotificationType.covers]

theorem denied_of_releasing (state : sm.state = .releasing) :
    processAgpsEventDenied.next sm = closeReleasing.next sm ∧
    processAgpsEventDenied.emitted sm = closeReleasing.emitted sm := by
  simp [processAgpsEventDenied, state]

end Events

section Histories

/-- The callbacks that end a request. -/
def Ended (history : List Callback) : Prop :=
  history = [.openSuccess, .close] ∨ history = [.openFailure] ∨ history = [.close]

/-- What a listed subscriber has heard so far. -/
def Heard : AgpsState → Bool → List Callback → Prop
  | .released, _, _ => False
  | .pending, _, history => history = []
  | .acquired, false, history => history = [.openSuccess]
  | .acquired, true, history => history = [] ∨ history = [.openSuccess]
  | .releasing, false, history => history = []
  | .releasing, true, history => history = [] ∨ history = [.openSuccess]

/-- The list has no handle twice, and every subscriber in it has heard what the state says. -/
structure Tracks (history : Int32 → List Callback) (sm : AgpsStateMachine) : Prop where
  nodup : sm.handles.Nodup
  heard : ∀ subscriber ∈ sm.subscriberList, Heard sm.state subscriber.isInactive (history subscriber.connHandle)

/-- A program keeps track of the handles that were listed and of the new ones: those that it takes from the
list have ended, and it tells no other handle anything. -/
structure Advances (new : List Int32) (history : Int32 → List Callback) (sm sm' : AgpsStateMachine)
    (calls : List AgpsCall) : Prop where
  tracks : Tracks (fun h => history h ++ callbacks h calls) sm'
  others : ∀ h, h ∉ sm.handles → h ∉ new → callbacks h calls = [] ∧ h ∉ sm'.handles
  gone : ∀ h, h ∈ sm.handles ∨ h ∈ new → h ∉ sm'.handles → Ended (history h ++ callbacks h calls)

variable {history : Int32 → List Callback} {sm : AgpsStateMachine}

theorem Advances.congr {new : List Int32} {sm₁ sm' : AgpsStateMachine} {calls : List AgpsCall}
    (advances : Advances new history sm₁ sm' calls) (handles : sm₁.handles = sm.handles) :
    Advances new history sm sm' calls :=
  ⟨advances.tracks, handles ▸ advances.others, handles ▸ advances.gone⟩

/-- A handle that is listed afterwards was listed before or is new. -/
theorem Advances.source {new : List Int32} {sm' : AgpsStateMachine} {calls : List AgpsCall} {h : Int32}
    (advances : Advances new history sm sm' calls) (member : h ∈ sm'.handles) : h ∈ sm.handles ∨ h ∈ new := by
  by_contra neither
  obtain ⟨unlisted, old⟩ := not_or.mp neither
  exact (advances.others h unlisted old).2 member

theorem Heard.short {state : AgpsState} {isInactive : Bool} {heard : List Callback}
    (fits : Heard state isInactive heard) :
    heard = [] ∨ heard = [.openSuccess] := by
  cases state <;> cases isInactive <;> simp_all [Heard]

/-- Closing ends what has not ended. -/
theorem Heard.close {state : AgpsState} {isInactive : Bool} {heard : List Callback}
    (fits : Heard state isInactive heard) :
    Ended (heard ++ [.close]) := by
  rcases fits.short with rfl | rfl
  · exact .inr (.inr rfl)
  · exact .inl rfl

theorem Tracks.list_eq_nil (tracks : Tracks history sm) (released : sm.state = .released) : sm.subscriberList = [] := by
  refine List.eq_nil_iff_forall_not_mem.mpr fun subscriber member => ?_
  have fits := tracks.heard subscriber member
  rw [released] at fits
  exact fits

theorem mem_handles {h : Int32} : h ∈ sm.handles ↔ ∃ subscriber ∈ sm.subscriberList, subscriber.connHandle = h :=
  List.mem_map

/-- A program that changes neither the list nor the state and makes no callback. -/
theorem advances_of_same {sm' : AgpsStateMachine} {calls : List AgpsCall} (tracks : Tracks history sm)
    (list : sm'.subscriberList = sm.subscriberList) (state : sm'.state = sm.state)
    (silent : ∀ h, callbacks h calls = []) : Advances [] history sm sm' calls := by
  have handles : sm'.handles = sm.handles := by rw [AgpsStateMachine.handles, list, AgpsStateMachine.handles]
  refine ⟨⟨handles ▸ tracks.nodup, ?_⟩, fun h unlisted _ => ⟨silent h, handles ▸ unlisted⟩, ?_⟩
  · rw [list, state]
    simpa [silent] using tracks.heard
  · rintro h (listed | none) unlisted
    · exact absurd (handles ▸ listed) unlisted
    · cases none

/-- A notification that deletes those it has told their last, and fits the state with the others. -/
theorem advances_notify {sm' : AgpsStateMachine} {calls : List AgpsCall} (tracks : Tracks history sm)
    (teller : AgpsStateMachine) (event : AgpsEvent) (delete : Bool) (notificationType : AgpsNotificationType)
    (list : sm'.subscriberList = leftOf delete notificationType sm.subscriberList)
    (told : ∀ h, callbacks h calls =
      callbacks h ((notifyFrom event delete notificationType sm.subscriberList).emitted teller))
    (kept : ∀ subscriber ∈ sm'.subscriberList, Heard sm'.state subscriber.isInactive
      (history subscriber.connHandle ++ if notificationType.covers subscriber then event.callback else []))
    (ended : ∀ subscriber ∈ sm.subscriberList, delete = true → notificationType.covers subscriber = true →
      Ended (history subscriber.connHandle ++ event.callback)) :
    Advances [] history sm sm' calls := by
  have sublist : sm'.subscriberList.Sublist sm.subscriberList := by
    rw [list, leftOf]
    split_ifs
    · exact List.filter_sublist
    · exact List.Sublist.refl _
  have hears (subscriber : AgpsSubscriber) (member : subscriber ∈ sm.subscriberList) :=
    callbacks_notifyFrom teller event subscriber delete notificationType tracks.nodup member
  refine ⟨⟨tracks.nodup.sublist (sublist.map _), fun subscriber member => ?_⟩, fun h unlisted _ => ⟨?_, ?_⟩, ?_⟩
  · rw [told, hears subscriber (sublist.subset member)]
    exact kept subscriber member
  · rw [told]
    exact callbacks_notifyFrom_of_notMem teller event h delete notificationType unlisted
  · exact fun listed => unlisted ((sublist.map _).subset listed)
  · rintro h (listed | none) unlisted
    · obtain ⟨subscriber, member, rfl⟩ := mem_handles.mp listed
      have deleted : delete = true ∧ notificationType.covers subscriber = true := by
        by_contra left
        refine unlisted (mem_handles.mpr ⟨subscriber, ?_, rfl⟩)
        rw [list, leftOf]
        split_ifs with all
        · simpa [member, all] using left
        · exact member
      rw [told, hears subscriber member, if_pos deleted.2]
      exact ended subscriber member deleted.1 deleted.2
    · cases none

theorem advances_granted (tracks : Tracks history sm) :
    Advances [] history sm (processAgpsEventGranted.next sm) (processAgpsEventGranted.emitted sm) := by
  cases state : sm.state with
  | pending =>
    obtain ⟨next, emitted⟩ := granted_of_pending state
    rw [next, emitted, emitted_notifyAllSubscribers]
    refine advances_notify tracks _ .granted false .forActiveSubscribers rfl (fun h => rfl) ?_ ?_
    · intro subscriber member
      have fits := tracks.heard subscriber member
      rw [state] at fits
      cases inactive : subscriber.isInactive <;> simp_all [Heard, AgpsNotificationType.covers, AgpsEvent.callback]
    · exact fun _ _ none => nomatch none
  | released | acquired | releasing =>
    exact advances_of_same tracks (by simp [processAgpsEventGranted, state]) (by simp [processAgpsEventGranted, state])
      (by simp [processAgpsEventGranted, state])

theorem advances_closeReleasing (tracks : Tracks history sm) (state : sm.state = .releasing) :
    Advances [] history sm (closeReleasing.next sm) (closeReleasing.emitted sm) := by
  obtain ⟨next, emitted⟩ := closeReleasing_eq (next_notifyAllSubscribers sm .released true .forInactiveSubscribers)
  rw [next, emitted, emitted_notifyAllSubscribers]
  refine advances_notify tracks sm .released true .forInactiveSubscribers rfl (fun h => ?_) ?_ ?_
  · rw [callbacks_append]
    split_ifs
    · rw [callbacks_requestOrReleaseDataConn, List.append_nil]
    · rw [callbacks_nil, List.append_nil]
  · intro subscriber member
    obtain ⟨listed, active⟩ : subscriber ∈ sm.subscriberList ∧ subscriber.isInactive = false := by
      simpa [leftOf, AgpsNotificationType.covers] using member
    have waits : (leftOf true .forInactiveSubscribers sm.subscriberList).any (fun s => !s.isInactive) = true :=
      List.any_eq_true.mpr ⟨subscriber, member, by rw [active]; rfl⟩
    have fits := tracks.heard subscriber listed
    rw [state, active] at fits
    simp only [anyActiveSubscribers, waits, if_true, active, AgpsNotificationType.covers, Bool.false_eq_true, if_false,
      List.append_nil]
    exact fits
  · intro subscriber member _ _
    exact (tracks.heard subscriber member).close

/-- Everyone is told and deleted. -/
theorem advances_notifyAll_released {calls : List AgpsCall} (tracks : Tracks history sm) (teller : AgpsStateMachine)
    (event : AgpsEvent) (told : calls = (notifyFrom event true .forAllSubscribers sm.subscriberList).emitted teller)
    (ended : ∀ subscriber ∈ sm.subscriberList, Ended (history subscriber.connHandle ++ event.callback)) :
    Advances [] history sm { sm with state := .released, subscriberList := [] } calls := by
  refine advances_notify tracks teller event true .forAllSubscribers ?_ (fun h => by rw [told]) ?_ ?_
  · simp [leftOf, AgpsNotificationType.covers]
  · exact fun _ none => nomatch none
  · exact fun subscriber member _ _ => ended subscriber member

theorem advances_released (tracks : Tracks history sm) :
    Advances [] history sm (processAgpsEventReleased.next sm) (processAgpsEventReleased.emitted sm) := by
  cases state : sm.state with
  | acquired =>
    obtain ⟨next, emitted⟩ := released_of_acquired state
    rw [next]
    exact advances_notifyAll_released tracks { sm with state := .released } .released emitted
      fun subscriber member => (tracks.heard subscriber member).close
  | releasing =>
    obtain ⟨next, emitted⟩ := released_of_releasing state
    rw [next, emitted]
    exact advances_closeReleasing tracks state
  | released | pending =>
    exact advances_of_same tracks (by simp [processAgpsEventReleased, state])
      (by simp [processAgpsEventReleased, state]) (by simp [processAgpsEventReleased, state])

theorem advances_denied (tracks : Tracks history sm) :
    Advances [] history sm (processAgpsEventDenied.next sm) (processAgpsEventDenied.emitted sm) := by
  cases state : sm.state with
  | pending =>
    obtain ⟨next, emitted⟩ := denied_of_pending state
    rw [next]
    refine advances_notifyAll_released tracks { sm with state := .released } .denied emitted fun subscriber member => ?_
    have fits : history subscriber.connHandle = [] := by
      have fits := tracks.heard subscriber member
      rw [state] at fits
      exact fits
    rw [fits]
    exact .inr (.inl rfl)
  | releasing =>
    obtain ⟨next, emitted⟩ := denied_of_releasing state
    rw [next, emitted]
    exact advances_closeReleasing tracks state
  | released | acquired =>
    exact advances_of_same tracks (by simp [processAgpsEventDenied, state])
      (by simp [processAgpsEventDenied, state]) (by simp [processAgpsEventDenied, state])

section Join

variable {currentSubscriber : AgpsSubscriber} (unlisted : currentSubscriber.connHandle ∉ sm.handles)
include unlisted

theorem addSubscriber_of_notMem :
    sm.addSubscriber currentSubscriber = { sm with subscriberList := sm.subscriberList ++ [currentSubscriber] } := by
  rw [addSubscriber, if_neg]
  intro listed
  obtain ⟨subscriber, member, same⟩ := List.any_eq_true.mp listed
  exact unlisted (mem_handles.mpr ⟨subscriber, member, by simpa using same⟩)

theorem advances_join {sm' : AgpsStateMachine} {calls : List AgpsCall} (tracks : Tracks history sm)
    (new : history currentSubscriber.connHandle = []) (first : List Callback)
    (list : sm'.subscriberList = sm.subscriberList ++ [currentSubscriber])
    (told : ∀ h, callbacks h calls = if currentSubscriber.connHandle = h then first else [])
    (old : ∀ subscriber ∈ sm.subscriberList, Heard sm'.state subscriber.isInactive (history subscriber.connHandle))
    (fits : Heard sm'.state currentSubscriber.isInactive first) :
    Advances [currentSubscriber.connHandle] history sm sm' calls := by
  have handles : sm'.handles = sm.handles ++ [currentSubscriber.connHandle] := by
    rw [AgpsStateMachine.handles, list, List.map_append]
    rfl
  refine ⟨⟨?_, fun subscriber member => ?_⟩, fun h other different => ⟨?_, ?_⟩, ?_⟩
  · rw [handles]
    exact List.Nodup.append tracks.nodup (List.nodup_singleton _) (List.disjoint_singleton.mpr unlisted)
  · rw [told]
    rw [list, List.mem_append, List.mem_singleton] at member
    rcases member with member | rfl
    · have other : currentSubscriber.connHandle ≠ subscriber.connHandle :=
        fun same => unlisted (mem_handles.mpr ⟨subscriber, member, same.symm⟩)
      rw [if_neg other, List.append_nil]
      exact old subscriber member
    · rw [new, if_pos rfl]
      exact fits
  · rw [told, if_neg]
    exact fun same => different (List.mem_singleton.mpr same.symm)
  · rw [handles, List.mem_append, not_or]
    exact ⟨other, different⟩
  · intro h listed gone
    rw [handles, List.mem_append, not_or] at gone
    exact absurd listed (not_or.mpr gone)

/-- A new handle joins the list; it hears of the connection at once if there is one. -/
theorem advances_subscribe (tracks : Tracks history sm) (new : history currentSubscriber.connHandle = [])
    (active : currentSubscriber.isInactive = false) :
    Advances [currentSubscriber.connHandle] history sm ((processAgpsEventSubscribe currentSubscriber).next sm)
      ((processAgpsEventSubscribe currentSubscriber).emitted sm) := by
  have added := addSubscriber_of_notMem unlisted
  cases state : sm.state with
  | released =>
    obtain ⟨next, emitted⟩ := subscribe_of_released currentSubscriber state
    rw [next, emitted, added]
    refine advances_join unlisted tracks new [] rfl (fun h => ?_) ?_ rfl
    · rw [callbacks_requestOrReleaseDataConn, ite_self]
    · rw [tracks.list_eq_nil state]
      exact fun _ none => nomatch none
  | pending =>
    obtain ⟨next, emitted⟩ := subscribe_of_waiting currentSubscriber (.inl state)
    rw [next, emitted, added]
    refine advances_join unlisted tracks new [] rfl (fun h => by simp) tracks.heard ?_
    rw [active]
    exact state ▸ rfl
  | acquired =>
    obtain ⟨next, emitted⟩ := subscribe_of_acquired currentSubscriber state
    rw [next, emitted, added]
    refine advances_join unlisted tracks new _ rfl
      (fun h => callbacks_notifyEventToSubscriber sm .granted currentSubscriber h false) tracks.heard ?_
    rw [active]
    exact state ▸ rfl
  | releasing =>
    obtain ⟨next, emitted⟩ := subscribe_of_waiting currentSubscriber (.inr state)
    rw [next, emitted, added]
    refine advances_join unlisted tracks new [] rfl (fun h => by simp) tracks.heard ?_
    rw [active]
    exact state ▸ rfl

end Join

theorem advances_subscribeTo {connHandle : Int32} (tracks : Tracks history sm) (unlisted : connHandle ∉ sm.handles)
    (new : history connHandle = []) (agpsType : Int8) (apnTypeMask : UInt32) :
    Advances [connHandle] history sm ((subscribeTo connHandle agpsType apnTypeMask).next sm)
      ((subscribeTo connHandle agpsType apnTypeMask).emitted sm) := by
  have retyped : Tracks history { sm with agpsType, apnTypeMask } := ⟨tracks.nodup, tracks.heard⟩
  let subscriber : AgpsSubscriber := { connHandle, waitForCloseComplete := true, isInactive := false, apnTypeMask }
  have absent : subscriber.connHandle ∉ ({ sm with agpsType, apnTypeMask } : AgpsStateMachine).handles := unlisted
  exact (advances_subscribe absent retyped new rfl).congr rfl

theorem setAPN_same (sm : AgpsStateMachine) (apn : Option Bytes) (len : UInt32) :
    (sm.setAPN apn len).subscriberList = sm.subscriberList ∧ (sm.setAPN apn len).state = sm.state := by
  cases apn with
  | none => exact ⟨rfl, rfl⟩
  | some apn =>
    rw [setAPN]
    split_ifs
    · exact ⟨rfl, rfl⟩
    · exact ⟨rfl, rfl⟩

theorem advances_openWith (tracks : Tracks history sm) (apnName : Option Bytes) (apnLen : UInt32) (bearerType : Int16) :
    Advances [] history sm ((openWith apnName apnLen bearerType).next sm)
      ((openWith apnName apnLen bearerType).emitted sm) := by
  obtain ⟨list, state⟩ := setAPN_same { sm with bearer := bearerType } apnName apnLen
  have handles : (({ sm with bearer := bearerType } : AgpsStateMachine).setAPN apnName apnLen).handles =
    sm.handles := by
    rw [AgpsStateMachine.handles, list, AgpsStateMachine.handles]
  have renamed : Tracks history (({ sm with bearer := bearerType } : AgpsStateMachine).setAPN apnName apnLen) := by
    refine ⟨handles ▸ tracks.nodup, ?_⟩
    rw [list, state]
    exact tracks.heard
  exact (advances_granted renamed).congr handles

section Leave

variable {currentSubscriber : AgpsSubscriber}

theorem map_connHandle_markInactive (connHandle : Int32) (l : List AgpsSubscriber) :
    (markInactive connHandle l).map AgpsSubscriber.connHandle = l.map AgpsSubscriber.connHandle := by
  induction l with
  | nil => rfl
  | cons subscriber rest ih =>
    rw [markInactive]
    split_ifs
    · rfl
    · rw [List.map_cons, ih, List.map_cons]

theorem mem_markInactive {connHandle : Int32} {l : List AgpsSubscriber} {subscriber : AgpsSubscriber}
    (member : subscriber ∈ markInactive connHandle l) : ∃ old ∈ l, old.connHandle = subscriber.connHandle ∧
      (old.isInactive = subscriber.isInactive ∨ subscriber.isInactive = true) := by
  induction l with
  | nil => cases member
  | cons first rest ih =>
    rw [markInactive] at member
    split_ifs at member
    · rcases List.mem_cons.mp member with rfl | later
      · exact ⟨first, List.mem_cons_self, rfl, .inr rfl⟩
      · exact ⟨subscriber, List.mem_cons_of_mem _ later, rfl, .inl rfl⟩
    · rcases List.mem_cons.mp member with rfl | later
      · exact ⟨subscriber, List.mem_cons_self, rfl, .inl rfl⟩
      · obtain ⟨old, listed, same⟩ := ih later
        exact ⟨old, List.mem_cons_of_mem _ listed, same⟩

/-- Who leaves becomes inactive, or is told and deleted; the others stay. -/
structure Leaves (currentSubscriber : AgpsSubscriber) (sm left : AgpsStateMachine) (calls : List AgpsCall) : Prop where
  state : left.state = sm.state
  handles : left.handles.Sublist sm.handles
  silent : ∀ h, h ≠ currentSubscriber.connHandle ∨ h ∈ left.handles → callbacks h calls = []
  closed : currentSubscriber.connHandle ∉ left.handles → callbacks currentSubscriber.connHandle calls = [.close]
  others : ∀ h ∈ sm.handles, h ≠ currentSubscriber.connHandle → h ∈ left.handles
  old : ∀ subscriber ∈ left.subscriberList, ∃ old ∈ sm.subscriberList, old.connHandle = subscriber.connHandle ∧
    (old.isInactive = subscriber.isInactive ∨ subscriber.isInactive = true)

theorem leaves_leave (listed : currentSubscriber ∈ sm.subscriberList) :
    Leaves currentSubscriber sm ((leave currentSubscriber).next sm) ((leave currentSubscriber).emitted sm) := by
  rw [leave]
  split_ifs with waits
  · have handles : ((Emit.modify fun sm : AgpsStateMachine => { sm with
        subscriberList := markInactive currentSubscriber.connHandle sm.subscriberList } : MachineM Unit).next
          sm).handles =
          sm.handles := map_connHandle_markInactive currentSubscriber.connHandle sm.subscriberList
    refine ⟨rfl, handles ▸ List.Sublist.refl _, fun _ _ => rfl, fun gone => ?_, ?_, ?_⟩
    · exact absurd (mem_handles.mpr ⟨currentSubscriber, listed, rfl⟩) (handles ▸ gone)
    · rw [handles]
      exact fun h listed _ => listed
    · exact fun subscriber member => mem_markInactive member
  · rw [next_notifyEventToSubscriber, if_pos rfl]
    have remaining (subscriber : AgpsSubscriber) : subscriber ∈ (sm.deleteSubscriber currentSubscriber).subscriberList ↔
        subscriber ∈ sm.subscriberList ∧ subscriber.connHandle ≠ currentSubscriber.connHandle := by
      simp [deleteSubscriber]
    refine ⟨rfl, List.filter_sublist.map _, fun h other => ?_, fun _ => ?_, fun h listed other => ?_, ?_⟩
    · rw [callbacks_notifyEventToSubscriber, if_neg]
      rintro rfl
      rcases other with other | kept
      · exact other rfl
      · obtain ⟨subscriber, member, same⟩ := mem_handles.mp kept
        exact ((remaining subscriber).mp member).2 same
    · rw [callbacks_notifyEventToSubscriber, if_pos rfl]
      rfl
    · obtain ⟨subscriber, member, rfl⟩ := mem_handles.mp listed
      exact mem_handles.mpr ⟨subscriber, (remaining subscriber).mpr ⟨member, other⟩, rfl⟩
    · exact fun subscriber member => ⟨subscriber, ((remaining subscriber).mp member).1, rfl, .inl rfl⟩

theorem Heard.inactive {state : AgpsState} {heard : List Callback} (fits : Heard state false heard) :
    Heard state true heard := by
  cases state with
  | released => exact fits
  | pending => exact fits
  | acquired => exact .inr fits
  | releasing => exact .inl fits

theorem Heard.releasing {state : AgpsState} {heard : List Callback} (fits : Heard state true heard) :
    Heard .releasing true heard := fits.short

/-- The machine that someone left stays in its state, or none of its subscribers is active, or it has none. -/
theorem advances_leave {left sm' : AgpsStateMachine} {calls calls' : List AgpsCall} (tracks : Tracks history sm)
    (listed : currentSubscriber ∈ sm.subscriberList) (leaves : Leaves currentSubscriber sm left calls)
    (list : sm'.subscriberList = left.subscriberList) (told : ∀ h, callbacks h calls' = callbacks h calls)
    (state : sm'.state = sm.state ∨ sm'.state = .releasing ∧ left.anyActiveSubscribers = false ∨
      left.subscriberList = []) : Advances [] history sm sm' calls' := by
  have handles : sm'.handles = left.handles := by rw [AgpsStateMachine.handles, list, AgpsStateMachine.handles]
  have current : currentSubscriber.connHandle ∈ sm.handles := mem_handles.mpr ⟨currentSubscriber, listed, rfl⟩
  refine ⟨⟨?_, fun subscriber member => ?_⟩, fun h unlisted _ => ⟨?_, ?_⟩, ?_⟩
  · rw [handles]
    exact tracks.nodup.sublist leaves.handles
  · rw [list] at member
    have kept : subscriber.connHandle ∈ left.handles := mem_handles.mpr ⟨subscriber, member, rfl⟩
    obtain ⟨old, wasListed, same, activity⟩ := leaves.old subscriber member
    have fits : Heard sm.state subscriber.isInactive (history subscriber.connHandle) := by
      have before := tracks.heard old wasListed
      rw [same] at before
      rcases activity with activity | inactive
      · exact activity ▸ before
      · rw [inactive]
        cases was : old.isInactive with
        | false => exact (was ▸ before).inactive
        | true => exact was ▸ before
    rw [told, leaves.silent _ (.inr kept), List.append_nil]
    rcases state with state | ⟨state, inactive⟩ | none
    · rw [state]; exact fits
    · have quiet : subscriber.isInactive = true := by
        simpa using List.any_eq_false.mp inactive subscriber member
      rw [state, quiet]
      exact (quiet ▸ fits).releasing
    · rw [none] at member; cases member
  · rw [told, leaves.silent]
    exact .inl fun same => unlisted (same ▸ current)
  · rw [handles]
    exact fun member => unlisted (leaves.handles.subset member)
  · rintro h (wasListed | none) gone
    · rw [handles] at gone
      rcases eq_or_ne h currentSubscriber.connHandle with rfl | other
      · rw [told, leaves.closed gone]
        exact (tracks.heard currentSubscriber listed).close
      · exact absurd (leaves.others h wasListed other) gone
    · cases none

theorem advances_unsubscribe (tracks : Tracks history sm) (listed : currentSubscriber ∈ sm.subscriberList) :
    Advances [] history sm ((processAgpsEventUnsubscribe currentSubscriber).next sm)
      ((processAgpsEventUnsubscribe currentSubscriber).emitted sm) := by
  have leaves := leaves_leave listed
  have heldCase (held : sm.state = .pending ∨ sm.state = .acquired) :
      Advances [] history sm ((processAgpsEventUnsubscribe currentSubscriber).next sm)
        ((processAgpsEventUnsubscribe currentSubscriber).emitted sm) := by
    obtain ⟨next, emitted⟩ := unsubscribe_of_held currentSubscriber held rfl
    rw [next, emitted]
    refine advances_leave tracks listed leaves ?_ (fun h => ?_) ?_
    · split_ifs <;> rfl
    · rw [callbacks_append]
      split_ifs
      · rw [callbacks_nil, List.append_nil]
      · rw [callbacks_requestOrReleaseDataConn, List.append_nil]
    · split_ifs with empty inactive
      · exact .inr (.inr (List.isEmpty_iff.mp empty))
      · exact .inr (.inl ⟨rfl, inactive⟩)
      · exact .inl leaves.state
  cases state : sm.state with
  | released => rw [tracks.list_eq_nil state] at listed; cases listed
  | pending => exact heldCase (.inl state)
  | acquired => exact heldCase (.inr state)
  | releasing =>
    obtain ⟨next, emitted⟩ := unsubscribe_of_releasing currentSubscriber state rfl
    rw [next, emitted]
    refine advances_leave tracks listed leaves ?_ (fun h => rfl) ?_
    · split_ifs <;> rfl
    · split_ifs with empty
      · exact .inr (.inr (List.isEmpty_iff.mp empty))
      · exact .inl leaves.state

end Leave

end Histories

end Cypfr.Agps
