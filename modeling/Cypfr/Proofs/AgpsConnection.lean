import Cypfr.Proofs.Agps

/-! # Who holds a connection and what the framework is told

A machine that has a connection, or waits for one, keeps an active subscriber over every event, and the
statuses it sends to the framework tell when a connection begins and ends.
-/

namespace Cypfr.Agps

open AgpsStateMachine

section Held

variable {sm : AgpsStateMachine}

/-- A released machine has no subscribers. -/
def Idle (sm : AgpsStateMachine) : Prop := sm.state = .released → sm.subscriberList = []

/-- The connection is requested or there. -/
def Connected (sm : AgpsStateMachine) : Prop := sm.state = .pending ∨ sm.state = .acquired

/-- A connection has an active subscriber. -/
def Held (sm : AgpsStateMachine) : Prop := Connected sm → sm.anyActiveSubscribers = true

theorem state_leave (currentSubscriber : AgpsSubscriber) : ((leave currentSubscriber).next sm).state = sm.state := by
  rw [leave, Emit.next_ite]
  split_ifs
  · rfl
  · rw [next_notifyEventToSubscriber, if_pos rfl]
    rfl

theorem state_addSubscriber (currentSubscriber : AgpsSubscriber) :
    (sm.addSubscriber currentSubscriber).state = sm.state := by
  rw [addSubscriber]
  split_ifs <;> rfl

theorem anyActive_addSubscriber (currentSubscriber : AgpsSubscriber) (active : sm.anyActiveSubscribers = true) :
    (sm.addSubscriber currentSubscriber).anyActiveSubscribers = true := by
  rw [addSubscriber]
  split_ifs
  · exact active
  · rw [anyActiveSubscribers, List.any_append, Bool.or_eq_true]
    exact .inl active

/-- What a program keeps of the two. -/
structure KeepsHeld (sm sm' : AgpsStateMachine) : Prop where
  idle : Idle sm → Idle sm'
  held : Idle sm → Held sm → Held sm'

theorem not_connected (state : sm.state = .released ∨ sm.state = .releasing) : ¬ Connected sm := by
  rintro (pending | acquired)
  · rw [pending] at state; simp at state
  · rw [acquired] at state; simp at state

theorem Connected.idle (connected : Connected sm) : Idle sm :=
  fun released => absurd connected (not_connected (.inl released))

theorem keepsHeld_of_connected {sm' : AgpsStateMachine} (connected : Connected sm')
    (held : Idle sm → Held sm → Held sm') :
    KeepsHeld sm sm' :=
  ⟨fun _ => connected.idle, held⟩

theorem keepsHeld_of_released {sm' : AgpsStateMachine} (state : sm'.state = .released)
    (none : sm'.subscriberList = []) :
    KeepsHeld sm sm' :=
  ⟨fun _ _ => none, fun _ _ connected => absurd connected (not_connected (.inl state))⟩

theorem keepsHeld_of_releasing {sm' : AgpsStateMachine} (state : sm'.state = .releasing) : KeepsHeld sm sm' := by
  constructor
  · intro _ released
    rw [state] at released
    cases released
  · exact fun _ _ connected => absurd connected (not_connected (.inr state))

theorem keepsHeld_of_same {sm' : AgpsStateMachine} (list : sm'.subscriberList = sm.subscriberList)
    (state : sm'.state = sm.state) : KeepsHeld sm sm' := by
  constructor
  · intro idle released
    rw [list]
    exact idle (state ▸ released)
  · intro _ held connected
    rw [anyActiveSubscribers, list]
    rw [Connected, state] at connected
    exact held connected

/-- A subscriber that joins is the first of a new connection, or one more of an old one. -/
theorem keepsHeld_subscribe {currentSubscriber : AgpsSubscriber} (active : currentSubscriber.isInactive = false) :
    KeepsHeld sm ((processAgpsEventSubscribe currentSubscriber).next sm) := by
  cases state : sm.state with
  | released =>
    rw [(subscribe_of_released currentSubscriber state).1]
    refine keepsHeld_of_connected (.inl rfl) fun idle _ _ => ?_
    simp [addSubscriber, idle state, anyActiveSubscribers, active]
  | pending =>
    rw [(subscribe_of_waiting currentSubscriber (.inl state)).1]
    refine keepsHeld_of_connected (.inl ?_) fun _ held _ => anyActive_addSubscriber _ (held (.inl state))
    rw [state_addSubscriber, state]
  | acquired =>
    rw [(subscribe_of_acquired currentSubscriber state).1]
    refine keepsHeld_of_connected (.inr ?_) fun _ held _ => anyActive_addSubscriber _ (held (.inr state))
    rw [state_addSubscriber, state]
  | releasing =>
    rw [(subscribe_of_waiting currentSubscriber (.inr state)).1]
    refine keepsHeld_of_releasing ?_
    rw [state_addSubscriber, state]

/-- With the last active subscriber the connection goes. -/
theorem keepsHeld_unsubscribe (currentSubscriber : AgpsSubscriber) :
    KeepsHeld sm ((processAgpsEventUnsubscribe currentSubscriber).next sm) := by
  have connectedCase (connected : Connected sm) :
      KeepsHeld sm ((processAgpsEventUnsubscribe currentSubscriber).next sm) := by
    rw [(unsubscribe_of_held currentSubscriber connected rfl).1]
    split_ifs with empty inactive
    · exact keepsHeld_of_released rfl (List.isEmpty_iff.mp empty)
    · exact keepsHeld_of_releasing rfl
    · refine keepsHeld_of_connected ?_ fun _ _ _ => Bool.not_eq_false _ ▸ inactive
      rw [Connected, state_leave]
      exact connected
  cases state : sm.state with
  | released =>
    have same : (processAgpsEventUnsubscribe currentSubscriber).next sm = sm := by
      simp [processAgpsEventUnsubscribe, state, next_notifyEventToSubscriber]
    rw [same]
    exact keepsHeld_of_same rfl rfl
  | pending => exact connectedCase (.inl state)
  | acquired => exact connectedCase (.inr state)
  | releasing =>
    rw [(unsubscribe_of_releasing currentSubscriber state rfl).1]
    split_ifs with empty
    · exact keepsHeld_of_released rfl (List.isEmpty_iff.mp empty)
    · refine keepsHeld_of_releasing ?_
      rw [state_leave, state]

theorem keepsHeld_granted : KeepsHeld sm (processAgpsEventGranted.next sm) := by
  cases state : sm.state with
  | pending =>
    rw [(granted_of_pending state).1]
    exact keepsHeld_of_connected (.inr rfl) fun _ held _ => held (.inl state)
  | released | acquired | releasing =>
    exact keepsHeld_of_same (by simp [processAgpsEventGranted, state]) (by simp [processAgpsEventGranted, state])

theorem keepsHeld_closeReleasing : KeepsHeld sm (closeReleasing.next sm) := by
  rw [(closeReleasing_eq (next_notifyAllSubscribers sm .released true .forInactiveSubscribers)).1]
  cases active : ({ sm with subscriberList := leftOf true .forInactiveSubscribers sm.subscriberList } :
      AgpsStateMachine).anyActiveSubscribers with
  | true => exact keepsHeld_of_connected (.inl rfl) fun _ _ _ => active
  | false =>
    refine keepsHeld_of_released rfl ?_
    refine List.eq_nil_iff_forall_not_mem.mpr fun subscriber member => ?_
    have inactive := List.any_eq_false.mp active subscriber member
    simp [leftOf, AgpsNotificationType.covers] at member inactive
    rw [member.2] at inactive
    cases inactive

theorem keepsHeld_released : KeepsHeld sm (processAgpsEventReleased.next sm) := by
  cases state : sm.state with
  | acquired => rw [(released_of_acquired state).1]; exact keepsHeld_of_released rfl rfl
  | releasing => rw [(released_of_releasing state).1]; exact keepsHeld_closeReleasing
  | released | pending =>
    exact keepsHeld_of_same (by simp [processAgpsEventReleased, state]) (by simp [processAgpsEventReleased, state])

theorem keepsHeld_denied : KeepsHeld sm (processAgpsEventDenied.next sm) := by
  cases state : sm.state with
  | pending => rw [(denied_of_pending state).1]; exact keepsHeld_of_released rfl rfl
  | releasing => rw [(denied_of_releasing state).1]; exact keepsHeld_closeReleasing
  | released | acquired =>
    exact keepsHeld_of_same (by simp [processAgpsEventDenied, state]) (by simp [processAgpsEventDenied, state])

theorem KeepsHeld.trans {sm₁ sm₂ : AgpsStateMachine} (first : KeepsHeld sm sm₁) (second : KeepsHeld sm₁ sm₂) :
    KeepsHeld sm sm₂ :=
  ⟨fun idle => second.idle (first.idle idle), fun idle held => second.held (first.idle idle) (first.held idle held)⟩

theorem keepsHeld_subscribeTo (connHandle : Int32) (agpsType : Int8) (apnTypeMask : UInt32) :
    KeepsHeld sm ((subscribeTo connHandle agpsType apnTypeMask).next sm) := by
  have retyped : KeepsHeld sm { sm with agpsType, apnTypeMask } := keepsHeld_of_same rfl rfl
  exact retyped.trans (keepsHeld_subscribe rfl)

theorem keepsHeld_openWith (apnName : Option Bytes) (apnLen : UInt32) (bearerType : Int16) :
    KeepsHeld sm ((openWith apnName apnLen bearerType).next sm) := by
  obtain ⟨list, state⟩ := setAPN_same { sm with bearer := bearerType } apnName apnLen
  have renamed : KeepsHeld sm (({ sm with bearer := bearerType } : AgpsStateMachine).setAPN apnName apnLen) :=
    keepsHeld_of_same list state
  exact renamed.trans keepsHeld_granted

end Held

section Statuses

/-- The status that a call sends to the framework. -/
def AgpsCall.status : AgpsCall → Option (AgpsStatusValue × Int8 × UInt32)
  | .frameworkStatus status agpsType apnTypeMask => some (status, agpsType, apnTypeMask)
  | .atlOpenStatus _ _ _ _ _ _ _ => none
  | .atlCloseStatus _ _ => none

/-- The statuses that some calls send to the framework. -/
def statuses (calls : List AgpsCall) : List (AgpsStatusValue × Int8 × UInt32) := calls.filterMap AgpsCall.status

/-- What a program tells the framework: nothing while the connection stays as it is or there is none after it, a
request of the connection after it, or a release of the one before it. -/
inductive Announces (sm sm' : AgpsStateMachine) (calls : List AgpsCall) : Prop where
  | nothing (silent : statuses calls = []) (same : Connected sm' → Connected sm ∧ sm'.agpsType = sm.agpsType ∧
      sm'.apnTypeMask = sm.apnTypeMask)
  | request (sent : statuses calls = [(.requestAgpsDataConn, sm'.agpsType, sm'.apnTypeMask)])
  | release (sent : statuses calls = [(.releaseAgpsDataConn, sm.agpsType, sm.apnTypeMask)]) (before : Connected sm)
      (after : ¬ Connected sm')

variable {sm : AgpsStateMachine}

theorem statuses_append (calls calls' : List AgpsCall) : statuses (calls ++ calls') = statuses calls ++
    statuses calls' :=
  List.filterMap_append

theorem statuses_notifyEventToSubscriber (event : AgpsEvent) (subscriber : AgpsSubscriber) (delete : Bool) :
    statuses ((notifyEventToSubscriber event subscriber delete).emitted sm) = [] := by
  cases event <;> cases delete <;> rfl

theorem statuses_notifyFrom (event : AgpsEvent) (delete : Bool) (notificationType : AgpsNotificationType)
    (l : List AgpsSubscriber) : statuses ((notifyFrom event delete notificationType l).emitted sm) = [] := by
  induction l with
  | nil => rfl
  | cons subscriber rest ih =>
    simp only [notifyFrom, Emit.emitted_ite, Emit.emitted_bind, Emit.emitted_pure, List.append_nil,
      next_notifyEventToSubscriber, Bool.false_eq_true, if_false]
    split_ifs
    · rw [statuses_append, statuses_notifyEventToSubscriber, ih, List.append_nil]
    · exact ih

theorem leave_same (currentSubscriber : AgpsSubscriber) :
    statuses ((leave currentSubscriber).emitted sm) = [] ∧
    ((leave currentSubscriber).next sm).agpsType = sm.agpsType ∧
    ((leave currentSubscriber).next sm).apnTypeMask = sm.apnTypeMask := by
  rw [leave]
  split_ifs
  · exact ⟨rfl, rfl, rfl⟩
  · rw [next_notifyEventToSubscriber, if_pos rfl]
    exact ⟨statuses_notifyEventToSubscriber _ _ _, rfl, rfl⟩

theorem addSubscriber_same (currentSubscriber : AgpsSubscriber) :
    (sm.addSubscriber currentSubscriber).agpsType = sm.agpsType ∧
    (sm.addSubscriber currentSubscriber).apnTypeMask = sm.apnTypeMask := by
  rw [addSubscriber]
  split_ifs <;> exact ⟨rfl, rfl⟩

/-- A program that tells the framework nothing and does not connect. -/
theorem announces_of_not_connected {sm' : AgpsStateMachine} {calls : List AgpsCall} (silent : statuses calls = [])
    (unconnected : ¬ Connected sm') : Announces sm sm' calls :=
  .nothing silent fun connected => absurd connected unconnected

theorem announces_subscribe (currentSubscriber : AgpsSubscriber) : Announces sm
    ((processAgpsEventSubscribe currentSubscriber).next sm)
    ((processAgpsEventSubscribe currentSubscriber).emitted sm) := by
  obtain ⟨agpsType, apnTypeMask⟩ : (sm.addSubscriber currentSubscriber).agpsType = sm.agpsType ∧
    (sm.addSubscriber currentSubscriber).apnTypeMask = sm.apnTypeMask := addSubscriber_same currentSubscriber
  cases state : sm.state with
  | released =>
    rw [(subscribe_of_released currentSubscriber state).1, (subscribe_of_released currentSubscriber state).2]
    exact .request rfl
  | pending =>
    rw [(subscribe_of_waiting currentSubscriber (.inl state)).1,
      (subscribe_of_waiting currentSubscriber (.inl state)).2]
    exact .nothing rfl fun _ => ⟨.inl state, agpsType, apnTypeMask⟩
  | acquired =>
    rw [(subscribe_of_acquired currentSubscriber state).1, (subscribe_of_acquired currentSubscriber state).2]
    exact .nothing (statuses_notifyEventToSubscriber _ _ _) fun _ => ⟨.inr state, agpsType, apnTypeMask⟩
  | releasing =>
    rw [(subscribe_of_waiting currentSubscriber (.inr state)).1,
      (subscribe_of_waiting currentSubscriber (.inr state)).2]
    refine announces_of_not_connected rfl (not_connected (.inr ?_))
    rw [state_addSubscriber, state]

theorem announces_unsubscribe (currentSubscriber : AgpsSubscriber) : Announces sm
    ((processAgpsEventUnsubscribe currentSubscriber).next sm)
    ((processAgpsEventUnsubscribe currentSubscriber).emitted sm) := by
  obtain ⟨silent, agpsType, apnTypeMask⟩ : statuses ((leave currentSubscriber).emitted sm) = [] ∧
    ((leave currentSubscriber).next sm).agpsType = sm.agpsType ∧
    ((leave currentSubscriber).next sm).apnTypeMask = sm.apnTypeMask := leave_same currentSubscriber
  have connectedCase (connected : Connected sm) : Announces sm
      ((processAgpsEventUnsubscribe currentSubscriber).next sm)
      ((processAgpsEventUnsubscribe currentSubscriber).emitted sm) := by
    obtain ⟨next, emitted⟩ := unsubscribe_of_held currentSubscriber connected rfl
    rw [next, emitted]
    have sent : statuses ((requestOrReleaseDataConn false).emitted ((leave currentSubscriber).next sm)) =
        [(.releaseAgpsDataConn, sm.agpsType, sm.apnTypeMask)] := by
      rw [← agpsType, ← apnTypeMask]
      rfl
    cases active : ((leave currentSubscriber).next sm).anyActiveSubscribers with
    | true =>
      have some : ((leave currentSubscriber).next sm).subscriberList.isEmpty = false := by
        rw [List.isEmpty_eq_false_iff]
        intro none
        rw [anyActiveSubscribers, none] at active
        cases active
      rw [if_pos rfl, List.append_nil, some]
      exact .nothing silent fun _ => ⟨connected, agpsType, apnTypeMask⟩
    | false =>
      refine .release ?_ connected (not_connected ?_)
      · rw [statuses_append, silent, if_neg Bool.false_ne_true, sent]
        rfl
      · split_ifs with empty always
        · exact .inl rfl
        · exact .inr rfl
        · exact absurd rfl always
  cases state : sm.state with
  | released =>
    refine announces_of_not_connected ?_ (not_connected (.inl ?_))
    · simp [processAgpsEventUnsubscribe, state, statuses_notifyEventToSubscriber]
    · simp [processAgpsEventUnsubscribe, state, next_notifyEventToSubscriber]
  | pending => exact connectedCase (.inl state)
  | acquired => exact connectedCase (.inr state)
  | releasing =>
    obtain ⟨next, emitted⟩ := unsubscribe_of_releasing currentSubscriber state rfl
    rw [next, emitted]
    refine announces_of_not_connected silent ?_
    split_ifs
    · exact not_connected (.inl rfl)
    · refine not_connected (.inr ?_)
      rw [state_leave, state]

theorem announces_granted : Announces sm (processAgpsEventGranted.next sm) (processAgpsEventGranted.emitted sm) := by
  cases state : sm.state with
  | pending =>
    rw [(granted_of_pending state).1, (granted_of_pending state).2, emitted_notifyAllSubscribers]
    exact .nothing (statuses_notifyFrom _ _ _ _) fun _ => ⟨.inl state, rfl, rfl⟩
  | acquired =>
    exact .nothing (by simp [processAgpsEventGranted, state, statuses])
      fun _ => ⟨.inr state, by simp [processAgpsEventGranted, state], by simp [processAgpsEventGranted, state]⟩
  | released | releasing =>
    refine announces_of_not_connected (by simp [processAgpsEventGranted, state, statuses]) (not_connected ?_)
    simp [processAgpsEventGranted, state]

theorem announces_closeReleasing : Announces sm (closeReleasing.next sm) (closeReleasing.emitted sm) := by
  obtain ⟨next, emitted⟩ := closeReleasing_eq (next_notifyAllSubscribers sm .released true .forInactiveSubscribers)
  rw [next, emitted, emitted_notifyAllSubscribers]
  split_ifs with active
  · refine .request ?_
    rw [statuses_append, statuses_notifyFrom]
    rfl
  · refine announces_of_not_connected ?_ (not_connected (.inl rfl))
    rw [statuses_append, statuses_notifyFrom]
    rfl

theorem announces_released : Announces sm (processAgpsEventReleased.next sm) (processAgpsEventReleased.emitted sm) := by
  cases state : sm.state with
  | acquired =>
    rw [(released_of_acquired state).1, (released_of_acquired state).2]
    exact announces_of_not_connected (statuses_notifyFrom _ _ _ _) (not_connected (.inl rfl))
  | releasing => rw [(released_of_releasing state).1, (released_of_releasing state).2]; exact announces_closeReleasing
  | released =>
    refine announces_of_not_connected (by simp [processAgpsEventReleased, state, statuses]) (not_connected (.inl ?_))
    simp [processAgpsEventReleased, state]
  | pending =>
    exact .nothing (by simp [processAgpsEventReleased, state, statuses])
      fun _ => ⟨.inl state, by simp [processAgpsEventReleased, state], by simp [processAgpsEventReleased, state]⟩

theorem announces_denied : Announces sm (processAgpsEventDenied.next sm) (processAgpsEventDenied.emitted sm) := by
  cases state : sm.state with
  | pending =>
    rw [(denied_of_pending state).1, (denied_of_pending state).2]
    exact announces_of_not_connected (statuses_notifyFrom _ _ _ _) (not_connected (.inl rfl))
  | releasing => rw [(denied_of_releasing state).1, (denied_of_releasing state).2]; exact announces_closeReleasing
  | released =>
    refine announces_of_not_connected (by simp [processAgpsEventDenied, state, statuses]) (not_connected (.inl ?_))
    simp [processAgpsEventDenied, state]
  | acquired =>
    exact .nothing (by simp [processAgpsEventDenied, state, statuses])
      fun _ => ⟨.inr state, by simp [processAgpsEventDenied, state], by simp [processAgpsEventDenied, state]⟩

/-- What a program announces depends on the state, the type and the mask before it. -/
theorem Announces.congr {sm₁ sm' : AgpsStateMachine} {calls : List AgpsCall} (announces : Announces sm₁ sm' calls)
    (state : sm₁.state = sm.state) (agpsType : Connected sm → sm₁.agpsType = sm.agpsType)
    (apnTypeMask : Connected sm → sm₁.apnTypeMask = sm.apnTypeMask) : Announces sm sm' calls := by
  have connected : Connected sm₁ ↔ Connected sm := by rw [Connected, state, Connected]
  cases announces with
  | nothing silent same =>
    refine .nothing silent fun after => ?_
    obtain ⟨before, sameType, sameMask⟩ := same after
    have before := connected.mp before
    exact ⟨before, sameType.trans (agpsType before), sameMask.trans (apnTypeMask before)⟩
  | request sent => exact .request sent
  | release sent before after =>
    have before := connected.mp before
    rw [agpsType before, apnTypeMask before] at sent
    exact .release sent before after

theorem announces_subscribeTo (connHandle : Int32) {agpsType : Int8} {apnTypeMask : UInt32}
    (alike : Connected sm → (agpsType, apnTypeMask) = (sm.agpsType, sm.apnTypeMask)) : Announces sm
    ((subscribeTo connHandle agpsType apnTypeMask).next sm)
    ((subscribeTo connHandle agpsType apnTypeMask).emitted sm) := by
  have retyped : Announces { sm with agpsType, apnTypeMask } ((subscribeTo connHandle agpsType apnTypeMask).next sm)
      ((subscribeTo connHandle agpsType apnTypeMask).emitted sm) := announces_subscribe _
  exact retyped.congr rfl (fun connected => congrArg Prod.fst (alike connected))
    fun connected => congrArg Prod.snd (alike connected)

theorem announces_openWith (apnName : Option Bytes) (apnLen : UInt32) (bearerType : Int16) : Announces sm
    ((openWith apnName apnLen bearerType).next sm) ((openWith apnName apnLen bearerType).emitted sm) := by
  have named (sm : AgpsStateMachine) : (sm.setAPN apnName apnLen).agpsType = sm.agpsType ∧
      (sm.setAPN apnName apnLen).apnTypeMask = sm.apnTypeMask := by
    cases apnName with
    | none => exact ⟨rfl, rfl⟩
    | some apn =>
      rw [setAPN]
      split_ifs <;> exact ⟨rfl, rfl⟩
  have renamed : Announces (({ sm with bearer := bearerType } : AgpsStateMachine).setAPN apnName apnLen)
      ((openWith apnName apnLen bearerType).next sm) ((openWith apnName apnLen bearerType).emitted sm) :=
    announces_granted
  exact renamed.congr (setAPN_same _ apnName apnLen).2 (fun _ => (named _).1) fun _ => (named _).2

end Statuses

end Cypfr.Agps
